import RuleFit.Text.Digits
import RuleFit.Text.Sign

/-!
# Marked-up text

The report for readers is put together from text with tags in it. A tag stands between brackets; it
starts with a small letter or one of `#`, `/` and `@`, and holds no opening bracket. An even number
of backslashes in front of a tag is shown as half as many, and an odd number makes the tag itself
text. In the text between tags a name between colons stands for the sign of that name.

`shown` is what is left to see of a marked-up text. `escape` prepares a text for being shown as it
is, which works but for three cases: a backslash goes missing in front of a bracket that opens no
tag, a single backslash at the end is doubled, so that no tag put behind it becomes text, and names
of signs are still replaced.
-/

namespace RuleFit.Markup

/-- The characters that a tag can start with. -/
def startsTag (c : Char) : Bool :=
  decide ('a' ≤ c ∧ c ≤ 'z') || c == '#' || c == '/' || c == '@'

/-- Whether what stands behind an opening bracket makes a tag of it. -/
def opensTag : List CodePoint → Bool
  | [] => false
  | p :: ps =>
    p.charIs startsTag
      && (ps.dropWhile fun q => q != .char '[' && q != .char ']').head? == some (.char ']')

/-- So many backslashes. -/
def slashes (n : Nat) : List CodePoint := List.replicate n (.char '\\')

/-- Escapes what follows `n` backslashes. -/
def escapeFrom (n : Nat) : List CodePoint → List CodePoint
  | [] => slashes (if n = 1 then 2 else n)
  | .char '\\' :: ps => escapeFrom (n + 1) ps
  | .char '[' :: ps =>
    slashes (if opensTag ps then 2 * n + 1 else n) ++ .char '[' :: escapeFrom 0 ps
  | p :: ps => slashes n ++ p :: escapeFrom 0 ps

/-- Marks a text up so that its tags are shown. -/
def escape (t : Text) : Text := ⟨escapeFrom 0 t.points⟩

/-! ## Pieces -/

/-- Cuts what follows `n` backslashes into the texts between tags; `piece` holds the current one,
backwards. -/
def piecesFrom (n : Nat) (piece : List CodePoint) : List CodePoint → List (List CodePoint)
  | [] => [(slashes n ++ piece).reverse]
  | .char '\\' :: ps => piecesFrom (n + 1) piece ps
  | .char '[' :: ps =>
    if opensTag ps then
      let inside := ps.takeWhile (· != .char ']')
      let before := [piece.reverse, slashes (n / 2)]
      let tag := if n % 2 = 0 then [] else [.char '[' :: inside ++ [.char ']']]
      before ++ tag ++ piecesAfter ps
    else piecesFrom 0 (.char '[' :: (slashes (n - 1) ++ piece)) ps
  | p :: ps => piecesFrom 0 (p :: (slashes n ++ piece)) ps
where
  /-- Goes on behind the end of a tag. -/
  piecesAfter : List CodePoint → List (List CodePoint)
    | [] => []
    | p :: ps => if p = .char ']' then piecesFrom 0 [] ps else piecesAfter ps

/-! ## Names of signs -/

/-- Splits a name off that stands between colons, from behind the first one. -/
def splitName? (ps : List CodePoint) : Option (List CodePoint × List CodePoint) :=
  let name := ps.takeWhile (· != .char ':')
  match ps.drop name.length with
  | _ :: rest => if name.any Text.isSpace then none else some (name, rest)
  | [] => none

/-- Splits an ending off a name. -/
def withoutEnding? (ending name : Text) : Option Text :=
  if ending.points.isSuffixOf name.points then some (name.take (name.length - ending.length))
  else none

/-- The sign of a name; an ending asks for its plain or its colourful form. -/
def signOf? (name : Text) : Option Text :=
  match withoutEnding? "-text" name, withoutEnding? "-emoji" name with
  | some name, _ => (Text.sign? name).map (· ++ "\ufe0e")
  | none, some name => (Text.sign? name).map (· ++ "\ufe0f")
  | none, none => Text.sign? name

/-- Puts signs for their names. -/
def withSigns (fuel : Nat) (ps : List CodePoint) : List CodePoint :=
  match fuel, ps with
  | 0, ps => ps
  | _, [] => []
  | fuel + 1, p :: ps =>
    if p = .char ':' then
      match splitName? ps with
      | some (name, rest) =>
        let shown := match signOf? ⟨name⟩ with
          | some sign => sign.points
          | none => p :: name ++ [p]
        shown ++ withSigns fuel rest
      | none => p :: withSigns fuel ps
    else p :: withSigns fuel ps

/-! ## What is shown -/

/-- The characters that move the cursor or ring a bell instead of being shown. -/
def isControl (p : CodePoint) : Bool := [0x07, 0x08, 0x0b, 0x0c, 0x0d].contains p.number

/-- The text that is shown for a piece of text. -/
def shownPiece (ps : List CodePoint) : List CodePoint :=
  (withSigns ps.length ps).filter (!isControl ·)

/-- The text that is shown for a marked-up text. -/
def shown (t : Text) : Text := ⟨(piecesFrom 0 [] t.points).flatMap shownPiece⟩

end RuleFit.Markup
