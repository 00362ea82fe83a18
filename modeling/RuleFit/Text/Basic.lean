/-!
# Texts

A text is a sequence of code points: characters, and surrogates, which are no characters but which
escapes in data files can bring in. Texts are compared and sorted by the numbers of their code
points. A string is a text without surrogates, and stands for one wherever a text is wanted.
-/

namespace RuleFit

/-- A code point of a text: a character, or a surrogate, counted from the first one. -/
inductive CodePoint where
  | char (c : Char)
  | surrogate (offset : Fin 0x800)
  deriving DecidableEq, Inhabited

namespace CodePoint

instance : Coe Char CodePoint := ⟨.char⟩

/-- The number of the first surrogate. -/
def firstSurrogate : Nat := 0xd800

/-- The number of a code point. -/
def number : CodePoint → Nat
  | .char c => c.toNat
  | .surrogate k => firstSurrogate + k

/-- The code point of a number, which is at most 0x10ffff. -/
def ofNat (n : Nat) : CodePoint :=
  if h : firstSurrogate ≤ n ∧ n < firstSurrogate + 0x800 then
    .surrogate ⟨n - firstSurrogate, by omega⟩
  else .char (Char.ofNat n)

/-- The character that a code point is, if it is one. -/
def char? : CodePoint → Option Char
  | .char c => some c
  | .surrogate _ => none

def isSurrogate (p : CodePoint) : Bool := p.char?.isNone

/-- Whether a code point is a character that passes a test. -/
def charIs (test : Char → Bool) (p : CodePoint) : Bool := p.char?.any test

/-- Whether a property holds of a code point, given by the numbers at which it changes, ascending;
it does not hold at zero. -/
def hasProperty (changes : List Nat) (p : CodePoint) : Bool :=
  (changes.takeWhile (· ≤ p.number)).length % 2 = 1

end CodePoint

/-- A sequence of code points. -/
structure Text where
  points : List CodePoint

namespace Text

/-- Whether two rows of code points are the same. -/
def samePoints : List CodePoint → List CodePoint → Bool
  | [], [] => true
  | .char c :: ps, .char d :: qs => c == d && samePoints ps qs
  | .surrogate m :: ps, .surrogate n :: qs => m == n && samePoints ps qs
  | _, _ => false

theorem samePoints_iff {ps qs : List CodePoint} : samePoints ps qs = true ↔ ps = qs := by
  induction ps generalizing qs with
  | nil => cases qs <;> simp [samePoints]
  | cons p ps ih =>
    cases qs with
    | nil => cases p <;> simp [samePoints]
    | cons q qs => cases p <;> cases q <;> simp [samePoints, ih]

instance : DecidableEq Text := fun a b =>
  decidable_of_iff (samePoints a.points b.points = true) <| by
    cases a; cases b; simp [samePoints_iff]

def empty : Text := ⟨[]⟩

instance : Inhabited Text := ⟨empty⟩

instance : Append Text := ⟨fun a b => ⟨a.points ++ b.points⟩⟩

/-- The text of some characters. -/
def ofChars (cs : List Char) : Text := ⟨cs.map .char⟩

def ofString (s : String) : Text := ofChars s.toList

instance : Coe String Text := ⟨ofString⟩

def isEmpty (t : Text) : Bool := t.points.isEmpty

/-- The number of code points. -/
def length (t : Text) : Nat := t.points.length

/-- The characters of a text without surrogates. -/
def chars? (t : Text) : Option (List Char) := t.points.mapM CodePoint.char?

/-- The string that a text without surrogates is. -/
def string? (t : Text) : Option String := t.chars?.map String.ofList

/-- The characters of a text; for each surrogate stands the character for those that are lost. -/
def chars (t : Text) : List Char := t.points.map fun p => p.char?.getD '\ufffd'

/-- The string of those characters. -/
def plain (t : Text) : String := String.ofList t.chars

/-- A text of one code point. -/
def single (p : CodePoint) : Text := ⟨[p]⟩

/-- Puts texts one behind the other. -/
def join (ts : List Text) : Text := ⟨ts.flatMap points⟩

/-- Puts texts one behind the other with a text between every two. -/
def intercalate (between : Text) : List Text → Text
  | [] => empty
  | [t] => t
  | t :: ts => t ++ between ++ intercalate between ts

/-- A text so many times. -/
def replicate (n : Nat) (p : CodePoint) : Text := ⟨List.replicate n p⟩

/-! ## Order -/

/-- Whether a row of code points comes strictly before another: by the first in which they differ, a
row before its continuations. -/
def pointsBefore : List CodePoint → List CodePoint → Bool
  | _, [] => false
  | [], _ :: _ => true
  | p :: ps, q :: qs =>
    decide (p.number < q.number) || (p.number == q.number && pointsBefore ps qs)

/-- Whether a text comes strictly before another. -/
def before (a b : Text) : Bool := pointsBefore a.points b.points

/-- Whether a text does not come after another. -/
def notAfter (a b : Text) : Bool := !before b a

/-! ## Parts -/

/-- Splits a list at the items that pass a test. -/
def splitAll {α : Type} (test : α → Bool) : List α → List (List α)
  | [] => [[]]
  | x :: xs =>
    if test x then [] :: splitAll test xs
    else
      match splitAll test xs with
      | [] => [[x]]
      | part :: parts => (x :: part) :: parts

/-- The parts of a text between the places where a character stands. -/
def splitOn (t : Text) (c : Char) : List Text :=
  (splitAll (· == CodePoint.char c) t.points).map (⟨·⟩)

/-- Whether a text starts with another. -/
def startsWith (t front : Text) : Bool := front.points.isPrefixOf t.points

/-- The part of a text behind so many code points. -/
def drop (t : Text) (n : Nat) : Text := ⟨t.points.drop n⟩

/-- The first part of a text, of so many code points at most. -/
def take (t : Text) (n : Nat) : Text := ⟨t.points.take n⟩

/-- Whether a piece occurs in a row of code points. -/
def occursFrom (piece : List CodePoint) : List CodePoint → Bool
  | [] => piece.isEmpty
  | p :: ps => piece.isPrefixOf (p :: ps) || occursFrom piece ps

/-- Whether a text occurs in another. -/
def occursIn (piece t : Text) : Bool := occursFrom piece.points t.points

end Text

end RuleFit
