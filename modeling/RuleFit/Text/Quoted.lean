import RuleFit.Text.Printable

/-!
# Quoted text

A text inside a message stands in quotes: single ones, unless it holds a single quote and no double
one. The backslash, the quote in use and the three common blanks are escaped by a backslash, and
every other code point that is not printable by its number in two, four or eight hexadecimal digits.
-/

namespace RuleFit.Text

/-- The number in lower-case hexadecimal, padded with zeros to `width` digits. -/
def hex (width n : Nat) : String :=
  let ds := Nat.toDigits 16 n
  String.ofList (List.replicate (width - ds.length) '0' ++ ds)

/-- The quote that a row of code points is written in. -/
def quoteFor (ps : List CodePoint) : Char :=
  if ps.contains (.char '\'') && !ps.contains (.char '"') then '"' else '\''

/-- The escape by a backslash that a character has between quotes `q`, if it has one. -/
def shortEscape? (q c : Char) : Option Text :=
  if c = '\\' then some "\\\\"
  else if c = q then some (ofChars ['\\', q])
  else if c = '\n' then some "\\n"
  else if c = '\r' then some "\\r"
  else if c = '\t' then some "\\t"
  else none

/-- A code point as it stands between quotes `q`. -/
def escapePoint (q : Char) (p : CodePoint) : Text :=
  match p.char?.bind (shortEscape? q) with
  | some escape => escape
  | none =>
    let n := p.number
    if isPrintable p then single p
    else if n < 0x100 then "\\x" ++ hex 2 n
    else if n < 0x10000 then "\\u" ++ hex 4 n
    else "\\U" ++ hex 8 n

/-- The text in quotes. -/
def quoted (t : Text) : Text :=
  let q := quoteFor t.points
  single q ++ join (t.points.map (escapePoint q)) ++ single q

/-- A byte as it stands between quotes `q`: outside of the visible characters of ASCII as a number.
-/
def escapeByte (q : Char) (b : UInt8) : Text :=
  let c := Char.ofNat b.toNat
  match shortEscape? q c with
  | some escape => escape
  | none => if 0x20 ≤ b ∧ b < 0x7f then single c else "\\x" ++ hex 2 b.toNat

/-- Bytes in quotes, marked by a letter in front. -/
def quotedBytes (bs : List UInt8) : Text :=
  let q := quoteFor (bs.map fun b => Char.ofNat b.toNat)
  "b" ++ single q ++ join (bs.map (escapeByte q)) ++ single q

end RuleFit.Text
