import RuleFit.Yaml.Fault

/-!
# Places in a YAML text

Indentation carries meaning in YAML, so what is left of a text goes together with its line and
column. Between tokens there may be blanks, line breaks and comments, but no tabs. A byte order mark
takes no column.

A text may break off at a fault. The fault shows as soon as a reader looks for more characters than
there are: whoever passes a character looks at the one behind it, and some signs have to be told
apart by what follows them. A cursor remembers whether anyone has looked too far, and `checked` and
`refuse` say so where reading is about to end.
-/

namespace RuleFit.Yaml

/-- What is left of a text, how many characters come before it, where it stands, the fault that the
text breaks off at, if it does, and whether more of it was looked for than there is. -/
structure Cursor where
  rest : List Char
  index : Nat := 0
  line : Nat := 0
  column : Nat := 0
  fault : Option Fault := none
  strained : Bool := false

/-- The characters that end a line. -/
def isBreak (c : Char) : Bool :=
  c == '\n' || c == '\u0085' || c == '\u2028' || c == '\u2029'

/-- Blanks and line breaks. -/
def isGap (c : Char) : Bool := c == ' ' || isBreak c

/-- Blanks, tabs and line breaks. -/
def isSpace (c : Char) : Bool := c == '\t' || isGap c

/-- The line break that counts: the two separators stay, the others are line feeds. -/
def normalBreak (c : Char) : Char := if c == '\u0085' then '\n' else c

/-- Whether a text is at its end or goes on with a space. -/
def endsToken : List Char → Bool
  | [] => true
  | c :: _ => isSpace c

/-- Whether a text is at its end or goes on with a blank or a line break, but no tab. -/
def endsWord : List Char → Bool
  | [] => true
  | c :: _ => isGap c

/-- The letters and digits of names. -/
def isNameChar (c : Char) : Bool := c.isAlphanum || c == '-' || c == '_'

/-- Whether a character is a hexadecimal digit. -/
def isHex (c : Char) : Bool :=
  c.isDigit || decide ('a' ≤ c ∧ c ≤ 'f') || decide ('A' ≤ c ∧ c ≤ 'F')

/-- The number that hexadecimal digits stand for. -/
def hexNumber (ds : List Char) : Nat := Text.digitsIn 16 (ds.map .char)

namespace Cursor

/-- The place behind the next character. -/
def next (cur : Cursor) : Cursor :=
  match cur.rest with
  | [] => cur
  | c :: rest =>
    let cur := { cur with rest, index := cur.index + 1, strained := cur.strained || rest.isEmpty }
    if isBreak c then { cur with line := cur.line + 1, column := 0 }
    else { cur with column := if c == '\uFEFF' then cur.column else cur.column + 1 }

/-- Looks for so many characters. -/
def ask (cur : Cursor) (count : Nat) : Cursor :=
  if (cur.rest.drop (count - 1)).isEmpty then { cur with strained := true } else cur

/-- The place, unless more was looked for than there is of a text that breaks off. -/
def checked (cur : Cursor) : Except Fault Cursor :=
  match cur.fault, cur.strained with
  | some f, true => .error f
  | _, _ => .ok cur

/-- A flaw that shows here, unless more was looked for than there is of a text that breaks off. -/
def refuse {α : Type} (cur : Cursor) (flaw : Flaw) : Except Fault α := do
  let _ ← cur.checked
  throw (.flaw flaw)

/-- The place some characters on. -/
def forward (cur : Cursor) : Nat → Cursor
  | 0 => cur
  | n + 1 => cur.next.forward n

/-- The characters of a class that come next, and the place behind them. -/
def span (cur : Cursor) (p : Char → Bool) : List Char × Cursor :=
  let run := cur.rest.takeWhile p
  (run, cur.forward run.length)

/-- The place behind the characters of a class that come next. -/
def skipWhile (cur : Cursor) (p : Char → Bool) : Cursor := (cur.span p).2

/-- Whether a mark of three characters at the start of a line separates documents here. -/
def atMark (cur : Cursor) (mark : Char) : Bool :=
  match cur.column, cur.rest with
  | 0, a :: b :: c :: rest => a == mark && b == mark && c == mark && endsToken rest
  | _, _ => false

/-- Whether either mark between documents is here. -/
def atAnyMark (cur : Cursor) : Bool := cur.atMark '-' || cur.atMark '.'

/-- Looks whether a mark between documents is here: at three characters, and at a fourth where the
three are one. -/
def askMark (cur : Cursor) : Cursor :=
  let three := cur.rest.take 3
  cur.ask (if three = ['-', '-', '-'] ∨ three = ['.', '.', '.'] then 4 else 3)

/-- Skips blanks, line breaks and comments, and says whether a line break was among them. -/
def skipFrom (comment broke : Bool) (cur : Cursor) : (rest : List Char) → Cursor × Bool
  | [] => ({ cur with rest := [], strained := true }, broke)
  | c :: cs =>
    let cur := { cur with rest := c :: cs }
    if isBreak c then skipFrom false true cur.next cs
    else if comment || c == ' ' then skipFrom comment broke cur.next cs
    else if c == '#' then skipFrom true broke cur.next cs
    else (cur, broke)

/-- The place of the next token, and whether it is on a later line. -/
def skip (cur : Cursor) : Cursor × Bool := skipFrom false false cur cur.rest

/-- The place on the next line, where a line holds nothing more but blanks and a comment. -/
def endLine (cur : Cursor) (flaw : Flaw) : Except Fault Cursor :=
  let cur := cur.skipWhile (· == ' ')
  let cur := if cur.rest.head? == some '#' then cur.skipWhile fun c => !isBreak c else cur
  match cur.rest with
  | [] => .ok cur
  | c :: _ => if isBreak c then .ok cur.next else cur.refuse flaw

end Cursor

/-- Whether a document may hold a character. -/
def isAllowed (c : Char) : Bool :=
  c == '\t' || c == '\n' || c == '\r' || c == '\u0085'
    || decide (0x20 ≤ c.toNat ∧ c.toNat ≤ 0x7e)
    || decide (0xa0 ≤ c.toNat ∧ c.toNat ≤ 0xfffd)
    || decide (0x10000 ≤ c.toNat)

end RuleFit.Yaml
