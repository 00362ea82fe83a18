import RuleFit.Datum.Basic
import RuleFit.Text.Whole

/-!
# Data values in messages

A message quotes a value as a literal: texts in quotes, lists in brackets, fixed sequences in
parentheses with a comma after a lone item, mappings and sets in braces. `Datum.literal` is that
form; `Datum.display` differs from it only on a text, which is shown bare, and on a moment.

Whole numbers are written out up to a limit of digits, to keep messages short of being abused. A
value that holds a longer one has no written form, and a message that should quote it says only
that. Where a collection comes again inside of itself, three points stand for it.
-/

namespace RuleFit

/-- A whole number has too many digits to be written out. -/
structure NumberTooLong where
  deriving DecidableEq

def NumberTooLong.message (_ : NumberTooLong) : String :=
  "Exceeds the limit (" ++ toString digitLimit ++ " digits) for integer string conversion; "
    ++ "use sys.set_int_max_str_digits() to increase the limit"

/-- Whether a whole number can be written out. -/
def isWritable (n : Int) : Bool := decide (n.natAbs < posPow 10 digitLimit)

/-- The digits of a whole number, if it can be written out. -/
def writeInt (n : Int) : Except NumberTooLong String :=
  if isWritable n then .ok (toString n) else .error ⟨⟩

namespace Datum

mutual

/-- Whether every whole number in an unrolled value can be written out. -/
def writableTree : Datum → Bool
  | .int n => isWritable n
  | .list items | .tuple items | .set items => writableItems items
  | .map entries => writableEntries entries
  | _ => true
termination_by structural d => d

/-- The same for a list of values. -/
def writableItems : List Datum → Bool
  | [] => true
  | x :: xs => writableTree x && writableItems xs
termination_by structural xs => xs

/-- The same for the entries of a mapping. -/
def writableEntries : List (Datum × Datum) → Bool
  | [] => true
  | (k, v) :: rest => writableTree k && writableTree v && writableEntries rest
termination_by structural es => es

end

/-- Whether every whole number in a value can be written out. -/
def writable (d : Datum) : Bool := d.unrolled.writableTree

/-! ## Written forms -/

/-- Numbers stay positional from one ten-thousandth to below ten to the sixteenth. -/
def numberLayout : Binary64.Layout :=
  { least := -4, most := 16, exponentWidth := 2, nan := "nan", infinity := "inf" }

/-- What stands for a collection inside of itself. -/
def Kind.points : Kind → String
  | .list => "[...]"
  | .tuple => "(...)"
  | _ => "\x7b...\x7d"

mutual

/-- The literal of an unrolled value. -/
def treeLiteral : Datum → Text
  | .null => "None"
  | .bool b => if b then "True" else "False"
  | .int n => toString n
  | .float x => x.render numberLayout
  | .text t => t.quoted
  | .bytes bs => Text.quotedBytes bs
  | .moment m => m.literal
  | .list items => "[" ++ Text.intercalate ", " (literals items) ++ "]"
  | .tuple [x] => "(" ++ treeLiteral x ++ ",)"
  | .tuple items => "(" ++ Text.intercalate ", " (literals items) ++ ")"
  | .set [] => "set()"
  | .set items => "\x7b" ++ Text.intercalate ", " (literals items) ++ "\x7d"
  | .map entries => "\x7b" ++ Text.intercalate ", " (entryLiterals entries) ++ "\x7d"
  | .knot n cells => (Datum.knot n cells).kind.points
  | .cell _ => "None"
termination_by structural d => d

/-- The literals of a list of values. -/
def literals : List Datum → List Text
  | [] => []
  | x :: xs => treeLiteral x :: literals xs
termination_by structural xs => xs

/-- The literals of the entries of a mapping. -/
def entryLiterals : List (Datum × Datum) → List Text
  | [] => []
  | (k, v) :: rest => (treeLiteral k ++ ": " ++ treeLiteral v) :: entryLiterals rest
termination_by structural es => es

end

/-- The literal of a value. -/
def literal (d : Datum) : Text := d.unrolled.treeLiteral

/-- The value as it is put into running text. -/
def display : Datum → Text
  | .text t => t
  | .moment m => m.display
  | d => d.literal

/-- The text that a value is shown as, if it can be written out. -/
def shown (d : Datum) : Except NumberTooLong Text :=
  if d.writable then .ok d.display else .error ⟨⟩

/-- A message that quotes a value, or that it cannot be written out. -/
def quotedIn (d : Datum) (message : Text → Text) : Text :=
  if d.writable then message d.literal else NumberTooLong.message ⟨⟩

end Datum

end RuleFit
