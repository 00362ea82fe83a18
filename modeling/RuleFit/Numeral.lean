import RuleFit.Datum.Elements

/-!
# Arithmetic that keeps the kind of number

Times and durations are whole numbers or binary64 numbers; a truth value counts as a whole number.
Arithmetic between whole numbers is exact and stays whole. As soon as a binary64 number takes part,
the other side is rounded to one too, which it may be too large for. A thousandth is always a
binary64 number, rounded once.
-/

namespace RuleFit

/-- What keeps numbers from being worked out. -/
inductive ArithmeticFault where
  | kind (fault : KindFault)
  | tooLarge
  | quotientTooLarge
  deriving DecidableEq

def ArithmeticFault.message : ArithmeticFault → Text
  | .kind f => f.message
  | .tooLarge => "int too large to convert to float"
  | .quotientTooLarge => "integer division result too large for a float"

/-- A whole number or a binary64 number. -/
inductive Numeral where
  | int (n : Int)
  | float (x : Binary64)
  deriving DecidableEq, Inhabited

namespace Numeral

/-- The number that a value is. -/
def ofDatum? : Datum → Option Numeral
  | .int n => some (.int n)
  | .bool b => some (.int (if b then 1 else 0))
  | .float x => some (.float x)
  | _ => none

def toDatum : Numeral → Datum
  | .int n => .int n
  | .float x => .float x

/-- The nearest binary64 number. -/
def toBinary64 : Numeral → Except ArithmeticFault Binary64
  | .int n =>
    match Binary64.ofInt n with
    | .infinite _ => .error .tooLarge
    | x => .ok x
  | .float x => .ok x

/-- The difference. -/
def sub : Numeral → Numeral → Except ArithmeticFault Numeral
  | .int a, .int b => .ok (.int (a - b))
  | a, b => do
    let x ← a.toBinary64
    return .float (x.sub (← b.toBinary64))

/-- The thousandfold, as of seconds in milliseconds. -/
def thousandfold : Numeral → Numeral
  | .int n => .int (n * 1000)
  | .float x => .float (x.scale 1000 1)

/-- The thousandth part. -/
def thousandth : Numeral → Except ArithmeticFault Binary64
  | .int n =>
    match Binary64.ofRatio (decide (n < 0)) n.natAbs 1000 with
    | .infinite _ => .error .quotientTooLarge
    | x => .ok x
  | .float x => .ok (x.scale 1 1000)

end Numeral

namespace Datum

/-- The difference of two values that should be numbers. -/
def minus (a b : Datum) : Except ArithmeticFault Numeral :=
  match Numeral.ofDatum? a, Numeral.ofDatum? b with
  | some x, some y => x.sub y
  | _, _ => .error (.kind (.operands "-" a.kind b.kind))

/-- The thousandth part of a value that should be a number. -/
def thousandth (d : Datum) : Except ArithmeticFault Binary64 :=
  match Numeral.ofDatum? d with
  | some x => x.thousandth
  | none => .error (.kind (.operands "/" d.kind .int))

end Datum

end RuleFit
