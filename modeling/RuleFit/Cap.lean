import RuleFit.Datum.Order

/-!
# Caps

A rule with too many candidates is not tried. How many are too many is a cap, a whole number in
settings that were read. Whoever sets a cap without reading it can give any value: every number caps
as well, a not-a-number finds no count either above or below it, and a value of another kind shows
to be no number when the first count is held against it.
-/

namespace RuleFit

/-- A cap on the number of candidates. -/
inductive Cap where
  | whole (n : Int)
  | value (d : Datum)
  deriving DecidableEq, Inhabited

namespace Cap

/-- The cap that a value makes. -/
def ofDatum : Datum → Cap
  | .int n => .whole n
  | d => .value d

def toDatum : Cap → Datum
  | .whole n => .int n
  | .value d => d

/-- The value of a cap that is a number. -/
def quantity (sign : Text) (c : Cap) : Except KindFault (Option Quantity) :=
  if c.toDatum.kind.isNumber then .ok c.toDatum.quantity?
  else .error (.unordered sign .int c.toDatum.kind)

/-- The test whether the cap lies below a count. -/
def below : Cap → Except KindFault (Nat → Bool)
  | .whole n => .ok fun count => decide (n < count)
  | c => (c.quantity ">").map fun q count => q.any fun q => q.less (.finite (Dyadic.ofInt count))

/-- The test whether a count is within the cap. -/
def within : Cap → Except KindFault (Nat → Bool)
  | .whole n => .ok fun count => decide (count ≤ n)
  | c => (c.quantity "<=").map fun q count => q.any fun q => !q.less (.finite (Dyadic.ofInt count))

/-- The cap as a whole number, without a fraction; an infinite one has no such form. -/
def truncated? : Cap → Option Int
  | .whole n => some n
  | .value (.bool b) => some (if b then 1 else 0)
  | .value (.float x) => x.truncate?
  | .value _ => none

end Cap

end RuleFit
