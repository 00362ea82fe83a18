/-!
# Binary64 numbers, held exactly

A number that a data file writes with a point or an exponent is an IEEE binary64 number. Here it is
held by its value: a finite number is a dyadic rational, and the minus zero, the infinities and the
not-a-numbers have constructors of their own. Two finite numbers are equal exactly when their values
are, because a dyadic rational has one representation. The payload of a not-a-number tells
occurrences apart; arithmetic does not look at it.

Every result is first known exactly and then rounded once, by `Binary64.ofRatio`: to the nearest
representable number, a tie going to the even significand, with the underflow and the overflow of
the format. **`roundDiv_within`** bounds the one rounding step: it errs by half a unit at most.
-/

namespace RuleFit

/-! ## Ratios and their rounding -/

/-- The power of a base to an exponent, and one where the exponent is negative. So `n * b ^ e` is
the ratio of `n * posPow b e` to `posPow b (-e)`, whatever the sign of `e`. -/
def posPow (b : Nat) (e : Int) : Nat := b.pow e.toNat

/-- The whole number nearest to `num / den`; a tie goes to the even neighbour. -/
def roundDiv (num den : Nat) : Nat :=
  let q := num / den
  let twice := 2 * (num % den)
  if twice < den then q
  else if den < twice then q + 1
  else if q % 2 = 0 then q else q + 1

/-- The rounded quotient is at most half a unit away from the exact one. -/
theorem roundDiv_within (num den : Nat) (h : 0 < den) :
    2 * num ≤ 2 * (den * roundDiv num den) + den ∧
      2 * (den * roundDiv num den) ≤ 2 * num + den := by
  have hdm := Nat.div_add_mod num den
  have hlt := Nat.mod_lt num h
  have hs : den * (num / den + 1) = den * (num / den) + den := by rw [Nat.mul_add, Nat.mul_one]
  unfold roundDiv
  dsimp only
  split
  · omega
  · split
    · rw [hs]; omega
    · split
      · omega
      · rw [hs]; omega

/-! ## The numbers -/

/-- A binary64 number. The value of `finite` is never the minus zero, which has its own case. -/
inductive Binary64 where
  | nan (payload : Nat)
  | infinite (negative : Bool)
  | negativeZero
  | finite (value : Dyadic)
  deriving DecidableEq, Inhabited

namespace Binary64

/-- The zero of the given sign. -/
def zero (negative : Bool) : Binary64 :=
  if negative then .negativeZero else .finite .zero

/-- The power of two that the last place of a significand stands for, near `num / den`: 53 binary
places, and none below `2 ^ -1074`. -/
def lastPlace (num den : Nat) : Int :=
  let guess : Int := (num.log2 : Int) - den.log2
  let top := if num * posPow 2 (-guess) < den * posPow 2 guess then guess - 1 else guess
  max (top - 52) (-1074)

/-- The binary64 number nearest to `num / den`, with the given sign. -/
def ofRatio (negative : Bool) (num den : Nat) : Binary64 :=
  if num = 0 then zero negative
  else
    let place := lastPlace num den
    let m := roundDiv (num * posPow 2 (-place)) (den * posPow 2 place)
    if m = 0 then zero negative
    else if (m.log2 : Int) + place ≥ 1024 then .infinite negative
    else .finite (Dyadic.ofIntWithPrec (if negative then -m else m) (-place))

/-- The binary64 number nearest to a whole number. -/
def ofInt (n : Int) : Binary64 :=
  ofRatio (decide (n < 0)) n.natAbs 1

/-- Rounds a dyadic rational times `num / den`. The sign of a zero is the one given. -/
def ofDyadic (zeroSign : Bool) (v : Dyadic) (num den : Nat) : Binary64 :=
  match v with
  | .zero => zero zeroSign
  | .ofOdd n k _ =>
    ofRatio (decide (n < 0)) (n.natAbs * num * posPow 2 (-k)) (den * posPow 2 k)

/-- The exact value, of a number that has one. -/
def value? : Binary64 → Option Dyadic
  | .finite v => some v
  | .negativeZero => some .zero
  | .nan _ | .infinite _ => none

/-- Whether the sign bit of a zero or an infinity is set. -/
def isNegative : Binary64 → Bool
  | .nan _ => false
  | .infinite s => s
  | .negativeZero => true
  | .finite v => decide (v < 0)

/-- The difference, rounded once. -/
def sub (x y : Binary64) : Binary64 :=
  match x, y with
  | .nan _, _ | _, .nan _ => .nan 0
  | .infinite s, .infinite t => if s = t then .nan 0 else .infinite s
  | .infinite s, _ => .infinite s
  | _, .infinite t => .infinite !t
  | .negativeZero, .finite .zero => .negativeZero
  | _, _ =>
    match x.value?, y.value? with
    | some a, some b => ofDyadic false (a - b) 1 1
    | _, _ => .nan 0

/-- The number with the other sign. -/
def neg : Binary64 → Binary64
  | .nan p => .nan p
  | .infinite s => .infinite !s
  | .negativeZero => .finite .zero
  | .finite .zero => .negativeZero
  | .finite v => .finite (-v)

/-- The sum, rounded once. -/
def add (x y : Binary64) : Binary64 := x.sub y.neg

/-- The product, rounded once. -/
def mul (x y : Binary64) : Binary64 :=
  let sign := x.isNegative != y.isNegative
  match x, y with
  | .nan _, _ | _, .nan _ => .nan 0
  | .infinite _, y => if y.value? == some .zero then .nan 0 else .infinite sign
  | x, .infinite _ => if x.value? == some .zero then .nan 0 else .infinite sign
  | _, _ =>
    match x.value?, y.value? with
    | some a, some b => ofDyadic sign (a * b) 1 1
    | _, _ => .nan 0

/-- The number with another payload, where it has one. -/
def withPayload (payload : Nat) : Binary64 → Binary64
  | .nan _ => .nan payload
  | x => x

/-- The product with the positive ratio `num / den`, rounded once. -/
def scale (x : Binary64) (num den : Nat) : Binary64 :=
  match x with
  | .finite v => ofDyadic false v num den
  | special => special

/-- The whole part of a finite number, without its fraction. -/
def truncate? (x : Binary64) : Option Int :=
  x.value?.map fun v => v.toRat.num.tdiv v.toRat.den

/-- The greatest whole number that is not above a finite number. -/
def floor? (x : Binary64) : Option Int :=
  x.value?.map fun v => v.toRat.floor

end Binary64

end RuleFit
