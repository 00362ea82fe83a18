import RuleFit.Binary64.Basic

/-!
# Decimal text of binary64 numbers

Three ways between a binary64 number and decimal digits, all in exact whole-number arithmetic.

* `shortest` gives the fewest digits that read back as the same number and, of those, the nearest.
  The reals that round to a number form an interval around it, whose ends belong to it exactly when
  the significand is even. If a point of a decimal grid lies in that interval, then so does one of
  the two grid neighbours of the number, so it is enough to try these two, on ever finer grids.
* `fixed` gives a set number of places, a tie going to the even digit.
* `ofDecimal` reads digits and a power of ten, rounding once.
-/

namespace RuleFit

/-- The decimal number `digits * 10 ^ exponent`. -/
structure Decimal where
  digits : Nat
  exponent : Int
  deriving DecidableEq, Repr

namespace Decimal

/-- Moves up to `fuel` trailing zeros of the digits into the exponent. -/
def trim (fuel : Nat) (d : Decimal) : Decimal :=
  match fuel with
  | 0 => d
  | fuel + 1 =>
    if d.digits ≠ 0 ∧ d.digits % 10 = 0 then
      trim fuel ⟨d.digits / 10, d.exponent + 1⟩
    else d

end Decimal

/-! ## Fewest digits -/

/-- A positive number and the reals that round to it, over one common unit `num / den`:
the number is `4 * m` units, the interval reaches from `low` to `high`. -/
structure RoundingInterval where
  low : Nat
  center : Nat
  high : Nat
  closed : Bool
  unitNum : Nat
  unitDen : Nat

namespace RoundingInterval

/-- The interval of `n * 2 ^ (-k)`. Below a power of two the numbers are twice as dense. -/
def ofOdd (n : Nat) (k : Int) : RoundingInterval :=
  let place := max ((n.log2 : Int) - k - 52) (-1074)
  let m := n * posPow 2 (-k - place)
  let down := if m = posPow 2 52 ∧ place > -1074 then 1 else 2
  { low := 4 * m - down, center := 4 * m, high := 4 * m + 2, closed := m % 2 == 0,
    unitNum := posPow 2 (place - 2), unitDen := posPow 2 (2 - place) }

/-- Whether `c * 10 ^ g` rounds to the number. -/
def holds (i : RoundingInterval) (c : Nat) (g : Int) : Bool :=
  let point := c * posPow 10 g * i.unitDen
  let unit := i.unitNum * posPow 10 (-g)
  let low := i.low * unit
  let high := i.high * unit
  if i.closed then decide (low ≤ point ∧ point ≤ high) else decide (low < point ∧ point < high)

/-- The neighbour of the number on the grid of step `10 ^ g` that rounds to it, the nearer of two,
an even one on a tie. -/
def onGrid (i : RoundingInterval) (g : Int) : Option Decimal :=
  let num := i.center * i.unitNum * posPow 10 (-g)
  let den := i.unitDen * posPow 10 g
  let below := num / den
  match i.holds below g, i.holds (below + 1) g with
  | true, true => some ⟨roundDiv num den, g⟩
  | true, false => some ⟨below, g⟩
  | false, true => some ⟨below + 1, g⟩
  | false, false => none

end RoundingInterval

namespace Binary64

/-- The fewest digits that read back as `n * 2 ^ (-k)`. Seventeen are always enough, and the first
grid is coarser than the number itself. -/
def shortest (n : Nat) (k : Int) : Decimal :=
  let i := RoundingInterval.ofOdd n k
  let coarsest : Int := ((n.log2 : Int) - k) * 30103 / 100000 + 2
  let hit := (List.range 22).findSome? fun (d : Nat) => i.onGrid (coarsest - d)
  (hit.getD ⟨0, 0⟩).trim 22

/-! ## Written forms -/

/-- How the digits of a number are set out: positional notation from `10 ^ least` to below
`10 ^ most`, elsewhere an exponent with a sign and at least `exponentWidth` digits. -/
structure Layout where
  least : Int
  most : Int
  exponentWidth : Nat
  nan : String
  infinity : String

private def zeros (n : Nat) : String := String.ofList (List.replicate n '0')

/-- Digits with the point or the exponent where the layout wants them. -/
def Layout.place (l : Layout) (d : Decimal) : String :=
  let ds := (Nat.toDigits 10 d.digits)
  let len : Int := ds.length
  let point := len + d.exponent
  if l.least < point ∧ point ≤ l.most then
    if point ≤ 0 then "0." ++ zeros (-point).toNat ++ String.ofList ds
    else if len ≤ point then String.ofList ds ++ zeros d.exponent.toNat ++ ".0"
    else String.ofList (ds.take point.toNat) ++ "." ++ String.ofList (ds.drop point.toNat)
  else
    let power := point - 1
    let shown := toString power.natAbs
    let fraction := if ds.length ≤ 1 then "" else "." ++ String.ofList (ds.drop 1)
    String.ofList (ds.take 1) ++ fraction ++ "e" ++ (if power < 0 then "-" else "+")
      ++ zeros (l.exponentWidth - shown.length) ++ shown

/-- The shortest text that reads back as the number. -/
def render (l : Layout) : Binary64 → String
  | .nan _ => l.nan
  | .infinite s => (if s then "-" else "") ++ l.infinity
  | .negativeZero => "-0.0"
  | .finite .zero => "0.0"
  | .finite (.ofOdd n k _) => (if n < 0 then "-" else "") ++ l.place (shortest n.natAbs k)

/-- The text with exactly `places` digits after the point, rounded from the exact value. -/
def fixed (places : Nat) : Binary64 → String
  | .nan _ => "nan"
  | .infinite s => (if s then "-" else "") ++ "inf"
  | x =>
    let units := match x with
      | .finite (.ofOdd n k _) =>
        roundDiv (n.natAbs * posPow 10 places * posPow 2 (-k)) (posPow 2 k)
      | _ => 0
    let fraction := toString (units % posPow 10 places)
    (if x.isNegative then "-" else "") ++ toString (units / posPow 10 places) ++ "."
      ++ zeros (places - fraction.length) ++ fraction

/-! ## Reading -/

/-- The number nearest to `digits * 10 ^ exponent`. Past the ends of the format the answer is known
without the power. -/
def ofDecimal (negative : Bool) (d : Decimal) : Binary64 :=
  if d.digits = 0 then zero negative
  else
    let size : Int := (Nat.toDigits 10 d.digits).length
    if size + d.exponent > 400 then .infinite negative
    else if size + d.exponent < -400 then zero negative
    else ofRatio negative (d.digits * posPow 10 d.exponent) (posPow 10 (-d.exponent))

private def digitsValue (cs : List Char) : Nat :=
  cs.foldl (fun acc c => 10 * acc + (c.toNat - '0'.toNat)) 0

/-- Reads an exponent mark, a sign and digits; nothing stands for the exponent zero. -/
def readExponent? : List Char → Option Int
  | [] => some 0
  | e :: rest =>
    if e ≠ 'e' ∧ e ≠ 'E' then none
    else
      let (negative, ds) := match rest with
        | '-' :: ds => (true, ds)
        | '+' :: ds => (false, ds)
        | ds => (false, ds)
      if ds.isEmpty || !ds.all Char.isDigit then none
      else some (if negative then -digitsValue ds else digitsValue ds)

/-- Reads digits, a point or none, digits, and an exponent or none. -/
def readUnsigned? (negative : Bool) (cs : List Char) : Option Binary64 :=
  let whole := cs.takeWhile Char.isDigit
  let rest := cs.dropWhile Char.isDigit
  let (fraction, tail) := match rest with
    | '.' :: more => (more.takeWhile Char.isDigit, more.dropWhile Char.isDigit)
    | other => ([], other)
  if whole.isEmpty && fraction.isEmpty then none
  else
    (readExponent? tail).map fun e =>
      ofDecimal negative ⟨digitsValue (whole ++ fraction), e - fraction.length⟩

/-- Reads a number as `render` writes it, and every other spelling with a sign, digits, a point and
an exponent. -/
def read? (s : String) : Option Binary64 :=
  match s.toList with
  | ['n', 'a', 'n'] => some (.nan 0)
  | ['i', 'n', 'f'] => some (.infinite false)
  | ['-', 'i', 'n', 'f'] => some (.infinite true)
  | '-' :: cs => readUnsigned? true cs
  | '+' :: cs => readUnsigned? false cs
  | cs => readUnsigned? false cs

end Binary64

end RuleFit
