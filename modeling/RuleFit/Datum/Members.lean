import RuleFit.Datum.Equality

/-!
# The order of a set

A set keeps its members in a table whose size is a power of two, and its order is that of the places
there. A number has a place of its own choice by its value: its remainder by a prime of the form
`2 ^ n - 1`, which every dyadic rational has, since two can be divided by there. When that place is
taken, the member goes to one of the next ones, or jumps to another row of places.

Texts, dates and other members have no such number. A set that holds one of them keeps the order in
which its members came.
-/

namespace RuleFit

/-! ## Numbers by remainder -/

namespace Quantity

/-- The exponent of the prime `2 ^ 61 - 1`. -/
def placeBits : Nat := 61

def placePrime : Nat := posPow 2 placeBits - 1

/-- The remainder of a dyadic rational without its sign. Modulo the prime, `2 ^ 61` is one. -/
def remainder (v : Dyadic) : Nat :=
  match v with
  | .zero => 0
  | .ofOdd n k _ => n.natAbs % placePrime * posPow 2 ((-k) % placeBits) % placePrime

/-- The number that a quantity takes its place by. Minus one is none. -/
def placeNumber : Quantity → Int
  | .infinite negative => if negative then -314159 else 314159
  | .finite v =>
    let r : Int := remainder v
    if v < 0 then (if r = 1 then -2 else -r) else r

end Quantity

/-! ## Tables -/

/-- Places for members, each empty or taken. -/
abbrev PlaceTable := Array (Option Datum)

namespace PlaceTable

/-- Places next to each other that are tried before a jump, if they are all in the table. -/
def rowLength : Nat := 10

/-- The number of places for some members: eight for four of them, and more than twice their number
for more. `left` bounds the doublings. -/
def room (left count size : Nat) : Nat :=
  match left with
  | 0 => size
  | left + 1 => if count ≤ 4 ∨ 2 * count < size then size else room left count (2 * size)

def empty (count : Nat) : PlaceTable := .replicate (room count count 8) none

/-- The place of a member that has none yet: in the row at `place`, or further on. `rest` are the
high bits of its number, which steer the jumps. -/
def freePlace (table : PlaceTable) (fuel place rest : Nat) : Option Nat :=
  match fuel with
  | 0 => none
  | fuel + 1 =>
    let row := if place + rowLength ≤ table.size then rowLength else 1
    match (List.range row).find? fun k => table[place + k]? == some none with
    | some k => some (place + k)
    | none =>
      let rest := rest / 32
      freePlace table fuel ((5 * place + 1 + rest) % table.size) rest

/-- Puts a member into the table by its number. From any place, jumps reach every other one once the
high bits are used up. -/
def insert (table : PlaceTable) (number : Int) (d : Datum) : PlaceTable :=
  let word := (number % posPow 2 64).toNat
  match table.freePlace (table.size + 16) (word % table.size) word with
  | some place => table.setIfInBounds place (some d)
  | none => table

end PlaceTable

namespace Datum

/-- The set of some values, no two of which are alike. -/
def ofMembers (members : List Datum) : Datum :=
  match members.mapM quantity? with
  | none => .set members
  | some numbers =>
    let table := (numbers.zip members).foldl (fun t e => t.insert e.1.placeNumber e.2)
      (PlaceTable.empty members.length)
    .set (table.toList.filterMap id)

end Datum

end RuleFit
