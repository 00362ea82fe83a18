import RuleFit.Datum.Basic

/-!
# Equality of values

Numbers are compared by value, whatever their kind: each has an exact quantity, a dyadic rational or
an infinity, and two numbers are equal when their quantities are. A not-a-number has no quantity, so
it equals nothing, itself included. Lists compare item by item and never equal a fixed sequence. Two
mappings are equal when they have equally many entries and every entry of the one has a partner in
the other. A knot equals itself and no other value.

Inside a collection one thing more counts: a not-a-number is `alike` to itself, which its payload
tells. Mappings look their keys up by this relation, so `1`, `1.0` and `true` are one key, and a
not-a-number can be found again.
-/

namespace RuleFit

/-- What a number amounts to. -/
inductive Quantity where
  | infinite (negative : Bool)
  | finite (value : Dyadic)
  deriving DecidableEq

namespace Datum

/-- The quantity of a number; `true` counts as one and `false` as zero. -/
def quantity? : Datum → Option Quantity
  | .bool b => some (.finite (Dyadic.ofInt (if b then 1 else 0)))
  | .int n => some (.finite (Dyadic.ofInt n))
  | .float (.infinite s) => some (.infinite s)
  | .float x => x.value?.map .finite
  | _ => none

/-- Whether two values are equal as numbers. -/
def sameQuantity (a b : Datum) : Bool :=
  match a.quantity?, b.quantity? with
  | some x, some y => x == y
  | _, _ => false

/-- Whether two values are one not-a-number. -/
def sameNan : Datum → Datum → Bool
  | .float (.nan p), .float (.nan q) => p == q
  | _, _ => false

mutual

/-- Equality of values. -/
def eqv : Datum → Datum → Bool
  | .null, .null => true
  | .text a, .text b => a == b
  | .bytes a, .bytes b => a == b
  | .moment a, .moment b => a.same b
  | .list a, .list b => eqvItems a b
  | .tuple a, .tuple b => eqvItems a b
  | .set a, .set b => a.length == b.length && eqvMembers a b
  | .map a, .map b => a.length == b.length && eqvEntries a b
  | .knot n a, .knot m b => n == m && sameItems a b
  | .cell n, .cell m => n == m
  | a, b => sameQuantity a b
termination_by structural a => a

/-- Item by item equality of two lists. -/
def eqvItems : List Datum → List Datum → Bool
  | [], [] => true
  | x :: xs, y :: ys => (sameNan x y || eqv x y) && eqvItems xs ys
  | _, _ => false
termination_by structural a => a

/-- Whether every item of the first list has an equal item in the second. -/
def eqvMembers : List Datum → List Datum → Bool
  | [], _ => true
  | x :: xs, b => b.any (fun y => sameNan x y || eqv x y) && eqvMembers xs b
termination_by structural a => a

/-- Whether every entry of the first list has an equal entry in the second. -/
def eqvEntries : List (Datum × Datum) → List (Datum × Datum) → Bool
  | [], _ => true
  | (k, v) :: rest, b =>
    b.any (fun e => (sameNan k e.1 || eqv k e.1) && (sameNan v e.2 || eqv v e.2))
      && eqvEntries rest b
termination_by structural a => a

end

/-- Equality of values as parts of a collection, where a not-a-number equals itself. -/
def alike (a b : Datum) : Bool := sameNan a b || eqv a b

/-- Equality of kind and of value: `1` and `true` are told apart, but only at the outermost level.
-/
def sameTyped (a b : Datum) : Bool :=
  decide (a.kind = b.kind) && a.eqv b

/-! ## Mappings -/

/-- The value under a key. -/
def find? (entries : List (Datum × Datum)) (key : Datum) : Option Datum :=
  (entries.find? fun e => key.alike e.1).map Prod.snd

/-- Sets the value under a key. A key that is there keeps its place and its spelling. -/
def put {α : Type} (entries : List (Datum × α)) (key : Datum) (value : α) : List (Datum × α) :=
  match entries with
  | [] => [(key, value)]
  | (k, v) :: rest => if key.alike k then (k, value) :: rest else (k, v) :: put rest key value

/-- Sets every entry of the second list in the first. -/
def merge (base extra : List (Datum × Datum)) : List (Datum × Datum) :=
  extra.foldl (fun acc e => put acc e.1 e.2) base

/-- The mapping that pairs written one after the other make: of equal keys the first stays and the
last value counts. -/
def ofEntries (entries : List (Datum × Datum)) : Datum :=
  .map (merge [] entries)

/-- The value under a text key, of a mapping. -/
def get? (d : Datum) (key : Text) : Option Datum :=
  match d.opened with
  | .map entries => find? entries (.text key)
  | _ => none

end Datum

end RuleFit
