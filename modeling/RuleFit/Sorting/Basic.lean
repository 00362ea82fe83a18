import RuleFit.Sorting.Merge

/-!
# Sorting with comparisons that may fail

Not every two data values can be put in order, so a sort may end with the fault of a comparison, and
which one shows depends on the comparisons made. A list is cut into runs, each as long as it rises
or strictly falls, and turned round if it falls. A run that is too short takes in further items,
each put in its place by halving. Runs are merged with their neighbours in an order that keeps the
tree of merges balanced: between two runs lies a boundary, and a boundary is the more urgent the
finer the binary grid has to be for a line of it to come between the middles of the runs. Equal
items keep their order.
-/

namespace RuleFit.Sorting

variable {α ε : Type}

/-! ## Runs -/

/-- Splits off the longest part that does not fall, given the item before. -/
def rising (lt : α → α → Except ε Bool) (last : α) : List α → Except ε (List α × List α)
  | [] => .ok ([], [])
  | y :: ys => do
    if ← lt y last then return ([], y :: ys)
    let (run, rest) ← rising lt y ys
    return (y :: run, rest)

/-- Splits off the longest part that strictly falls; `run` holds it so far, turned round. -/
def falling (lt : α → α → Except ε Bool) (run : List α) (last : α) :
    List α → Except ε (List α × List α)
  | [] => .ok (run, [])
  | y :: ys => do
    if ← lt y last then falling lt (y :: run) y ys else return (run, y :: ys)

/-- Splits off the leading run, in ascending order. -/
def splitRun (lt : α → α → Except ε Bool) : List α → Except ε (List α × List α)
  | [] => .ok ([], [])
  | [x] => .ok ([x], [])
  | x :: y :: ys => do
    if ← lt y x then falling lt [y, x] y ys
    else
      let (run, rest) ← rising lt y ys
      return (x :: y :: run, rest)

/-- Puts an item into a sorted list, behind the items that it does not precede. -/
def insert (lt : α → α → Except ε Bool) (xs : List α) (x : α) : Except ε (List α) := do
  let i ← search (notAfter lt x) xs 0 xs.length
  return xs.take i ++ x :: xs.drop i

/-- The least length of a run in a list of `n` items: `n` itself below 64, and otherwise such that
there are as many runs as a power of two, or a few less. -/
def leastRun (n : Nat) (odd : Bool) : Nat :=
  if n < 64 then n + odd.toNat else leastRun (n / 2) (odd || n % 2 == 1)
termination_by n

/-- A run, the position of its first item, and the urgency of the boundary behind it. -/
structure Run (α : Type) where
  start : Nat
  items : List α
  urgency : Nat

/-! ## The order of merges -/

/-- How fine a binary grid over twice `total` has to be to tell two positions apart. -/
def urgencyFrom (total fuel : Nat) (a b : Nat) : Nat :=
  match fuel with
  | 0 => 0
  | fuel + 1 =>
    if total ≤ a then urgencyFrom total fuel (2 * (a - total)) (2 * (b - total)) + 1
    else if total ≤ b then 1
    else urgencyFrom total fuel (2 * a) (2 * b) + 1

/-- The urgency of the boundary between a run and the next, of `next` items. -/
def Run.urgencyTo (total : Nat) (r : Run α) (next : Nat) : Nat :=
  let a := 2 * r.start + r.items.length
  urgencyFrom total (total + 2) a (a + r.items.length + next)

/-- Merges two neighbours. -/
def Run.join (lt : α → α → Except ε Bool) (eager : Nat) (r s : Run α) :
    Except ε (Run α × Nat) := do
  let (items, eager) ← merge lt eager r.items s.items
  return ({ r with items }, eager)

/-- Merges runs, the last one first in the list, as long as the boundary before the last one is more
urgent than a new one. -/
def settle (lt : α → α → Except ε Bool) (eager urgency : Nat) (last : Run α) :
    List (Run α) → Except ε (List (Run α) × Nat)
  | [] => .ok ([{ last with urgency }], eager)
  | r :: rs => do
    if urgency < r.urgency then
      let (joined, eager) ← r.join lt eager last
      settle lt eager urgency joined rs
    else return ({ last with urgency } :: r :: rs, eager)

/-- Puts a new run behind the others. -/
def push (lt : α → α → Except ε Bool) (total eager : Nat) (new : Run α) :
    List (Run α) → Except ε (List (Run α) × Nat)
  | [] => .ok ([new], eager)
  | r :: rs => do
    let (rs, eager) ← settle lt eager (r.urgencyTo total new.items.length) r rs
    return (new :: rs, eager)

/-- Merges all runs, the last one first in the list, the shorter of the outer two of the last three
first. -/
def collapse (lt : α → α → Except ε Bool) (eager fuel : Nat) :
    List (Run α) → Except ε (List α)
  | [] => .ok []
  | [r] => .ok r.items
  | last :: r :: rs =>
    match fuel with
    | 0 => .ok []
    | fuel + 1 =>
      match rs with
      | s :: more =>
        if s.items.length < last.items.length then do
          let (joined, eager) ← s.join lt eager r
          collapse lt eager fuel (last :: joined :: more)
        else do
          let (joined, eager) ← r.join lt eager last
          collapse lt eager fuel (joined :: s :: more)
      | [] => do
        let (joined, eager) ← r.join lt eager last
        collapse lt eager fuel [joined]

/-- Cuts the items from position `start` on into runs and merges them. -/
def sortFrom (lt : α → α → Except ε Bool) (total fuel : Nat) (start eager : Nat)
    (runs : List (Run α)) (xs : List α) : Except ε (List α) :=
  match fuel, xs with
  | 0, _ | _, [] => collapse lt eager runs.length runs
  | fuel + 1, xs => do
    let (run, rest) ← splitRun lt xs
    let short := leastRun total false - run.length
    let run ← (rest.take short).foldlM (insert lt) run
    let (runs, eager) ← push lt total eager ⟨start, run, 0⟩ runs
    sortFrom lt total fuel (start + run.length) eager runs (rest.drop short)

/-- The list in ascending order. -/
def sort (lt : α → α → Except ε Bool) (xs : List α) : Except ε (List α) :=
  sortFrom lt xs.length (xs.length + 1) 0 worthwhile [] xs

end RuleFit.Sorting
