/-!
# Searching sorted lists

The items of a sorted list that stand before some other item come first. How many they are is found
by comparisons that may fail, so it matters which are made. `search` halves a range of positions;
`boundary` starts from a guess and doubles its stride away from it, first, until it has such a
range.
-/

namespace RuleFit.Sorting

variable {α ε : Type}

/-- A test that may fail. -/
abbrev Test (α ε : Type) := α → Except ε Bool

/-- The test that is passed by the items that do not come after another. -/
def notAfter (lt : α → α → Except ε Bool) (key : α) : Test α ε := fun y => do return !(← lt key y)

/-- The first position from `low` on, at most `high`, whose item fails a test. -/
def search (p : Test α ε) (xs : List α) (low high : Nat) : Except ε Nat :=
  if low < high then
    let mid := low + (high - low) / 2
    match xs[mid]? with
    | none => .ok high
    | some y => do
      if ← p y then search p xs (mid + 1) high else search p xs low mid
  else .ok high
termination_by high - low

/-- Strides 1, 3, 7 and so on, below `limit`, as long as the item at each passes: the last stride
that passed, and the next one. -/
def strides (limit : Nat) (passes : Nat → Except ε Bool) (last next : Nat) : Except ε (Nat × Nat) :=
  if last < next ∧ next < limit then do
    if ← passes next then strides limit passes next (2 * next + 1) else return (last, next)
  else .ok (last, min next limit)
termination_by limit - next

/-- Whether the item at a position passes a test. -/
def passesAt (p : Test α ε) (xs : List α) (i : Nat) : Except ε Bool :=
  match xs[i]? with
  | some y => p y
  | none => .ok false

/-- How many items come before the first one that fails a test, looked for from position `guess` on.
-/
def boundary (p : Test α ε) (xs : List α) (guess : Nat) : Except ε Nat := do
  if ← passesAt p xs guess then
    let (last, next) ← strides (xs.length - guess) (fun n => passesAt p xs (guess + n)) 0 1
    search p xs (guess + last + 1) (guess + next)
  else
    let fails (n : Nat) : Except ε Bool := do return !(← passesAt p xs (guess - n))
    let (last, next) ← strides (guess + 1) fails 0 1
    search p xs (guess + 1 - next) (guess - last)

end RuleFit.Sorting
