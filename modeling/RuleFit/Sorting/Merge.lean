import RuleFit.Sorting.Search

/-!
# Merging sorted lists

Two sorted lists become one. What of the left list stays in front and what of the right one stays
behind is found first; the rest is merged from the front if the left list is the shorter one, and
from the back otherwise. A merge goes on item by item until one side has won so often in a row as it
takes to make it eager; then it searches for as many winners as there are, as long as that pays.
Between merges it is only remembered how much it takes.
-/

namespace RuleFit.Sorting

variable {α ε : Type}

/-- How a merge goes on: item by item, with the number of times that each side has just won, or by
searching. -/
inductive Pace where
  | stepping (left right : Nat)
  | searching

/-- So many winners at once make searching worthwhile. -/
def worthwhile : Nat := 7

/-- The threshold while searching goes on. -/
def lowered (eager : Nat) : Nat := if 1 < eager then eager - 1 else eager

/-- The pace after a step, and the threshold. -/
def Pace.afterStep (left right eager : Nat) : Pace × Nat :=
  if eager ≤ max left right then (.searching, eager + 1) else (.stepping left right, eager)

/-- The pace after a search that found so many winners on either side, and the threshold. -/
def Pace.afterSearch (left right eager : Nat) : Pace × Nat :=
  if worthwhile ≤ max left right then (.searching, eager) else (.stepping 0 0, eager + 1)

/-- A merged list, and the threshold from then on. -/
abbrev Merged (α : Type) := List α × Nat

/-- Merges from the front. `done` holds what is merged, backwards; the last item of the left list is
known to be the last of all. -/
def mergeFront (lt : α → α → Except ε Bool) (fuel : Nat) (pace : Pace) (eager : Nat)
    (done xs ys : List α) : Except ε (Merged α) :=
  match fuel, xs, ys with
  | 0, _, _ | _, [], _ | _, _, [] => .ok (done.reverse ++ xs ++ ys, eager)
  | _, [x], ys => .ok (done.reverse ++ ys ++ [x], eager)
  | fuel + 1, x :: x' :: xs, y :: ys =>
    match pace with
    | .stepping left right => do
      if ← lt y x then
        if ys.isEmpty then return ((y :: done).reverse ++ x :: x' :: xs, eager)
        let (pace, eager) := Pace.afterStep 0 (right + 1) eager
        mergeFront lt fuel pace eager (y :: done) (x :: x' :: xs) ys
      else if xs.isEmpty then return (done.reverse ++ x :: y :: ys ++ [x'], eager)
      else
        let (pace, eager) := Pace.afterStep (left + 1) 0 eager
        mergeFront lt fuel pace eager (x :: done) (x' :: xs) (y :: ys)
    | .searching => do
      let eager := lowered eager
      let all := x :: x' :: xs
      let left ← boundary (notAfter lt y) all 0
      let done := (all.take left).reverse ++ done
      match all.drop left, ys with
      | [], ys => return (done.reverse ++ y :: ys, eager)
      | [last], ys => return (done.reverse ++ y :: ys ++ [last], eager)
      | rest, [] => return (done.reverse ++ y :: rest, eager)
      | x :: rest, ys => do
        let right ← boundary (lt · x) ys 0
        let done := (ys.take right).reverse ++ y :: done
        match ys.drop right, rest with
        | [], rest => return (done.reverse ++ x :: rest, eager)
        | ys, [last] => return (done.reverse ++ x :: ys ++ [last], eager)
        | ys, rest =>
          let (pace, eager) := Pace.afterSearch left right eager
          mergeFront lt fuel pace eager (x :: done) rest ys

/-- Merges from the back. `done` holds what is merged; the lists are turned round, and the last item
of the right one is known to be the first of all. -/
def mergeBack (lt : α → α → Except ε Bool) (fuel : Nat) (pace : Pace) (eager : Nat)
    (done xs ys : List α) : Except ε (Merged α) :=
  match fuel, xs, ys with
  | 0, _, _ | _, [], _ | _, _, [] => .ok (xs.reverse ++ ys.reverse ++ done, eager)
  | _, xs, [y] => .ok (y :: xs.reverse ++ done, eager)
  | fuel + 1, x :: xs, y :: y' :: ys =>
    match pace with
    | .stepping left right => do
      if ← lt y x then
        if xs.isEmpty then return ((y :: y' :: ys).reverse ++ x :: done, eager)
        let (pace, eager) := Pace.afterStep (left + 1) 0 eager
        mergeBack lt fuel pace eager (x :: done) xs (y :: y' :: ys)
      else if ys.isEmpty then return (y' :: (x :: xs).reverse ++ y :: done, eager)
      else
        let (pace, eager) := Pace.afterStep 0 (right + 1) eager
        mergeBack lt fuel pace eager (y :: done) (x :: xs) (y' :: ys)
    | .searching => do
      let eager := lowered eager
      let all := (x :: xs).reverse
      let kept ← boundary (notAfter lt y) all (all.length - 1)
      let left := all.length - kept
      let done := all.drop kept ++ done
      match (all.take kept).reverse, y' :: ys with
      | [], ys => return (ys.reverse ++ y :: done, eager)
      | rest, [first] => return (first :: rest.reverse ++ y :: done, eager)
      | x :: rest, ys => do
        let others := ys.reverse
        let kept ← boundary (lt · x) others (others.length - 1)
        let right := others.length - kept
        let done := others.drop kept ++ y :: done
        match rest, (others.take kept).reverse with
        | rest, [] => return (rest.reverse ++ x :: done, eager)
        | rest, [first] => return (first :: (x :: rest).reverse ++ done, eager)
        | [], ys => return (ys.reverse ++ x :: done, eager)
        | rest, ys =>
          let (pace, eager) := Pace.afterSearch left right eager
          mergeBack lt fuel pace eager (x :: done) rest ys

/-- Merges two lists of which neither is empty. -/
def merge (lt : α → α → Except ε Bool) (eager : Nat) (xs ys : List α) : Except ε (Merged α) :=
  match ys with
  | [] => .ok (xs, eager)
  | y :: _ => do
    let front ← boundary (notAfter lt y) xs 0
    match (xs.drop front).reverse with
    | [] => return (xs ++ ys, eager)
    | x :: before => do
      let kept ← boundary (lt · x) ys (ys.length - 1)
      let fuel := xs.length + ys.length
      let (merged, eager) ←
        match ys.take kept with
        | [] => Except.ok ((x :: before).reverse, eager)
        | y :: more =>
          if before.length + 1 ≤ kept then
            mergeFront lt fuel (.stepping 0 0) eager [y] (x :: before).reverse more
          else mergeBack lt fuel (.stepping 0 0) eager [x] before (y :: more).reverse
      return (xs.take front ++ merged ++ ys.drop kept, eager)

end RuleFit.Sorting
