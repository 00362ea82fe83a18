import RuleFit.Datum.Equality

/-!
# Combining values and objects

The four operations out of which candidates grow. Two lists of partial candidates combine by putting
each of the second behind each of the first, the first varying slowest; a list or a fixed sequence
counts as its items, anything else as itself. Objects combine by merging each of the first with each
of the second. Combining with nothing gives the other side.
-/

namespace RuleFit

/-- The items that a value stands for in a candidate. -/
def Datum.spliced (d : Datum) : List Datum :=
  match d.opened with
  | .list items | .tuple items => items
  | _ => [d]

/-- Every value as a candidate of its own. -/
def explode (xs : List Datum) : List (List Datum) :=
  xs.map fun x => [x]

/-- Puts each of `ys` behind each of `xs`. -/
def combine (xs ys : List Datum) : List (List Datum) :=
  if xs.isEmpty then explode ys
  else if ys.isEmpty then explode xs
  else xs.flatMap fun x => ys.map fun y => x.spliced ++ y.spliced

/-- The entries of an object, in order. -/
abbrev Object := List (Datum × Datum)

/-- Merges each of `ys` into each of `xs`. -/
def combineObjects (xs ys : List Object) : List Object :=
  if xs.isEmpty then ys
  else if ys.isEmpty then xs
  else xs.flatMap fun x => ys.map fun y => Datum.merge x y

/-! ## Grouping by property -/

section Groups

variable {α ε : Type}

/-- Adds a thing to the group of its key, or opens a group behind the others. -/
def addToGroup (key : Datum) (o : α) : List (Datum × List α) → List (Datum × List α)
  | [] => [(key, [o])]
  | (k, os) :: groups =>
    if key.alike k then (k, os ++ [o]) :: groups else (k, os) :: addToGroup key o groups

/-- Adds things to groups by their keys one after the other. -/
def groupsFrom (keyOf : α → Except ε Datum) (groups : List (Datum × List α)) :
    List α → Except ε (List (Datum × List α))
  | [] => .ok groups
  | o :: os => do groupsFrom keyOf (addToGroup (← keyOf o) o groups) os

/-- Groups things by their keys, in the order in which the keys first come. -/
def groupBy (keyOf : α → Except ε Datum) (os : List α) : Except ε (List (List α)) :=
  (groupsFrom keyOf [] os).map fun groups => groups.map Prod.snd

end Groups

/-- An object has no entries, and so no first key. -/
structure NoKey where
  deriving DecidableEq

/-- The first key of an object. -/
def firstKey : Object → Except NoKey Datum
  | [] => .error ⟨⟩
  | e :: _ => .ok e.1

/-- Groups objects by their first key, in the order in which the keys first come. -/
def groupByProperty (os : List Object) : Except NoKey (List (List Object)) :=
  groupBy firstKey os

end RuleFit
