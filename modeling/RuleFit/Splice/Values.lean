import RuleFit.Datum.Elements
import RuleFit.Splice

/-!
# Combining values of any kind

The operations on lists and objects, for values of which it is not known what they are. An empty
value of any kind counts as nothing; every other one is gone through, if it can be. A faulty value
is reported when it is come to.
-/

namespace RuleFit.Datum

/-- Every element as a candidate of its own. -/
def explode (d : Datum) : Except KindFault (List (List Datum)) :=
  d.elements.map RuleFit.explode

/-- The elements of a value, none of an empty one. -/
def parts (d : Datum) : Except KindFault (List Datum) :=
  if d.isEmpty then .ok [] else d.elements

/-- Puts each element of the second value behind each of the first. -/
def combine (a b : Datum) : Except KindFault (List (List Datum)) :=
  if a.isEmpty then b.explode
  else do
    let xs ← a.elements
    return RuleFit.combine xs (← b.parts)

/-- The items of a list combine with those of a value that is not empty. -/
theorem combine_list (xs : List Datum) {d : Datum} (hd : d.isEmpty = false) :
    (list xs).combine d = d.elements.map (RuleFit.combine xs) := by
  have hparts : d.parts = d.elements := by simp [parts, hd]
  have helements : (list xs).elements = .ok xs := rfl
  cases xs with
  | nil => rfl
  | cons x xs =>
    have hsome : ¬ (list (x :: xs)).isEmpty = true := Bool.false_ne_true
    rw [combine, if_neg hsome, helements, hparts]
    cases d.elements <;> rfl

/-- The entries of a mapping. -/
def object (d : Datum) : Except KindFault Object :=
  match d.opened with
  | .map entries => .ok entries
  | _ => .error (.notMapping d.kind)

/-- Merges each element of the second value into each of the first. -/
def combineObjects (a b : Datum) : Except KindFault (List Datum) :=
  if a.isEmpty then b.elements
  else if b.isEmpty then a.elements
  else do
    let xs ← a.elements
    let ys ← b.elements
    let merged ← xs.mapM fun x => ys.mapM fun y => do
      let first ← x.object
      return .map (merge first (← y.object))
    return merged.flatten

/-! ## Grouping -/

/-- Why values cannot be grouped: one is of the wrong kind, or has no first element. -/
inductive GroupFault where
  | kind (fault : KindFault)
  | noKey
  deriving DecidableEq

def GroupFault.message : GroupFault → Text
  | .kind f => f.message
  | .noKey => ""

/-- The first element of a value, which has to be able to be a key. -/
def firstElement (d : Datum) : Except GroupFault Datum :=
  match d.elements with
  | .error f => .error (.kind f)
  | .ok [] => .error .noKey
  | .ok (x :: _) => x.asKey.mapError .kind

/-- Groups the elements of a value by their own first elements. -/
def groupByProperty (d : Datum) : Except GroupFault (List (List Datum)) := do
  groupBy firstElement (← d.elements.mapError .kind)

end RuleFit.Datum
