import RuleFit.Datum.Elements
import RuleFit.Sorting.Basic

/-!
# Order

Only some values have an order: numbers among each other, texts by code point, and two lists or two
fixed sequences by their first unequal items. Comparing any other two is a fault that names both
kinds. The entries of a mapping are ordered by key, and so a mapping whose keys are texts can always
be sorted; where keys of other kinds come in, it depends on which are compared.
-/

namespace RuleFit

/-- Whether one quantity is below the other. -/
def Quantity.less : Quantity → Quantity → Bool
  | .finite a, .finite b => Dyadic.blt a b
  | .infinite s, .infinite t => s && !t
  | .infinite s, .finite _ => s
  | .finite _, .infinite t => !t

namespace Datum

/-- The kinds of number, which are in order among each other. -/
def Kind.isNumber : Kind → Bool
  | .bool | .int | .float => true
  | _ => false

mutual

/-- Whether a value comes strictly before another. -/
def precedes : Datum → Datum → Except KindFault Bool
  | .text a, .text b => .ok (a.before b)
  | .list a, .list b => precedesItems a b
  | .tuple a, .tuple b => precedesItems a b
  | a, b =>
    if a.kind.isNumber && b.kind.isNumber then
      match a.quantity?, b.quantity? with
      | some x, some y => .ok (x.less y)
      | _, _ => .ok false
    else .error (.unordered "<" a.kind b.kind)
termination_by structural a => a

/-- The order of two lists: by the first items that differ, a shorter list before its
continuations. -/
def precedesItems : List Datum → List Datum → Except KindFault Bool
  | x :: xs, y :: ys => if x.alike y then precedesItems xs ys else precedes x y
  | [], _ :: _ => .ok true
  | _, [] => .ok false
termination_by structural a => a

end

/-- The order of two entries of a mapping: by key, and by value where the keys are equal. -/
def entryPrecedes (a b : Datum × Datum) : Except KindFault Bool :=
  precedesItems [a.1, a.2] [b.1, b.2]

/-- The text that a key is, if it is one. -/
def textKey? : Datum × Datum → Option Text
  | (.text t, _) => some t
  | _ => none

/-- The entries of a mapping in ascending order. -/
def sortEntries (entries : List (Datum × Datum)) : Except KindFault (List (Datum × Datum)) :=
  if entries.all fun e => (textKey? e).isSome then
    .ok (entries.mergeSort fun a b =>
      ((textKey? a).getD .empty).notAfter ((textKey? b).getD .empty))
  else Sorting.sort entryPrecedes entries

end Datum

end RuleFit
