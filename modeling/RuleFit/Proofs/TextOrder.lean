import Mathlib.Data.List.Lex
import RuleFit.Text.Basic

/-!
# The order of texts

Texts are in order as the rows of their numbers are (`before_iff`). Different code points have
different numbers, so the numbers tell the text (`numbers_injective`), and the order is linear: of
two texts at least one does not come after the other, and if neither does they are the same.

There is then one way only to put texts in ascending order, and where they stood before does not
matter (`mergeSort_eq_of_perm`).
-/

namespace RuleFit

theorem CodePoint.number_injective : Function.Injective CodePoint.number := by
  -- No character has the number of a surrogate.
  have hne : ∀ (c : Char) (k : Fin 0x800), c.toNat ≠ firstSurrogate + k := by
    intro c k h
    have hvalid := c.valid
    simp only [UInt32.isValidChar, Nat.isValidChar, Char.toNat, firstSurrogate] at hvalid h
    omega
  intro p q h
  cases p with
  | char c =>
    cases q with
    | char d => rw [Char.ext (UInt32.toNat.inj h)]
    | surrogate k => exact absurd h (hne c k)
  | surrogate j =>
    cases q with
    | char d => exact absurd h.symm (hne d j)
    | surrogate k => rw [Fin.ext (Nat.add_left_cancel h)]

namespace Text

/-- The numbers of the code points. -/
def numbers (t : Text) : List Nat := t.points.map CodePoint.number

theorem numbers_injective : Function.Injective numbers := by
  intro a b h
  have hpoints : a.points = b.points := List.map_injective_iff.2 CodePoint.number_injective h
  exact congrArg Text.mk hpoints

theorem pointsBefore_iff (ps qs : List CodePoint) :
    pointsBefore ps qs = true ↔ ps.map CodePoint.number < qs.map CodePoint.number := by
  induction ps generalizing qs with
  | nil => cases qs <;> simp [pointsBefore]
  | cons p ps ih =>
    cases qs with
    | nil => simp [pointsBefore]
    | cons q qs => simp [pointsBefore, ih, List.cons_lt_cons_iff]

theorem before_iff {a b : Text} : a.before b = true ↔ a.numbers < b.numbers :=
  pointsBefore_iff a.points b.points

theorem notAfter_iff {a b : Text} : a.notAfter b = true ↔ a.numbers ≤ b.numbers := by
  rw [notAfter, Bool.not_eq_true', ← Bool.not_eq_true, before_iff, not_lt]

theorem notAfter_antisymm {a b : Text} (hab : a.notAfter b = true) (hba : b.notAfter a = true) :
    a = b :=
  numbers_injective (le_antisymm (notAfter_iff.1 hab) (notAfter_iff.1 hba))

theorem notAfter_trans (a b c : Text) (hab : a.notAfter b = true) (hbc : b.notAfter c = true) :
    a.notAfter c = true :=
  notAfter_iff.2 ((notAfter_iff.1 hab).trans (notAfter_iff.1 hbc))

theorem notAfter_total (a b : Text) : (a.notAfter b || b.notAfter a) = true := by
  rw [Bool.or_eq_true, notAfter_iff, notAfter_iff]
  exact le_total a.numbers b.numbers

/-! ## Sorting -/

theorem pairwise_mergeSort (ts : List Text) :
    (ts.mergeSort notAfter).Pairwise fun a b => a.notAfter b = true :=
  List.pairwise_mergeSort notAfter_trans notAfter_total ts

/-- **The same texts are sorted into the same list.** -/
theorem mergeSort_eq_of_perm {ts us : List Text} (h : ts.Perm us) :
    ts.mergeSort notAfter = us.mergeSort notAfter := by
  have hperm : (ts.mergeSort notAfter).Perm (us.mergeSort notAfter) :=
    (List.mergeSort_perm ts notAfter).trans (h.trans (List.mergeSort_perm us notAfter).symm)
  exact hperm.eq_of_pairwise (fun _ _ _ _ => notAfter_antisymm) (pairwise_mergeSort ts)
    (pairwise_mergeSort us)

end Text

end RuleFit
