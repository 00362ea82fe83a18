import Mathlib.Data.List.Forall2
import Mathlib.Data.List.Nodup
import Mathlib.Data.List.Perm.Subperm
import RuleFit.Datum.Order
import RuleFit.Proofs.Equality
import RuleFit.Proofs.TextOrder

/-!
# Mappings in ascending order

Equality of mappings does not see the order of the entries. Under text keys that are all different
there is one ascending order, so sorting two equal mappings puts the entries with the same key at
the same place.

**Theorem (`alike_map_iff_ascending`).** Two mappings with text keys count as the same exactly when
their entries in ascending order do, one by one.
-/

namespace RuleFit.Datum

/-- The items count as the same one by one. -/
theorem eqvItems_iff_forall₂ {xs ys : List Datum} :
    eqvItems xs ys = true ↔ List.Forall₂ (fun x y => x.alike y = true) xs ys := by
  induction xs generalizing ys with
  | nil => cases ys <;> simp
  | cons x xs ih => cases ys <;> simp [ih]

theorem alike_map_iff {es es' : List (Datum × Datum)} :
    (Datum.map es).alike (.map es') = true ↔ es.length = es'.length ∧
      ∀ e ∈ es, ∃ e' ∈ es', e.1.alike e'.1 = true ∧ e.2.alike e'.2 = true := by
  simp [alike, sameNan, eqv, eqvEntries_eq_all]

/-! ## Text keys -/

/-- The keys are texts, each for one entry. -/
structure TextKeyed (entries : List (Datum × Datum)) : Prop where
  texts : ∀ e ∈ entries, (textKey? e).isSome = true
  nodup : (entries.map Prod.fst).Nodup

/-- The text that a key is. -/
def keyText (e : Datum × Datum) : Text := (textKey? e).getD .empty

variable {es es' : List (Datum × Datum)}

theorem fst_eq_of_isSome_textKey? {e : Datum × Datum} (h : (textKey? e).isSome = true) :
    e.1 = .text (keyText e) := by
  obtain ⟨k, v⟩ := e
  cases k with
  | text t => rfl
  | _ => cases h

/-- The entries with their keys in ascending order. -/
def ascending (entries : List (Datum × Datum)) : List (Datum × Datum) :=
  entries.mergeSort fun a b => (keyText a).notAfter (keyText b)

theorem ascending_perm (entries : List (Datum × Datum)) : (ascending entries).Perm entries :=
  List.mergeSort_perm entries _

@[simp] theorem mem_ascending {e : Datum × Datum} : e ∈ ascending es ↔ e ∈ es :=
  (ascending_perm es).mem_iff

theorem map_keyText_ascending (entries : List (Datum × Datum)) :
    (ascending entries).map keyText = (entries.map keyText).mergeSort Text.notAfter :=
  List.map_mergeSort fun _ _ _ _ => rfl

theorem TextKeyed.map_fst (h : TextKeyed es) : es.map Prod.fst = (es.map keyText).map .text := by
  rw [List.map_map]
  exact List.map_congr_left fun e he => fst_eq_of_isSome_textKey? (h.texts e he)

theorem TextKeyed.ascending (h : TextKeyed es) : TextKeyed (ascending es) where
  texts e he := h.texts e (mem_ascending.1 he)
  nodup := ((ascending_perm es).map Prod.fst).nodup_iff.2 h.nodup

theorem TextKeyed.sortEntries (h : TextKeyed es) : sortEntries es = .ok (Datum.ascending es) := by
  have hall : (es.all fun e => (textKey? e).isSome) = true := List.all_eq_true.2 h.texts
  rw [Datum.sortEntries, if_pos hall]
  rfl

/-! ## Equal mappings -/

/-- An entry with a partner under an equal key has it under the same key. -/
theorem TextKeyed.fst_eq (h : TextKeyed es) {e e' : Datum × Datum} (he : e ∈ es)
    (halike : e.1.alike e'.1 = true) : e'.1 = e.1 := by
  rw [fst_eq_of_isSome_textKey? (h.texts e he)] at halike ⊢
  simpa using halike

/-- Equal mappings have the same keys. -/
theorem TextKeyed.perm_of_alike (h : TextKeyed es) (halike : (map es).alike (map es') = true) :
    (es.map Prod.fst).Perm (es'.map Prod.fst) := by
  obtain ⟨hlength, hpartner⟩ := alike_map_iff.1 halike
  have hsubset : es.map Prod.fst ⊆ es'.map Prod.fst := by
    intro k hk
    obtain ⟨e, he, rfl⟩ := List.mem_map.1 hk
    obtain ⟨e', he', hkey, -⟩ := hpartner e he
    rw [← h.fst_eq he hkey]
    exact List.mem_map_of_mem he'
  refine (List.subperm_of_subset h.nodup hsubset).perm_of_length_le ?_
  rw [List.length_map, List.length_map, hlength]

/-- Sorted mappings with the same keys have them at the same places. -/
theorem TextKeyed.map_fst_ascending (h : TextKeyed es) (h' : TextKeyed es')
    (hkeys : (es.map Prod.fst).Perm (es'.map Prod.fst)) :
    (Datum.ascending es).map Prod.fst = (Datum.ascending es').map Prod.fst := by
  rw [h.map_fst, h'.map_fst, List.map_perm_map_iff fun _ _ => Datum.text.inj] at hkeys
  rw [h.ascending.map_fst, h'.ascending.map_fst, map_keyText_ascending, map_keyText_ascending,
    Text.mergeSort_eq_of_perm hkeys]

/-- **Mappings with text keys are equal when their entries in ascending order are.** -/
theorem alike_map_iff_ascending (h : TextKeyed es) (h' : TextKeyed es') :
    (Datum.map es).alike (.map es') = true ↔
      List.Forall₂ (fun e e' => e.1.alike e'.1 = true ∧ e.2.alike e'.2 = true)
        (ascending es) (ascending es') := by
  constructor
  · intro halike
    have hkeys : List.Forall₂ (fun e e' => e.1 = e'.1) (ascending es) (ascending es') := by
      have heq := h.map_fst_ascending h' (h.perm_of_alike halike)
      rw [← List.forall₂_eq_eq_eq, List.forall₂_map_left_iff, List.forall₂_map_right_iff] at heq
      exact heq
    rw [List.forall₂_iff_zip] at hkeys ⊢
    refine ⟨hkeys.1, fun {e e'} hmem => ?_⟩
    obtain ⟨he, he'⟩ := List.of_mem_zip hmem
    rw [mem_ascending] at he he'
    -- The partner of an entry is under its key, where there is only the entry at its place.
    obtain ⟨partner, hpartner, hkey, hvalue⟩ := (alike_map_iff.1 halike).2 e he
    have hsame : partner = e' :=
      List.inj_on_of_nodup_map h'.nodup hpartner he' ((h.fst_eq he hkey).trans (hkeys.2 hmem))
    exact hsame ▸ ⟨hkey, hvalue⟩
  · intro hpaired
    refine alike_map_iff.2 ⟨?_, fun e he => ?_⟩
    · rw [← (ascending_perm es).length_eq, ← (ascending_perm es').length_eq, hpaired.length_eq]
    · obtain ⟨i, hi, rfl⟩ := List.getElem_of_mem (mem_ascending.2 he)
      have hi' := hpaired.length_eq ▸ hi
      exact ⟨_, mem_ascending.1 (List.getElem_mem hi'), hpaired.get hi hi'⟩

end RuleFit.Datum
