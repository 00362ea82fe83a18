import Mathlib.Data.List.Induction
import Mathlib.Data.List.Nodup
import RuleFit.RuleTable

/-!
# Lookups in tables

A table is what its lookups say, in the order of its rows. Every operation on tables is described
here by what it does to the lookup of one rule, so that no later proof goes back to the rows:

- leaving rows out and changing values acts on the value that was there (`get?_filterMap`);
- a row that is set is found, and no other one changes (`get?_set`);
- of two tables merged the second comes first (`get?_merge`);
- of rows written one after the other that have one id, the first gives the place (`ids_ofRows`) and
  the last the value (`get?_ofRows`).
-/

namespace RuleFit

/-! ## Firsts -/

section Firsts

variable {α : Type} [BEq α] [LawfulBEq α]

theorem eraseDups_concat_of_mem {l : List α} {a : α} (h : a ∈ l) :
    (l ++ [a]).eraseDups = l.eraseDups := by
  simp [List.eraseDups_append, List.removeAll, h]

theorem eraseDups_concat_of_not_mem {l : List α} {a : α} (h : a ∉ l) :
    (l ++ [a]).eraseDups = l.eraseDups ++ [a] := by
  simp [List.eraseDups_append, List.removeAll, h, List.eraseDups_cons]

/-- One more item comes last, or was there before. -/
theorem eraseDups_concat (l : List α) (a : α) :
    (l ++ [a]).eraseDups = if a ∈ l.eraseDups then l.eraseDups else l.eraseDups ++ [a] := by
  split_ifs with h
  · exact eraseDups_concat_of_mem (List.mem_eraseDups.1 h)
  · exact eraseDups_concat_of_not_mem fun ha => h (List.mem_eraseDups.2 ha)

theorem eraseDups_append_replicate (l : List α) (a : α) (n : Nat) :
    (l ++ List.replicate (n + 1) a).eraseDups = (l ++ [a]).eraseDups := by
  induction n with
  | zero => rfl
  | succ n ih =>
    rw [List.replicate_succ', ← List.append_assoc, eraseDups_concat_of_mem (by simp), ih]

theorem eraseDups_of_nodup {l : List α} (h : l.Nodup) : l.eraseDups = l := by
  induction l using List.reverseRecOn with
  | nil => rfl
  | append_singleton l a ih =>
    obtain ⟨hl, -, ha⟩ := List.nodup_append'.1 h
    rw [eraseDups_concat_of_not_mem (by simpa using ha), ih hl]

theorem nodup_eraseDups (l : List α) : l.eraseDups.Nodup := by
  induction l using List.reverseRecOn with
  | nil => simp
  | append_singleton l a ih =>
    by_cases ha : a ∈ l
    · rw [eraseDups_concat_of_mem ha]
      exact ih
    · rw [eraseDups_concat_of_not_mem ha]
      exact ih.append (List.nodup_singleton a) (by simpa using ha)

theorem sublist_eraseDups (l : List α) : l.eraseDups.Sublist l := by
  induction l using List.reverseRecOn with
  | nil => exact .slnil
  | append_singleton l a ih =>
    rw [eraseDups_concat]
    split_ifs
    · exact ih.trans (List.sublist_append_left l [a])
    · exact ih.append (.refl [a])

/-- Before a later one of the firsts comes an earlier one. -/
theorem pairwise_eraseDups (l : List α) :
    l.eraseDups.Pairwise fun a b => ∀ i : Nat, l[i]? = some b → a ∈ l.take i := by
  induction l using List.reverseRecOn with
  | nil => simp
  | append_singleton l x ih =>
    have hbehind : ∀ a ∈ l, ∀ i, l.length ≤ i → a ∈ (l ++ [x]).take i := by
      intro a ha i hi
      rw [List.take_append, List.take_of_length_le hi]
      exact List.mem_append_left _ ha
    have hkeep : l.eraseDups.Pairwise fun a b =>
        ∀ i : Nat, (l ++ [x])[i]? = some b → a ∈ (l ++ [x]).take i := by
      refine ih.imp_of_mem fun {a b} ha _ h i hi => ?_
      rcases Nat.lt_or_ge i l.length with hlt | hge
      · rw [List.getElem?_append_left hlt] at hi
        rw [List.take_append_of_le_length (Nat.le_of_lt hlt)]
        exact h i hi
      · exact hbehind a (List.mem_eraseDups.1 ha) i hge
    rw [eraseDups_concat]
    split_ifs with hx
    · exact hkeep
    · refine List.pairwise_append.2 ⟨hkeep, List.pairwise_singleton _ x, fun a ha b hb i hi => ?_⟩
      obtain rfl := List.mem_singleton.1 hb
      refine hbehind a (List.mem_eraseDups.1 ha) i (Nat.le_of_not_lt fun hlt => hx ?_)
      rw [List.getElem?_append_left hlt] at hi
      exact List.mem_eraseDups.2 (List.mem_of_getElem? hi)

/-- Renaming keeps the firsts when it keeps different items apart. -/
theorem eraseDups_map {β : Type} [BEq β] [LawfulBEq β] {g : α → β} (hg : Function.Injective g)
    (l : List α) : (l.map g).eraseDups = l.eraseDups.map g := by
  induction l using List.reverseRecOn with
  | nil => rfl
  | append_singleton l a ih =>
    have hmem : g a ∈ l.eraseDups.map g ↔ a ∈ l.eraseDups := List.mem_map_of_injective hg
    rw [List.map_append, List.map_singleton, eraseDups_concat, eraseDups_concat, ih]
    by_cases ha : a ∈ l.eraseDups
    · rw [if_pos ha, if_pos (hmem.2 ha)]
    · rw [if_neg ha, if_neg (mt hmem.1 ha), List.map_append, List.map_singleton]

/-- Nothing comes twice when the firsts are all there is. -/
theorem length_eraseDups_eq_iff {l : List α} : l.eraseDups.length = l.length ↔ l.Nodup := by
  constructor
  · intro h
    rw [← (sublist_eraseDups l).eq_of_length h]
    exact nodup_eraseDups l
  · intro h
    rw [eraseDups_of_nodup h]

end Firsts

namespace RuleTable

variable {α β : Type}

@[ext] theorem ext {t u : RuleTable α} (h : t.rows = u.rows) : t = u := by
  cases t; cases u; cases h; rfl

/-! ## Rows and lookups -/

/-- Keys are unique, so a lookup finds a row exactly when the row is there. -/
theorem get?_eq_some_iff {t : RuleTable α} {id : Text} {a : α} :
    t.get? id = some a ↔ (id, a) ∈ t.rows := by
  obtain ⟨rows, hn⟩ := t
  simp only [get?, Option.map_eq_some_iff]
  constructor
  · rintro ⟨⟨x, b⟩, hf, rfl⟩
    have hx : x = id := by simpa using List.find?_some hf
    exact hx ▸ List.mem_of_find?_eq_some hf
  · intro h
    refine ⟨(id, a), ?_, rfl⟩
    induction rows with
    | nil => cases h
    | cons r rows ih =>
      rw [List.map_cons, List.nodup_cons] at hn
      rcases List.mem_cons.1 h with rfl | h
      · simp
      · have hne : r.1 ≠ id := fun hr => hn.1 (hr ▸ List.mem_map_of_mem h)
        rw [List.find?_cons_of_neg (by simpa using hne)]
        exact ih hn.2 h

theorem get?_eq_none_iff {t : RuleTable α} {id : Text} : t.get? id = none ↔ id ∉ t.ids := by
  simp only [get?, Option.map_eq_none_iff, List.find?_eq_none, ids, List.mem_map, not_exists,
    not_and, beq_iff_eq]

theorem contains_eq_isSome (t : RuleTable α) (id : Text) :
    t.contains id = (t.get? id).isSome := by
  rw [contains, get?, Option.isSome_map, Bool.eq_iff_iff, List.any_eq_true, List.find?_isSome]

theorem mem_ids_iff {t : RuleTable α} {id : Text} : id ∈ t.ids ↔ ∃ a, t.get? id = some a := by
  rw [← Option.isSome_iff_exists, Option.isSome_iff_ne_none, ne_eq, get?_eq_none_iff, not_not]

theorem nodup_ids (t : RuleTable α) : t.ids.Nodup := t.nodup

theorem contains_ids (t : RuleTable α) (id : Text) : t.ids.contains id = (t.get? id).isSome := by
  rw [Bool.eq_iff_iff, List.contains_iff_mem, mem_ids_iff, Option.isSome_iff_exists]

/-- The order of the rows makes no difference to a lookup. -/
theorem get?_eq_of_perm {t u : RuleTable α} (h : t.rows.Perm u.rows) (id : Text) :
    t.get? id = u.get? id := by
  refine Option.ext fun a => ?_
  rw [get?_eq_some_iff, get?_eq_some_iff, h.mem_iff]

@[simp] theorem get?_empty (id : Text) : (empty : RuleTable α).get? id = none := rfl

/-! ## Rows kept and changed -/

@[simp] theorem get?_filterMap (f : Text → α → Option β) (t : RuleTable α) (id : Text) :
    (t.filterMap f).get? id = (t.get? id).bind (f id) := by
  refine Option.ext fun b => ?_
  simp only [get?_eq_some_iff, filterMap, List.mem_filterMap, Option.map_eq_some_iff,
    Option.bind_eq_some_iff]
  constructor
  · rintro ⟨⟨x, a⟩, hr, c, hc, heq⟩
    obtain ⟨rfl, rfl⟩ := Prod.mk.inj heq
    exact ⟨a, hr, hc⟩
  · rintro ⟨a, hr, hb⟩
    exact ⟨(id, a), hr, b, hb, rfl⟩

@[simp] theorem get?_filter (p : Text → α → Bool) (t : RuleTable α) (id : Text) :
    (t.filter p).get? id = (t.get? id).filter (p id) := by
  rw [filter, get?_filterMap]
  cases t.get? id <;> simp [Option.filter]

@[simp] theorem get?_map (f : Text → α → β) (t : RuleTable α) (id : Text) :
    (t.map f).get? id = (t.get? id).map (f id) := by
  rw [map, get?_filterMap]
  cases t.get? id <;> rfl

theorem filterMap_filterMap {γ : Type} (f : Text → α → Option β) (g : Text → β → Option γ)
    (t : RuleTable α) :
    (t.filterMap f).filterMap g = t.filterMap fun id a => (f id a).bind (g id) := by
  refine ext ?_
  simp only [filterMap, List.filterMap_filterMap]
  refine congrArg (List.filterMap · t.rows) (funext fun r => ?_)
  cases f r.1 r.2 <;> rfl

theorem filter_filter (p q : Text → α → Bool) (t : RuleTable α) :
    (t.filter p).filter q = t.filter fun id a => p id a && q id a := by
  rw [filter, filter, filterMap_filterMap, filter]
  refine congrArg (filterMap · t) (funext fun id => funext fun a => ?_)
  cases hp : p id a <;> simp

theorem filter_map (f : Text → α → β) (p : Text → β → Bool) (t : RuleTable α) :
    (t.map f).filter p = (t.filter fun id a => p id (f id a)).map f := by
  rw [filter, map, map, filter, filterMap_filterMap, filterMap_filterMap]
  refine congrArg (filterMap · t) (funext fun id => funext fun a => ?_)
  cases hp : p id (f id a) <;> simp [hp]

theorem rows_map (f : Text → α → β) (t : RuleTable α) :
    (t.map f).rows = t.rows.map fun r => (r.1, f r.1 r.2) := by
  simp [map, filterMap]

theorem rows_filter (p : Text → α → Bool) (t : RuleTable α) :
    (t.filter p).rows = t.rows.filter fun r => p r.1 r.2 := by
  simp only [filter, filterMap]
  induction t.rows with
  | nil => rfl
  | cons r rows ih =>
    by_cases h : p r.1 r.2 <;>
      simp only [List.filterMap_cons, List.filter_cons, h, if_true, Bool.false_eq_true, if_false,
        Option.map_some, Option.map_none, ih]

/-- Leaving rows out keeps the order of the others. -/
theorem ids_filterMap_sublist (f : Text → α → Option β) (t : RuleTable α) :
    (t.filterMap f).ids.Sublist t.ids := by
  simp only [ids, filterMap]
  induction t.rows with
  | nil => exact List.Sublist.refl _
  | cons r rows ih =>
    cases h : f r.1 r.2 with
    | none => simpa [h] using ih.cons r.1
    | some b => simpa [h] using ih

theorem perm_filterMap {t u : RuleTable α} (h : t.rows.Perm u.rows) (f : Text → α → Option β) :
    (t.filterMap f).rows.Perm (u.filterMap f).rows :=
  h.filterMap _

theorem ids_map (f : Text → α → β) (t : RuleTable α) : (t.map f).ids = t.ids := by
  rw [ids, rows_map, List.map_map]
  rfl

theorem mem_ids_filter {p : Text → α → Bool} {t : RuleTable α} {id : Text} :
    id ∈ (t.filter p).ids ↔ ∃ a, t.get? id = some a ∧ p id a = true := by
  simp [mem_ids_iff, Option.filter_eq_some_iff]

/-! ## Rows set -/

theorem find?_setRow (id : Text) (a : α) (rows : List (Text × α)) (x : Text) :
    ((setRow id a rows).find? fun r => r.1 == x).map Prod.snd =
      if x = id then some a else (rows.find? fun r => r.1 == x).map Prod.snd := by
  induction rows with
  | nil => by_cases hx : x = id <;> simp [setRow, hx, Ne.symm]
  | cons r rows ih =>
    by_cases hr : r.1 = id
    · by_cases hx : x = id
      · simp [setRow, hr, hx]
      · have hx' : ¬ id = x := fun h => hx h.symm
        simp [setRow, hr, hx, hx']
    · by_cases hx : r.1 = x
      · have hx' : ¬ x = id := fun h => hr (hx.trans h)
        simp [setRow, hx, hx']
      · simp [setRow, hr, hx, ih]

@[simp] theorem get?_set (t : RuleTable α) (id : Text) (a : α) (x : Text) :
    (t.set id a).get? x = if x = id then some a else t.get? x :=
  find?_setRow id a t.rows x

theorem setRow_eq_map {id : Text} {a : α} (f : α → α) :
    ∀ {rows : List (Text × α)}, (rows.map Prod.fst).Nodup → (id, a) ∈ rows →
      setRow id (f a) rows = rows.map fun r => (r.1, if r.1 = id then f r.2 else r.2)
  | [], _, h => by cases h
  | r :: rows, hn, h => by
    rw [List.map_cons, List.nodup_cons] at hn
    by_cases hr : r.1 = id
    · have ha : r = (id, a) := by
        rcases List.mem_cons.1 h with h | h
        · exact h.symm
        · exact absurd (hr ▸ List.mem_map_of_mem h) hn.1
      have hrest : ∀ x ∈ rows, (x.1, if x.1 = id then f x.2 else x.2) = x := fun x hx => by
        have hne : x.1 ≠ id := fun hx' => hn.1 (hr ▸ hx' ▸ List.mem_map_of_mem hx)
        rw [if_neg hne]
      subst ha
      simp only [setRow, beq_self_eq_true, if_true, List.map_cons]
      rw [List.map_congr_left hrest, List.map_id']
    · have hmem : (id, a) ∈ rows := by
        rcases List.mem_cons.1 h with h | h
        · exact absurd (congrArg Prod.fst h).symm hr
        · exact h
      simp [setRow, hr, setRow_eq_map f hn.2 hmem]

/-- Setting the value of a rule that is there changes that value and no other. -/
theorem set_eq_map {t : RuleTable α} {id : Text} {a : α} (f : α → α) (h : t.get? id = some a) :
    t.set id (f a) = t.map fun x v => if x = id then f v else v := by
  refine ext ?_
  rw [rows_map]
  exact setRow_eq_map f t.nodup (get?_eq_some_iff.1 h)

theorem get?_cons (r : Text × α) (rows : List (Text × α)) (h : ((r :: rows).map Prod.fst).Nodup)
    (id : Text) : (⟨r :: rows, h⟩ : RuleTable α).get? id =
      if id = r.1 then some r.2 else (⟨rows, (List.nodup_cons.1 h).2⟩ : RuleTable α).get? id := by
  by_cases hr : id = r.1
  · simp [get?, hr]
  · have : ¬ r.1 = id := fun h => hr h.symm
    simp [get?, hr, this]

/-- Of two tables merged, the second decides where it has a row. -/
@[simp] theorem get?_merge (t u : RuleTable α) (id : Text) :
    (t.merge u).get? id = (u.get? id).or (t.get? id) := by
  obtain ⟨rows, hn⟩ := u
  induction rows generalizing t with
  | nil => rfl
  | cons r rows ih =>
    have hmerge : t.merge ⟨r :: rows, hn⟩ =
        (t.set r.1 r.2).merge ⟨rows, (List.nodup_cons.1 hn).2⟩ := rfl
    rw [hmerge, ih, get?_set, get?_cons]
    by_cases hid : id = r.1
    · have hnone : (⟨rows, (List.nodup_cons.1 hn).2⟩ : RuleTable α).get? id = none :=
        get?_eq_none_iff.2 (hid ▸ (List.nodup_cons.1 hn).1)
      rw [hnone, if_pos hid, if_pos hid]
      rfl
    · rw [if_neg hid, if_neg hid]

/-! ## One row -/

/-- The table of one rule. -/
def single (id : Text) (a : α) : RuleTable α := ⟨[(id, a)], List.nodup_singleton _⟩

theorem get?_single (id : Text) (a : α) (x : Text) :
    (single id a).get? x = if x = id then some a else none := by
  rw [single, get?_cons]
  rfl

/-! ## Rows written one after the other -/

theorem ids_setRow (id : Text) (a : α) (rows : List (Text × α)) :
    (setRow id a rows).map Prod.fst =
      if id ∈ rows.map Prod.fst then rows.map Prod.fst else rows.map Prod.fst ++ [id] := by
  induction rows with
  | nil => rfl
  | cons r rows ih =>
    by_cases hr : r.1 = id
    · simp [setRow, hr]
    · have hr' : ¬id = r.1 := fun h => hr h.symm
      simp only [setRow, beq_iff_eq, hr, if_false, List.map_cons, ih, List.mem_cons, hr', false_or]
      split_ifs <;> rfl

theorem ofRows_concat (rows : List (Text × α)) (r : Text × α) :
    ofRows (rows ++ [r]) = (ofRows rows).set r.1 r.2 := by
  rw [ofRows, List.foldl_append]
  rfl

/-- Of rows with one id the first gives the place. -/
theorem ids_ofRows (rows : List (Text × α)) :
    (ofRows rows).ids = (rows.map Prod.fst).eraseDups := by
  induction rows using List.reverseRecOn with
  | nil => rfl
  | append_singleton rows r ih =>
    rw [ofRows_concat, List.map_append, List.map_singleton, eraseDups_concat, ← ih]
    exact ids_setRow r.1 r.2 _

/-- Of rows with one id the last gives the value. -/
theorem get?_ofRows (before : List (Text × α)) (r : Text × α) {after : List (Text × α)}
    (h : ∀ x ∈ after, x.1 ≠ r.1) : (ofRows (before ++ r :: after)).get? r.1 = some r.2 := by
  induction after using List.reverseRecOn with
  | nil => rw [ofRows_concat, get?_set, if_pos rfl]
  | append_singleton after x ih =>
    have hx : r.1 ≠ x.1 := Ne.symm (h x (by simp))
    rw [← List.cons_append, ← List.append_assoc, ofRows_concat, get?_set, if_neg hx]
    exact ih fun y hy => h y (List.mem_append_left [x] hy)

end RuleTable

end RuleFit
