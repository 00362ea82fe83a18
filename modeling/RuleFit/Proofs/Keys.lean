import RuleFit.Candidate.Distinct
import RuleFit.Proofs.Ascending
import RuleFit.Proofs.Distinctness
import RuleFit.Proofs.Faces

/-!
# Keys of candidates

A collection of distinct candidates finds them by a key, and equality has to agree with it. The key
is the severity and the options, in which a mapping is replaced by the fixed sequence of its sorted
entries (`Datum.part`). Objects are mappings with text keys (`Candidate.HasTextKeys`); nothing else
is asked of the values.

**Theorem (`key_agrees`).** Equal candidates have keys together or not at all, and their keys are
equal. Keeping the first candidate of every class of equal ones leaves, of a list of candidates with
keys, a part in which no two are equal and every candidate of the list is equal to exactly one,
the first of its class.

Equality of candidates with keys is an equivalence because it is equality of outlines
(`eqv_iff_outline`). The collection is filled one candidate at a time, and after each the kept ones
are the firsts of those seen so far (`Firsts`).
-/

namespace RuleFit

namespace Datum

/-! ## Options as parts of keys -/

/-- What stands for an option in a key: for a mapping the sequence of its entries, sorted. -/
def part (d : Datum) : Datum :=
  match d.opened with
  | .map entries => .tuple ((ascending entries).map fun e => .tuple [e.1, e.2])
  | d => d

/-- If the value is a mapping, its keys are texts. -/
def HasTextKeys (d : Datum) : Prop :=
  ∀ entries, d.opened = .map entries → TextKeyed entries

theorem keyPart_eq {d : Datum} (h : d.HasTextKeys) : Candidate.keyPart d = .ok d.part := by
  unfold Candidate.keyPart part
  cases hopened : d.opened with
  | map entries =>
    simp only [(h entries hopened).sortEntries]
    rfl
  | _ => rfl

theorem alike_tuple_tuple (xs ys : List Datum) :
    (Datum.tuple xs).alike (.tuple ys) = eqvItems xs ys := by
  simp [alike, sameNan, eqv]

theorem part_map (es : List (Datum × Datum)) :
    (Datum.map es).part = .tuple ((ascending es).map fun e => .tuple [e.1, e.2]) := rfl

/-- Mappings with text keys are equal when the parts that stand for them are. -/
theorem alike_map_iff_part {es es' : List (Datum × Datum)} (h : TextKeyed es)
    (h' : TextKeyed es') :
    (Datum.map es).alike (.map es') = true ↔
      (Datum.map es).part.alike (Datum.map es').part = true := by
  rw [alike_map_iff_ascending h h', part_map, part_map, alike_tuple_tuple, eqvItems_iff_forall₂,
    List.forall₂_map_left_iff, List.forall₂_map_right_iff]
  simp [alike_tuple_tuple]

/-- A knot is equal to itself only. -/
theorem alike_knot_iff (n : Nat) (cells : List Datum) (d : Datum) :
    (Datum.knot n cells).alike d = true ↔ .knot n cells = d := by
  cases d with
  | knot m cells' =>
    rw [← same_iff]
    simp [alike, sameNan, eqv, same]
  | _ => simp [alike, sameNan, eqv, sameQuantity, quantity?]

/-- What is equal as an option is equal as a part of a key. -/
theorem alike_part {a b : Datum} (ha : a.HasTextKeys) (hb : b.HasTextKeys)
    (h : a.alike b = true) : a.part.alike b.part = true := by
  cases a with
  | map es =>
    cases b with
    | map es' => exact (alike_map_iff_part (ha es rfl) (hb es' rfl)).1 h
    | _ => simp [alike, sameNan, eqv, sameQuantity, quantity?] at h
  | knot n cells => exact (alike_knot_iff n cells b).1 h ▸ alike_refl _
  | _ =>
    cases b with
    | map | knot => simp [alike, sameNan, eqv, sameQuantity, quantity?] at h
    | _ => exact h

/-- What stands for the option can be part of a key: the values of an object can be keys, and any
other option can be one itself. -/
def isHashable (d : Datum) : Bool :=
  match d.opened with
  | .map entries => entries.all fun e => e.2.notKey?.isNone
  | d => d.notKey?.isNone

theorem notKey?_part_eq_none_iff {d : Datum} (h : d.HasTextKeys) :
    d.part.notKey? = none ↔ d.isHashable = true := by
  unfold part isHashable
  cases hopened : d.opened with
  | map entries =>
    simp only [notKey?, notKeyItems?_eq_none_iff, List.forall_mem_map, List.all_eq_true]
    refine forall_congr' fun e => ?_
    rw [mem_ascending]
    refine forall_congr' fun he => ?_
    have hkey : e.1.notKey? = none := by
      rw [fst_eq_of_isSome_textKey? ((h entries hopened).texts e he)]
      simp [notKey?]
    simp [hkey]
  | _ => simp

/-! ## Outlines -/

/-- What an option has in common with the equal ones: if it is a knot everything, and otherwise the
face of the part that stands for it. -/
inductive Outline where
  | knot (position : Nat) (cells : List Datum)
  | map (face : Face)
  | value (face : Face)

def outline : Datum → Outline
  | .knot n cells => .knot n cells
  | .map entries => .map (Datum.map entries).part.face
  | d => .value d.part.face

/-- Options of candidates with keys are equal when their outlines are. -/
theorem alike_iff_outline {a b : Datum} (ha : a.HasTextKeys) (hb : b.HasTextKeys)
    (hkeya : a.part.notKey? = none) (hkeyb : b.part.notKey? = none) :
    a.alike b = true ↔ a.outline = b.outline := by
  cases a with
  | knot n cells =>
    rw [alike_knot_iff]
    cases b <;> simp [outline]
  | map es =>
    cases b with
    | map es' =>
      rw [alike_map_iff_part (ha es rfl) (hb es' rfl), alike_iff_face _ _ hkeya hkeyb]
      simp [outline]
    | _ => simp [alike, sameNan, eqv, sameQuantity, quantity?, outline]
  | _ =>
    cases b with
    | map | knot => simp [alike, sameNan, eqv, sameQuantity, quantity?, outline]
    | _ => exact (alike_iff_face _ _ hkeya hkeyb).trans (by simp [outline])

/-! ## Options item by item -/

theorem eqvItems_map {f : Datum → Datum} {xs ys : List Datum} (h : eqvItems xs ys = true)
    (hf : ∀ x ∈ xs, ∀ y ∈ ys, x.alike y = true → (f x).alike (f y) = true) :
    eqvItems (xs.map f) (ys.map f) = true := by
  rw [eqvItems_iff_forall₂, List.forall₂_iff_zip] at h
  rw [eqvItems_iff_forall₂, List.forall₂_map_left_iff, List.forall₂_map_right_iff,
    List.forall₂_iff_zip]
  refine ⟨h.1, fun {x y} hmem => ?_⟩
  obtain ⟨hx, hy⟩ := List.of_mem_zip hmem
  exact hf x hx y hy (h.2 hmem)

theorem eqvItems_iff_map_eq {α : Type} {f : Datum → α} {xs ys : List Datum}
    (hf : ∀ x ∈ xs, ∀ y ∈ ys, x.alike y = true ↔ f x = f y) :
    eqvItems xs ys = true ↔ xs.map f = ys.map f := by
  induction xs generalizing ys with
  | nil => cases ys <;> simp
  | cons x xs ih =>
    cases ys with
    | nil => simp
    | cons y ys =>
      have hhead := hf x List.mem_cons_self y List.mem_cons_self
      have htail := ih fun x hx y hy =>
        hf x (List.mem_cons_of_mem _ hx) y (List.mem_cons_of_mem _ hy)
      rw [eqvItems_cons, Bool.and_eq_true, hhead, htail, List.map_cons, List.map_cons,
        List.cons.injEq]

end Datum

namespace Candidate

/-! ## Keys -/

/-- The mappings among the options have texts for keys. -/
def HasTextKeys (c : Candidate) : Prop := ∀ d ∈ c.options, d.HasTextKeys

variable {a b c k : Candidate}

theorem mapM_keyPart {ds : List Datum} (h : ∀ d ∈ ds, d.HasTextKeys) :
    ds.mapM keyPart = .ok (ds.map Datum.part) := by
  induction ds with
  | nil => rfl
  | cons d ds ih =>
    obtain ⟨hd, hds⟩ := List.forall_mem_cons.1 h
    rw [List.mapM_cons, Datum.keyPart_eq hd, ih hds]
    rfl

/-- The key is the severity and the parts that stand for the options. -/
theorem key_eq_ok_iff (h : c.HasTextKeys) {key : Severity × List Datum} :
    c.key = .ok key ↔ Datum.notKeyItems? (c.options.map Datum.part) = none ∧
      (c.severity, c.options.map Datum.part) = key := by
  rw [Candidate.key, mapM_keyPart h]
  cases hnone : Datum.notKeyItems? (c.options.map Datum.part) <;> simp [bind, Except.bind, hnone]

theorem exists_key_iff (h : c.HasTextKeys) :
    (∃ key, c.key = .ok key) ↔ Datum.notKeyItems? (c.options.map Datum.part) = none := by
  simp [key_eq_ok_iff h]

/-- A candidate has a key when no option is a list or a set or holds one, and no value of an
object is one, or a mapping, or holds one. -/
theorem exists_key_iff_isHashable (h : c.HasTextKeys) :
    (∃ key, c.key = .ok key) ↔ ∀ d ∈ c.options, d.isHashable = true := by
  rw [exists_key_iff h, Datum.notKeyItems?_eq_none_iff, List.forall_mem_map]
  exact forall₂_congr fun d hd => Datum.notKey?_part_eq_none_iff (h d hd)

theorem eqv_iff : a.eqv b = true ↔
    a.severity = b.severity ∧ Datum.eqvItems a.options b.options = true := by
  rw [Candidate.eqv, Bool.and_eq_true, beq_iff_eq]

/-- Equal candidates have equal parts in their keys. -/
theorem eqvItems_parts (ha : a.HasTextKeys) (hb : b.HasTextKeys) (h : a.eqv b = true) :
    Datum.eqvItems (a.options.map Datum.part) (b.options.map Datum.part) = true :=
  Datum.eqvItems_map (eqv_iff.1 h).2 fun x hx y hy => Datum.alike_part (ha x hx) (hb y hy)

theorem exists_key_iff_of_eqv (ha : a.HasTextKeys) (hb : b.HasTextKeys) (h : a.eqv b = true) :
    (∃ key, a.key = .ok key) ↔ ∃ key, b.key = .ok key := by
  rw [exists_key_iff ha, exists_key_iff hb,
    Datum.notKeyItems?_eq_none_iff_of_eqvItems _ _ (eqvItems_parts ha hb h)]

theorem sameKey_of_eqv (ha : a.HasTextKeys) (hb : b.HasTextKeys) (h : a.eqv b = true)
    {key key' : Severity × List Datum} (hkey : a.key = .ok key) (hkey' : b.key = .ok key') :
    sameKey key key' = true := by
  obtain ⟨-, rfl⟩ := (key_eq_ok_iff ha).1 hkey
  obtain ⟨-, rfl⟩ := (key_eq_ok_iff hb).1 hkey'
  simp [sameKey, (eqv_iff.1 h).1, eqvItems_parts ha hb h]

/-! ## Equality as an equivalence -/

/-- The candidate has text keys and a key. -/
structure IsKeyed (c : Candidate) : Prop where
  texts : c.HasTextKeys
  keyed : ∃ key, c.key = .ok key

/-- What a candidate has in common with the equal ones. -/
def outline (c : Candidate) : Severity × List Datum.Outline :=
  (c.severity, c.options.map Datum.outline)

/-- **Candidates with keys are equal when their outlines are.** -/
theorem eqv_iff_outline (ha : a.IsKeyed) (hb : b.IsKeyed) :
    a.eqv b = true ↔ a.outline = b.outline := by
  have hkeya := Datum.notKeyItems?_eq_none_iff.1 ((exists_key_iff ha.texts).1 ha.keyed)
  have hkeyb := Datum.notKeyItems?_eq_none_iff.1 ((exists_key_iff hb.texts).1 hb.keyed)
  rw [eqv_iff, outline, outline, Prod.mk.injEq]
  refine and_congr_right fun _ => Datum.eqvItems_iff_map_eq fun x hx y hy => ?_
  exact Datum.alike_iff_outline (ha.texts x hx) (hb.texts y hy)
    (hkeya _ (List.mem_map_of_mem hx)) (hkeyb _ (List.mem_map_of_mem hy))

theorem eqv_comm (ha : a.IsKeyed) (hb : b.IsKeyed) : a.eqv b = b.eqv a := by
  rw [Bool.eq_iff_iff, eqv_iff_outline ha hb, eqv_iff_outline hb ha, eq_comm]

theorem eqv_congr (ha : a.IsKeyed) (hb : b.IsKeyed) (hc : c.IsKeyed) (h : a.eqv b = true) :
    c.eqv a = c.eqv b := by
  rw [Bool.eq_iff_iff, eqv_iff_outline hc ha, eqv_iff_outline hc hb, (eqv_iff_outline ha hb).1 h]

theorem eqv_refl (c : Candidate) : c.eqv c = true :=
  eqv_iff.2 ⟨rfl, Datum.eqvItems_refl c.options⟩

/-! ## The firsts of every class -/

/-- Of the candidates seen, those are kept that are the first of their class. -/
structure Firsts (seen kept : List Candidate) : Prop where
  sublist : kept.Sublist seen
  apart : kept.Pairwise (Apart Candidate.eqv)
  first : ∀ c ∈ seen, ∃ k ∈ kept, seen.find? (·.eqv c) = some k

theorem Firsts.nil : Firsts [] [] := ⟨.slnil, .nil, nofun⟩

variable {seen kept : List Candidate}

theorem Firsts.first_append (h : Firsts seen kept) (hc : c ∈ seen) (more : List Candidate) :
    ∃ k ∈ kept, (seen ++ more).find? (·.eqv c) = some k := by
  obtain ⟨k, hk, hfind⟩ := h.first c hc
  exact ⟨k, hk, by rw [List.find?_append, hfind, Option.some_or]⟩

/-- A candidate that is equal to a kept one is not kept. -/
theorem Firsts.skip (h : Firsts seen kept) (hkeyed : ∀ x ∈ seen ++ [c], x.IsKeyed)
    (hk : k ∈ kept) (heq : k.eqv c = true) : Firsts (seen ++ [c]) kept where
  sublist := h.sublist.trans (List.sublist_append_left seen [c])
  apart := h.apart
  first c' hc' := by
    rcases List.mem_append.1 hc' with hc' | hc'
    · exact h.first_append hc' [c]
    · obtain rfl := List.mem_singleton.1 hc'
      -- What is equal to the new candidate is equal to the one that is kept for it.
      have hseen : k ∈ seen := h.sublist.subset hk
      have hsame : (seen ++ [c']).find? (·.eqv c') = (seen ++ [c']).find? (·.eqv k) :=
        List.find?_congr fun x hx =>
          (eqv_congr (hkeyed k (List.mem_append_left _ hseen)) (hkeyed c' (by simp))
            (hkeyed x hx) heq).symm
      rw [hsame]
      exact h.first_append hseen [c']

/-- A candidate that is equal to none of the kept ones is equal to none that was seen. -/
theorem Firsts.unseen (h : Firsts seen kept) (hkeyed : ∀ x ∈ seen ++ [c], x.IsKeyed)
    (hnew : ∀ k ∈ kept, k.eqv c = false) : ∀ x ∈ seen, x.eqv c = false := by
  intro x hx
  have hkey : ∀ y ∈ seen, y.IsKeyed := fun y hy => hkeyed y (List.mem_append_left _ hy)
  obtain ⟨k, hk, hfind⟩ := h.first x hx
  have hkx : k.eqv x = true := by simpa using List.find?_some hfind
  rw [← Bool.not_eq_true]
  intro heq
  have hkc := eqv_congr (hkey x hx) (hkeyed c (by simp)) (hkey k (h.sublist.subset hk)) heq
  rw [hkx, hnew k hk] at hkc
  cases hkc

/-- And it is the first of its class. -/
theorem Firsts.keep (h : Firsts seen kept) (hkeyed : ∀ x ∈ seen ++ [c], x.IsKeyed)
    (hnew : ∀ k ∈ kept, k.eqv c = false) : Firsts (seen ++ [c]) (kept ++ [c]) where
  sublist := h.sublist.append (List.Sublist.refl [c])
  apart := by
    rw [List.pairwise_append]
    refine ⟨h.apart, List.pairwise_singleton _ c, fun k hk c' hc' => ?_⟩
    obtain rfl := List.mem_singleton.1 hc'
    have hkey := hkeyed k (List.mem_append_left _ (h.sublist.subset hk))
    exact ⟨hnew k hk, eqv_comm hkey (hkeyed c' (by simp)) ▸ hnew k hk⟩
  first c' hc' := by
    rcases List.mem_append.1 hc' with hc' | hc'
    · obtain ⟨k, hk, hfind⟩ := h.first_append hc' [c]
      exact ⟨k, List.mem_append_left [c] hk, hfind⟩
    · obtain rfl := List.mem_singleton.1 hc'
      have hnone : seen.find? (·.eqv c') = none :=
        List.find?_eq_none.2 fun x hx => by simp [h.unseen hkeyed hnew x hx]
      refine ⟨c', by simp, ?_⟩
      rw [List.find?_append, hnone]
      simp [eqv_refl]

/-- Every candidate that was seen is equal to one of the kept ones, the first of its class. -/
theorem Firsts.filter_eq (h : Firsts seen kept) (hkeyed : ∀ x ∈ seen, x.IsKeyed) (hc : c ∈ seen) :
    ∃ k, seen.find? (·.eqv c) = some k ∧ kept.filter (·.eqv c) = [k] := by
  obtain ⟨k, hk, hfind⟩ := h.first c hc
  have hkc : k.eqv c = true := by simpa using List.find?_some hfind
  have hmem : k ∈ kept.filter (·.eqv c) := List.mem_filter.2 ⟨hk, hkc⟩
  have hapart : (kept.filter (·.eqv c)).Pairwise (Apart Candidate.eqv) := h.apart.filter _
  refine ⟨k, hfind, ?_⟩
  -- Two of them would be equal to each other.
  have hsame : ∀ x ∈ kept.filter (·.eqv c), ∀ y ∈ kept.filter (·.eqv c), x.eqv y = true := by
    intro x hx y hy
    rw [List.mem_filter] at hx hy
    rw [eqv_congr (hkeyed y (h.sublist.subset hy.1)) (hkeyed c hc)
      (hkeyed x (h.sublist.subset hx.1)) hy.2]
    exact hx.2
  cases hkept : kept.filter (·.eqv c) with
  | nil => simp [hkept] at hmem
  | cons x rest =>
    rw [hkept] at hmem hapart hsame
    cases rest with
    | nil => rw [List.mem_singleton.1 hmem]
    | cons y rest =>
      have hxy := (List.rel_of_pairwise_cons hapart List.mem_cons_self).1
      rw [hsame x List.mem_cons_self y (by simp)] at hxy
      cases hxy

/-- Looking at the keys first finds the same candidates, as equal ones have equal keys. -/
theorem any_sameKey_iff {kept : List ((Severity × List Datum) × Candidate)}
    {key : Severity × List Datum} (hkeys : ∀ e ∈ kept, e.2.key = .ok e.1)
    (htexts : ∀ e ∈ kept, e.2.HasTextKeys) (hc : c.HasTextKeys) (hkey : c.key = .ok key) :
    (kept.any fun e => sameKey e.1 key && e.2.eqv c) = true ↔
      ∃ k ∈ kept.map Prod.snd, k.eqv c = true := by
  rw [List.any_eq_true]
  constructor
  · rintro ⟨e, he, htest⟩
    rw [Bool.and_eq_true] at htest
    exact ⟨e.2, List.mem_map_of_mem he, htest.2⟩
  · rintro ⟨k, hk, heq⟩
    obtain ⟨e, he, rfl⟩ := List.mem_map.1 hk
    have hsame := sameKey_of_eqv (htexts e he) hc heq (hkeys e he) hkey
    exact ⟨e, he, by rw [hsame, heq]; rfl⟩

/-- Going through further candidates keeps the firsts of all of them. -/
theorem distinctFrom_firsts {kept : List ((Severity × List Datum) × Candidate)}
    {cs : List Candidate} (hkeys : ∀ e ∈ kept, e.2.key = .ok e.1)
    (hkept : Firsts seen (kept.map Prod.snd)) (hkeyed : ∀ x ∈ seen ++ cs, x.IsKeyed) :
    ∃ all, distinctFrom kept cs = .ok all ∧ Firsts (seen ++ cs) all := by
  induction cs generalizing seen kept with
  | nil => exact ⟨_, rfl, by simpa using hkept⟩
  | cons c cs ih =>
    have hc : c.IsKeyed := hkeyed c (by simp)
    obtain ⟨key, hkey⟩ := hc.keyed
    rw [List.append_cons] at hkeyed ⊢
    have hseen : ∀ x ∈ seen ++ [c], x.IsKeyed :=
      fun x hx => hkeyed x (List.mem_append_left cs hx)
    have htexts : ∀ e ∈ kept, e.2.HasTextKeys := fun e he =>
      (hseen e.2 (List.mem_append_left [c] (hkept.sublist.subset (List.mem_map_of_mem he)))).texts
    have htest := any_sameKey_iff hkeys htexts hc.texts hkey
    by_cases hold : (kept.any fun e => sameKey e.1 key && e.2.eqv c) = true
    · obtain ⟨k, hk, heq⟩ := htest.1 hold
      have hstep : distinctFrom kept (c :: cs) = distinctFrom kept cs := by
        rw [distinctFrom, hkey]
        exact if_pos hold
      rw [hstep]
      exact ih hkeys (hkept.skip hseen hk heq) hkeyed
    · have hnew : ∀ k ∈ kept.map Prod.snd, k.eqv c = false := fun k hk =>
        Bool.eq_false_iff.2 fun heq => hold (htest.2 ⟨k, hk, heq⟩)
      have hstep : distinctFrom kept (c :: cs) = distinctFrom (kept ++ [(key, c)]) cs := by
        rw [distinctFrom, hkey]
        exact if_neg hold
      have hkeys' : ∀ e ∈ kept ++ [(key, c)], e.2.key = .ok e.1 :=
        List.forall_mem_append.2 ⟨hkeys, List.forall_mem_singleton.2 hkey⟩
      have hkept' : Firsts (seen ++ [c]) ((kept ++ [(key, c)]).map Prod.snd) := by
        rw [List.map_append]
        exact hkept.keep hseen hnew
      rw [hstep]
      exact ih hkeys' hkept' hkeyed

/-- **Keys agree with equality, so of every class of equal candidates the first is kept.** -/
theorem key_agrees :
    (∀ a b : Candidate, a.HasTextKeys → b.HasTextKeys → a.eqv b = true →
      ((∃ key, a.key = .ok key) ↔ ∃ key, b.key = .ok key) ∧
      ∀ key key', a.key = .ok key → b.key = .ok key' → sameKey key key' = true) ∧
    (∀ (c : Candidate) (key : Severity × List Datum), c.HasTextKeys → c.key = .ok key →
      key = (c.severity, c.options.map Datum.part)) ∧
    ∀ cs : List Candidate, (∀ c ∈ cs, c.HasTextKeys ∧ ∃ key, c.key = .ok key) →
      ∃ kept, distinct cs = .ok kept ∧ kept.Sublist cs ∧ kept.Pairwise (Apart Candidate.eqv) ∧
        ∀ c ∈ cs, ∃ k, cs.find? (·.eqv c) = some k ∧ kept.filter (·.eqv c) = [k] := by
  refine ⟨fun a b ha hb heq => ?_, fun c key hc hkey => ?_, fun cs hcs => ?_⟩
  · exact ⟨exists_key_iff_of_eqv ha hb heq, fun _ _ => sameKey_of_eqv ha hb heq⟩
  · exact ((key_eq_ok_iff hc).1 hkey).2.symm
  · have hkeyed : ∀ c ∈ cs, c.IsKeyed := fun c hc => ⟨(hcs c hc).1, (hcs c hc).2⟩
    have hempty : ∀ e ∈ ([] : List ((Severity × List Datum) × Candidate)), e.2.key = .ok e.1 :=
      nofun
    obtain ⟨kept, hkept, hfirsts⟩ := distinctFrom_firsts hempty Firsts.nil hkeyed
    exact ⟨kept, hkept, hfirsts.sublist, hfirsts.apart, fun c hc => hfirsts.filter_eq hkeyed hc⟩

/-- One object written in two ways, and a candidate without options. -/
def spacings : List Candidate :=
  [⟨.error, [.text "always", .map [(.text "before", .bool true), (.text "after", .int 0)]]⟩,
    ⟨.error, [.text "always", .map [(.text "after", .bool false), (.text "before", .int 1)]]⟩,
    ⟨.error, []⟩]

/-- The theorem on these: the first two have equal keys, and one of them is kept. -/
theorem key_agrees_spacings :
    (∀ key key', spacings[0].key = .ok key → spacings[1].key = .ok key' →
      sameKey key key' = true) ∧
    ∃ kept, distinct spacings = .ok kept ∧ ∀ c ∈ spacings, ∃ k,
      spacings.find? (·.eqv c) = some k ∧ kept.filter (·.eqv c) = [k] := by
  have htexts : ∀ c ∈ spacings, c.HasTextKeys := by
    intro c hc d hd entries hopened
    simp only [spacings, List.mem_cons, List.not_mem_nil, or_false] at hc
    rcases hc with rfl | rfl | rfl <;>
      simp only [List.mem_cons, List.not_mem_nil, or_false] at hd
    all_goals
      rcases hd with rfl | rfl <;> cases hopened
      exact ⟨by decide, by decide⟩
  have hkeys : ∀ c ∈ spacings, c.HasTextKeys ∧ ∃ key, c.key = .ok key :=
    fun c hc => ⟨htexts c hc, (exists_key_iff_isHashable (htexts c hc)).2 (by revert c; decide)⟩
  have hequal := key_agrees.1 _ _ (htexts spacings[0] (by decide)) (htexts spacings[1] (by decide))
    (by decide)
  obtain ⟨kept, hkept, -, -, hfirst⟩ := key_agrees.2.2 spacings hkeys
  exact ⟨hequal.2, kept, hkept, hfirst⟩

end Candidate

end RuleFit
