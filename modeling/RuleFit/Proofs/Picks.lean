import Mathlib
import RuleFit.Splice

/-!
# Picks

One item of each of some lists is a *choice* (`choices`). Where lists may be left out, a *pick* says
by position which item of each list is taken, if any, and `Pick.elements` are the items taken, in
the order of the lists.

All choices are listed once: membership is membership one by one (`mem_choices`), and no choice
comes twice where no list has an item twice (`nodup_choices`). There are as many as the product of
the lengths (`length_choices`), and from ascending lists they come in lexicographic order
(`pairwise_lt_choices`). The picks that take an item of the
first list are choices of positions, and so they are listed once each too (`mem_picks`,
`nodup_picks`).
-/

namespace RuleFit

variable {α : Type}

/-! ## One of each -/

/-- The lists of one item of each list, the first varying slowest. -/
def choices : List (List α) → List (List α)
  | [] => [[]]
  | xs :: rest => xs.flatMap fun x => (choices rest).map (x :: ·)

theorem mem_choices {xss : List (List α)} {ys : List α} :
    ys ∈ choices xss ↔ List.Forall₂ (· ∈ ·) ys xss := by
  induction xss generalizing ys with
  | nil => simp [choices]
  | cons xs rest ih =>
    simp only [choices, List.mem_flatMap, List.mem_map, ih]
    constructor
    · rintro ⟨x, hx, zs, hzs, rfl⟩
      exact .cons hx hzs
    · intro h
      cases h with
      | cons hx hzs => exact ⟨_, hx, _, hzs, rfl⟩

theorem choices_ne_nil {xss : List (List α)} (h : ∀ xs ∈ xss, xs ≠ []) : choices xss ≠ [] := by
  induction xss with
  | nil => simp [choices]
  | cons xs rest ih =>
    obtain ⟨hxs, hrest⟩ := List.forall_mem_cons.1 h
    obtain ⟨x, hx⟩ := List.exists_mem_of_ne_nil xs hxs
    obtain ⟨ys, hys⟩ := List.exists_mem_of_ne_nil _ (ih hrest)
    exact List.ne_nil_of_mem (mem_choices.2 (.cons hx (mem_choices.1 hys)))

theorem nodup_choices {xss : List (List α)} (h : ∀ xs ∈ xss, xs.Nodup) : (choices xss).Nodup := by
  induction xss with
  | nil => simp [choices]
  | cons xs rest ih =>
    obtain ⟨hxs, hrest⟩ := List.forall_mem_cons.1 h
    rw [choices, List.nodup_flatMap]
    refine ⟨fun x _ => (ih hrest).map (List.cons_injective), hxs.imp fun {x y} hne => ?_⟩
    intro zs hx hy
    obtain ⟨_, -, rfl⟩ := List.mem_map.1 hx
    obtain ⟨_, -, heq⟩ := List.mem_map.1 hy
    exact hne (List.cons.inj heq).1.symm

theorem length_flatMap_map {β γ : Type} (xs : List α) (ys : List β) (f : α → β → γ) :
    (xs.flatMap fun x => ys.map (f x)).length = xs.length * ys.length := by
  simp [List.length_flatMap]

theorem length_choices (xss : List (List α)) :
    (choices xss).length = (xss.map List.length).prod := by
  induction xss with
  | nil => rfl
  | cons xs rest ih => rw [choices, length_flatMap_map, ih, List.map_cons, List.prod_cons]

/-- Choices from ascending lists ascend, where the first difference counts. -/
theorem pairwise_lt_choices {xss : List (List Nat)} (h : ∀ xs ∈ xss, xs.Pairwise (· < ·)) :
    (choices xss).Pairwise (· < ·) := by
  induction xss with
  | nil => exact List.pairwise_singleton ..
  | cons xs rest ih =>
    obtain ⟨hxs, hrest⟩ := List.forall_mem_cons.1 h
    rw [choices, List.pairwise_flatMap]
    constructor
    · intro x _
      exact (ih hrest).map _ fun a b hab => List.cons_lt_cons_iff.2 (.inr ⟨rfl, hab⟩)
    · refine hxs.imp fun {x y} hxy => ?_
      simp only [List.mem_map, forall_exists_index, and_imp, forall_apply_eq_imp_iff₂]
      exact fun a _ b _ => List.cons_lt_cons_iff.2 (.inl hxy)

/-! ## Picks -/

/-- The position of the item that is taken of each list; none of a list that is left out. -/
abbrev Pick := List (Option Nat)

/-- The items that are taken, in the order of the lists. -/
def Pick.elements (xss : List (List α)) (pick : Pick) : List α :=
  (List.zipWith (fun xs k => k.bind (xs[·]?)) xss pick).reduceOption

/-- Every position is one of its list. -/
def Pick.Within (pick : Pick) (xss : List (List α)) : Prop :=
  List.Forall₂ (fun k xs => ∀ i ∈ k, i < xs.length) pick xss

/-- An item is taken of the first list, and of others as well where there is a position. -/
structure IsPick (xss : List (List α)) (pick : Pick) : Prop where
  within : pick.Within xss
  first : ∃ i, pick.head? = some (some i)

/-- The positions of a list. -/
def positions (xs : List α) : List (Option Nat) := (List.range xs.length).map some

/-- Every way to take items of some lists. -/
def optionalPicks (xss : List (List α)) : List Pick :=
  choices (xss.map fun xs => none :: positions xs)

/-- Every way to take items of some lists, one of the first among them. -/
def picks : List (List α) → List Pick
  | [] => []
  | xs :: rest => choices (positions xs :: rest.map fun ys => none :: positions ys)

theorem mem_positions {xs : List α} {k : Option Nat} :
    k ∈ positions xs ↔ ∃ i, k = some i ∧ i < xs.length := by
  simp only [positions, List.mem_map, List.mem_range]
  constructor
  · rintro ⟨i, hi, rfl⟩
    exact ⟨i, rfl, hi⟩
  · rintro ⟨i, rfl, hi⟩
    exact ⟨i, hi, rfl⟩

theorem nodup_positions (xs : List α) : (positions xs).Nodup :=
  List.nodup_range.map (Option.some_injective Nat)

theorem mem_none_positions {xs : List α} {k : Option Nat} :
    k ∈ none :: positions xs ↔ ∀ i ∈ k, i < xs.length := by
  cases k with
  | none => simp
  | some i => simp [mem_positions]

theorem nodup_none_positions (xs : List α) : (none :: positions xs).Nodup :=
  List.nodup_cons.2 ⟨by simp [mem_positions], nodup_positions xs⟩

theorem optionalPicks_cons (xs : List α) (xss : List (List α)) :
    optionalPicks (xs :: xss) = (optionalPicks xss).map (none :: ·) ++
      (positions xs).flatMap fun k => (optionalPicks xss).map (k :: ·) := rfl

theorem picks_cons (xs : List α) (xss : List (List α)) :
    picks (xs :: xss) = (positions xs).flatMap fun k => (optionalPicks xss).map (k :: ·) := rfl

theorem mem_optionalPicks {xss : List (List α)} {pick : Pick} :
    pick ∈ optionalPicks xss ↔ pick.Within xss := by
  simp only [optionalPicks, mem_choices, List.forall₂_map_right_iff, mem_none_positions]
  rfl

theorem mem_picks {xss : List (List α)} {pick : Pick} : pick ∈ picks xss ↔ IsPick xss pick := by
  cases xss with
  | nil =>
    constructor
    · intro h
      cases h
    · rintro ⟨hwithin, i, hi⟩
      cases hwithin
      cases hi
  | cons xs rest =>
    rw [picks, mem_choices]
    constructor
    · intro h
      cases h with
      | cons hk hks =>
        obtain ⟨i, rfl, hi⟩ := mem_positions.1 hk
        rw [← mem_choices] at hks
        exact ⟨.cons (by simpa using hi) (mem_optionalPicks.1 hks), i, rfl⟩
    · rintro ⟨hwithin, i, hi⟩
      cases hwithin with
      | cons hk hks =>
        obtain rfl : _ = some i := Option.some.inj hi
        refine .cons (mem_positions.2 ⟨i, rfl, hk i rfl⟩) ?_
        exact mem_choices.1 (mem_optionalPicks.2 hks)

theorem nodup_picks (xss : List (List α)) : (picks xss).Nodup := by
  cases xss with
  | nil => exact List.nodup_nil
  | cons xs rest =>
    refine nodup_choices (List.forall_mem_cons.2 ⟨nodup_positions xs, fun ks hks => ?_⟩)
    obtain ⟨ys, -, rfl⟩ := List.mem_map.1 hks
    exact nodup_none_positions ys

/-! ## The items that are taken -/

namespace Pick

variable {xs : List α} {xss : List (List α)} {pick : Pick}

@[simp] theorem elements_nil : elements xss ([] : Pick) = [] := by
  simp [elements]

@[simp] theorem elements_nil_left : elements ([] : List (List α)) pick = [] := rfl

theorem elements_cons (k : Option Nat) :
    elements (xs :: xss) (k :: pick) = (k.bind (xs[·]?)).toList ++ elements xss pick := by
  simp only [elements, List.zipWith_cons_cons]
  cases k.bind (xs[·]?) <;> simp

@[simp] theorem elements_none_cons :
    elements (xs :: xss) (none :: pick) = elements xss pick :=
  elements_cons none

theorem elements_some_cons {i : Nat} {x : α} (h : xs[i]? = some x) :
    elements (xs :: xss) (some i :: pick) = x :: elements xss pick := by
  rw [elements_cons, Option.bind_some, h]
  rfl

/-- As many items are taken as there are positions. -/
theorem Within.length_elements (h : pick.Within xss) :
    (elements xss pick).length = pick.countP Option.isSome := by
  induction h with
  | nil => rfl
  | @cons k xs pick xss hk hrest ih =>
    cases k with
    | none => simpa using ih
    | some i =>
      rw [elements_some_cons (List.getElem?_eq_getElem (hk i rfl)), List.length_cons, ih,
        List.countP_cons_of_pos rfl]

/-- Items come from the lists. -/
theorem mem_of_mem_elements {x : α} (h : x ∈ elements xss pick) : ∃ xs ∈ xss, x ∈ xs := by
  induction xss generalizing pick with
  | nil => cases h
  | cons xs xss ih =>
    cases pick with
    | nil => simp at h
    | cons k pick =>
      rw [elements_cons, List.mem_append] at h
      rcases h with h | h
      · rw [Option.mem_toList, Option.bind_eq_some_iff] at h
        obtain ⟨i, -, hi⟩ := h
        exact ⟨xs, List.mem_cons_self, List.mem_of_getElem? hi⟩
      · obtain ⟨ys, hys, hx⟩ := ih h
        exact ⟨ys, List.mem_cons_of_mem _ hys, hx⟩

end Pick

/-! ## Going through positions -/

/-- Going through the items of a list is going through its positions. -/
theorem flatMap_range {β : Type} (xs : List α) (f : Nat → List β) (g : α → List β)
    (h : ∀ i x, xs[i]? = some x → f i = g x) :
    (List.range xs.length).flatMap f = xs.flatMap g := by
  have hmap : (List.range xs.length).map f = xs.map g := by
    refine List.ext_getElem (by simp) fun i hi hi' => ?_
    have hlt : i < xs.length := by simpa using hi'
    simpa using h i xs[i] (List.getElem?_eq_getElem hlt)
  rw [List.flatMap_def, List.flatMap_def, hmap]

theorem flatMap_positions {β : Type} (xs : List α) (f : Option Nat → List β) (g : α → List β)
    (h : ∀ i x, xs[i]? = some x → f (some i) = g x) : (positions xs).flatMap f = xs.flatMap g := by
  rw [positions, List.flatMap_map]
  exact flatMap_range xs _ g h

end RuleFit
