import RuleFit.Proofs.Faces
import RuleFit.Proofs.Steps
import RuleFit.Proofs.Table
import RuleFit.Splice.Values

/-!
# Groups as a partition

Objects are put into groups by their first keys, one object after the other. Keys are values and can
be equal across types, so what the objects of a group have in common is the face of that key.

**Theorem (`groupByProperty_partitions`).** Grouping fails exactly when one of the objects is empty.
Otherwise the groups are a *stable partition* (`IsStablePartition`): each object is in one group,
two of them are in the same one exactly when their first keys count as the same, the groups are in
the order in which their keys first come, and the objects of a group in the order of the list.

An object joins the one group of its key, or opens a group behind the others. Both keep the
invariant `Gathered`: the faces of the groups are those of the objects seen so far, each once and in
the order in which they first came, and a group is what was seen with its face. So the groups at the
end are the classes of the objects by faces (`groupBy_eq`), and whatever the faces are, classes are
a stable partition (`isStablePartition_byClass`).
-/

namespace RuleFit

/-! ## Stable partitions -/

section Partition

variable {α κ : Type}

/-- The things of a list in groups of those that are kin, in the order of the list. -/
structure IsStablePartition (kin : α → α → Prop) (os : List α) (groups : List (List α)) :
    Prop where
  nonempty : ∀ g ∈ groups, g ≠ []
  together : ∀ g ∈ groups, ∀ o ∈ g, ∀ o' ∈ g, kin o o'
  apart : groups.Pairwise fun g g' => ∀ o ∈ g, ∀ o' ∈ g', ¬kin o o' ∧ ¬kin o' o
  /-- Before anything of a later group comes something of an earlier one. -/
  ordered : groups.Pairwise fun g g' => ∀ (i : Nat), ∀ o' ∈ g', os[i]? = some o' →
    ∃ o ∈ g, o ∈ os.take i
  sublist : ∀ g ∈ groups, g.Sublist os
  perm : groups.flatten.Perm os
  /-- Every position of the list has one group, and a group is what stands at its positions. -/
  home : ∃ home : Nat → Nat, (∀ i < os.length, home i < groups.length) ∧
    ∀ j < groups.length,
      groups[j]? = some ((os.zipIdx.filter fun e => home e.2 = j).map Prod.fst)

variable [DecidableEq κ] (f : α → κ) (os : List α)

/-- The things of every class, in the order in which the classes first come. -/
def byClass : List (List α) :=
  (os.map f).eraseDups.map fun c => os.filter fun o => f o = c

/-- What belongs to one of some classes, class by class. -/
theorem flatten_filter_perm {cs : List κ} (hn : cs.Nodup) :
    (cs.map fun c => os.filter fun o => f o = c).flatten.Perm (os.filter fun o => f o ∈ cs) := by
  induction cs with
  | nil => simp
  | cons c cs ih =>
    obtain ⟨hc, hcs⟩ := List.nodup_cons.1 hn
    have hsplit := List.filter_append_perm (fun o => decide (f o = c))
      (os.filter fun o => f o ∈ c :: cs)
    have hfirst : (os.filter fun o => f o ∈ c :: cs).filter (fun o => f o = c) =
        os.filter fun o => f o = c := by
      rw [List.filter_filter]
      refine List.filter_congr fun o _ => ?_
      by_cases ho : f o = c <;> simp [ho]
    have hrest : (os.filter fun o => f o ∈ c :: cs).filter (fun o => !decide (f o = c)) =
        os.filter fun o => f o ∈ cs := by
      rw [List.filter_filter]
      refine List.filter_congr fun o _ => ?_
      by_cases ho : f o = c <;> simp [ho, hc]
    rw [hfirst, hrest] at hsplit
    rw [List.map_cons, List.flatten_cons]
    exact ((ih hcs).append_left _).trans hsplit

variable {f os}

theorem mem_byClass {g : List α} (hg : g ∈ byClass f os) :
    ∃ o ∈ os, g = os.filter fun x => f x = f o := by
  obtain ⟨c, hc, rfl⟩ := List.mem_map.1 hg
  obtain ⟨o, ho, rfl⟩ := List.mem_map.1 (List.mem_eraseDups.1 hc)
  exact ⟨o, ho, rfl⟩

theorem byClass_perm : (byClass f os).flatten.Perm os := by
  have hall : (os.filter fun o => f o ∈ (os.map f).eraseDups) = os :=
    List.filter_eq_self.2 fun o ho =>
      decide_eq_true (List.mem_eraseDups.2 (List.mem_map_of_mem ho))
  have hperm := flatten_filter_perm f os (nodup_eraseDups (os.map f))
  rwa [hall] at hperm

/-- Before anything of a later class comes something of an earlier one. -/
theorem byClass_ordered : (byClass f os).Pairwise fun g g' => ∀ (i : Nat), ∀ o' ∈ g',
    os[i]? = some o' → ∃ o ∈ g, o ∈ os.take i := by
  rw [byClass, List.pairwise_map]
  refine (pairwise_eraseDups (os.map f)).imp fun {c c'} h i o' ho' hi => ?_
  have hc' : (os.map f)[i]? = some c' := by
    rw [List.getElem?_map, hi, Option.map_some, of_decide_eq_true (List.mem_filter.1 ho').2]
  have hc := h i hc'
  rw [← List.map_take] at hc
  obtain ⟨o, ho, rfl⟩ := List.mem_map.1 hc
  exact ⟨o, List.mem_filter.2 ⟨List.mem_of_mem_take ho, decide_eq_true rfl⟩, ho⟩

/-- The place of the class of a position is the group of the position. -/
theorem byClass_home : ∃ home : Nat → Nat,
    (∀ i < os.length, home i < (byClass f os).length) ∧ ∀ j < (byClass f os).length,
      (byClass f os)[j]? = some ((os.zipIdx.filter fun e => home e.2 = j).map Prod.fst) := by
  have hn := nodup_eraseDups (os.map f)
  have hclass : ∀ o ∈ os, f o ∈ (os.map f).eraseDups := fun o ho =>
    List.mem_eraseDups.2 (List.mem_map_of_mem ho)
  rw [byClass, List.length_map]
  generalize (os.map f).eraseDups = cs at hn hclass
  refine ⟨fun i => ((os[i]?).map fun o => cs.idxOf (f o)).getD 0, fun i hi => ?_, fun j hj => ?_⟩
  · simp only [List.getElem?_eq_getElem hi, Option.map_some, Option.getD_some]
    exact List.idxOf_lt_length_of_mem (hclass _ (List.getElem_mem hi))
  · rw [List.getElem?_map, List.getElem?_eq_getElem hj, Option.map_some]
    have hfilter : (os.zipIdx.filter fun e =>
        decide (((os[e.2]?).map fun o => cs.idxOf (f o)).getD 0 = j)) =
        os.zipIdx.filter ((fun o => decide (f o = cs[j])) ∘ Prod.fst) := by
      refine List.filter_congr fun e he => ?_
      have hget := List.mem_zipIdx_iff_getElem?.1 he
      have ho := hclass e.1 (List.mem_of_getElem? hget)
      have hplace : cs.idxOf (f e.1) = j ↔ f e.1 = cs[j] := by
        rw [← List.idxOf_inj ho, hn.idxOf_getElem]
      simp [hget, hplace]
    rw [hfilter, ← List.filter_map, List.zipIdx_map_fst]

theorem isStablePartition_byClass {kin : α → α → Prop}
    (hkin : ∀ o ∈ os, ∀ o' ∈ os, kin o o' ↔ f o = f o') :
    IsStablePartition kin os (byClass f os) where
  nonempty g hg := by
    obtain ⟨o, ho, rfl⟩ := mem_byClass hg
    exact List.ne_nil_of_mem (List.mem_filter.2 ⟨ho, decide_eq_true rfl⟩)
  together g hg o ho o' ho' := by
    obtain ⟨x, -, rfl⟩ := mem_byClass hg
    obtain ⟨ho, hx⟩ := List.mem_filter.1 ho
    obtain ⟨ho', hx'⟩ := List.mem_filter.1 ho'
    exact (hkin o ho o' ho').2 ((of_decide_eq_true hx).trans (of_decide_eq_true hx').symm)
  apart := by
    rw [byClass, List.pairwise_map]
    refine (nodup_eraseDups (os.map f)).imp fun {c c'} hne o ho o' ho' => ?_
    obtain ⟨ho, hc⟩ := List.mem_filter.1 ho
    obtain ⟨ho', hc'⟩ := List.mem_filter.1 ho'
    have hfne : f o ≠ f o' := by
      rw [of_decide_eq_true hc, of_decide_eq_true hc']
      exact hne
    exact ⟨fun h => hfne ((hkin o ho o' ho').1 h), fun h => hfne ((hkin o' ho' o ho).1 h).symm⟩
  ordered := byClass_ordered
  sublist g hg := by
    obtain ⟨o, -, rfl⟩ := mem_byClass hg
    exact List.filter_sublist
  perm := byClass_perm
  home := byClass_home

end Partition

/-! ## Groups -/

section Groups

variable {α ε : Type} {keyOf : α → Except ε Datum} {os : List α}

/-- A thing with its key. -/
def keyed (keyOf : α → Except ε Datum) (o : α) : Except ε (Datum × α) := (keyOf o).map (·, o)

/-- Grouping gets all the keys and adds to the groups one thing after the other. -/
theorem groupsFrom_eq (groups : List (Datum × List α)) (os : List α) :
    groupsFrom keyOf groups os = (os.mapM (keyed keyOf)).map fun es =>
      es.foldl (fun gs e => addToGroup e.1 e.2 gs) groups := by
  induction os generalizing groups with
  | nil => rfl
  | cons o os ih =>
    rw [groupsFrom, List.mapM_cons, keyed]
    cases keyOf o with
    | error f => rfl
    | ok key =>
      have hnext := ih (addToGroup key o groups)
      cases hes : os.mapM (keyed keyOf) with
      | error f => rwa [hes] at hnext
      | ok es => rwa [hes] at hnext

/-- A fault of grouping is that of one of the things. -/
theorem exists_of_groupBy_eq_error {e : ε} (h : groupBy keyOf os = .error e) :
    ∃ o ∈ os, keyOf o = .error e := by
  rw [groupBy, map_eq_error, groupsFrom_eq, map_eq_error, mapM_eq_error_iff] at h
  obtain ⟨i, o, hreached, he⟩ := h
  exact ⟨o, List.mem_of_getElem? hreached.1, map_eq_error.1 he⟩

theorem keys_of_groupBy_eq_ok {groups : List (List α)} (h : groupBy keyOf os = .ok groups) :
    ∀ o ∈ os, ∃ k, keyOf o = .ok k := by
  rw [groupBy, map_eq_ok] at h
  obtain ⟨gs, hgs, -⟩ := h
  rw [groupsFrom_eq, map_eq_ok] at hgs
  obtain ⟨es, hes, -⟩ := hgs
  intro o ho
  obtain ⟨e, he⟩ := exists_mapM_eq_ok_iff.1 ⟨es, hes⟩ o ho
  obtain ⟨k, hk, -⟩ := map_eq_ok.1 he
  exact ⟨k, hk⟩

/-- Where things can have one fault only, grouping has it when one of the things has. -/
theorem groupBy_eq_error_iff {e : ε} (h : ∀ o ∈ os, ∀ e', keyOf o = .error e' → e' = e) :
    groupBy keyOf os = .error e ↔ ∃ o ∈ os, keyOf o = .error e := by
  refine ⟨exists_of_groupBy_eq_error, ?_⟩
  rintro ⟨o, ho, he⟩
  cases hgroups : groupBy keyOf os with
  | error e' =>
    obtain ⟨o', ho', he'⟩ := exists_of_groupBy_eq_error hgroups
    rw [h o' ho' e' he']
  | ok groups =>
    obtain ⟨k, hk⟩ := keys_of_groupBy_eq_ok hgroups o ho
    rw [he] at hk
    cases hk

/-! ### One more thing -/

section Step

variable {key : Datum} {o : α} {groups : List (Datum × List α)}

/-- A group when a thing with a key has come. -/
def joined (key : Datum) (o : α) (g : Datum × List α) : Datum × List α :=
  if key.alike g.1 then (g.1, g.2 ++ [o]) else g

@[simp] theorem joined_fst (g : Datum × List α) : (joined key o g).1 = g.1 := by
  unfold joined
  split_ifs <;> rfl

theorem joined_snd (g : Datum × List α) :
    (joined key o g).2 = g.2 ++ if key.alike g.1 then [o] else [] := by
  unfold joined
  split_ifs <;> simp

/-- A thing joins the one group of its key. -/
theorem addToGroup_of_exists (h : ∃ g ∈ groups, key.alike g.1 = true)
    (hone : groups.Pairwise fun g g' => key.alike g.1 = true → key.alike g'.1 = false) :
    addToGroup key o groups = groups.map (joined key o) := by
  induction groups with
  | nil => simp at h
  | cons g groups ih =>
    obtain ⟨hg, hrest⟩ := List.pairwise_cons.1 hone
    rw [addToGroup, List.map_cons, joined]
    by_cases hkey : key.alike g.1 = true
    · have hstay : ∀ x ∈ groups, joined key o x = x := fun x hx => by
        rw [joined, hg x hx hkey, if_neg Bool.false_ne_true]
      rw [if_pos hkey, if_pos hkey, List.map_congr_left hstay, List.map_id']
    · obtain ⟨x, hx, hxkey⟩ := h
      have hmem : x ∈ groups := (List.mem_cons.1 hx).resolve_left fun hxg => hkey (hxg ▸ hxkey)
      rw [if_neg hkey, if_neg hkey, ih ⟨x, hmem, hxkey⟩ hrest]

/-- A thing with a new key comes into a group of its own behind the others. -/
theorem addToGroup_of_forall (h : ∀ g ∈ groups, key.alike g.1 = false) :
    addToGroup key o groups = groups ++ [(key, [o])] := by
  induction groups with
  | nil => rfl
  | cons g groups ih =>
    obtain ⟨hg, hrest⟩ := List.forall_mem_cons.1 h
    rw [addToGroup, hg, if_neg Bool.false_ne_true, ih hrest, List.cons_append]

end Step

/-! ### All of them -/

section Run

variable {key : α → Datum} {seen : List α} {groups : List (Datum × List α)} {o : α}

open scoped Classical in
/-- The groups hold the things seen so far, in the order in which the faces of their keys first
come. -/
structure Gathered (key : α → Datum) (seen : List α) (groups : List (Datum × List α)) : Prop where
  keys : ∀ g ∈ groups, g.1.notKey? = none
  faces : groups.map (fun g => g.1.face) = (seen.map fun o => (key o).face).eraseDups
  members : ∀ g ∈ groups, g.2 = seen.filter fun o => (key o).alike g.1

theorem Gathered.nil : Gathered key [] [] := ⟨nofun, rfl, nofun⟩

theorem Gathered.nodup (h : Gathered key seen groups) :
    (groups.map fun g => g.1.face).Nodup := by
  classical
  rw [h.faces]
  exact nodup_eraseDups _

theorem Gathered.alike_iff (h : Gathered key seen groups) {k : Datum} (hk : k.notKey? = none)
    {g : Datum × List α} (hg : g ∈ groups) : k.alike g.1 = true ↔ k.face = g.1.face :=
  Datum.alike_iff_face k g.1 hk (h.keys g hg)

theorem Gathered.members_concat (h : Gathered key seen groups) {g : Datum × List α}
    (hg : g ∈ groups) : ((seen ++ [o]).filter fun x => (key x).alike g.1) =
      g.2 ++ if (key o).alike g.1 then [o] else [] := by
  rw [List.filter_append, ← h.members g hg, List.filter_singleton, Bool.cond_eq_ite]

/-- A thing whose key was seen goes to the group of that key. -/
theorem Gathered.join (h : Gathered key seen groups) (hkey : (key o).notKey? = none)
    (hold : ∃ g ∈ groups, (key o).alike g.1 = true) :
    Gathered key (seen ++ [o]) (addToGroup (key o) o groups) := by
  classical
  -- The groups have different faces, so the thing belongs to one of them only.
  have hone : groups.Pairwise fun g g' =>
      (key o).alike g.1 = true → (key o).alike g'.1 = false := by
    refine (List.pairwise_map.1 h.nodup).imp_of_mem fun {g g'} hg hg' hne halike => ?_
    rw [← Bool.not_eq_true, h.alike_iff hkey hg', (h.alike_iff hkey hg).1 halike]
    exact hne
  have hmem : (key o).face ∈ seen.map fun x => (key x).face := by
    obtain ⟨g, hg, halike⟩ := hold
    rw [← List.mem_eraseDups, ← h.faces, (h.alike_iff hkey hg).1 halike]
    exact List.mem_map_of_mem hg
  rw [addToGroup_of_exists hold hone]
  refine ⟨List.forall_mem_map.2 fun g hg => ?_, ?_, List.forall_mem_map.2 fun g hg => ?_⟩
  · rw [joined_fst]
    exact h.keys g hg
  · rw [List.map_append, List.map_singleton, eraseDups_concat_of_mem hmem, ← h.faces, List.map_map]
    exact List.map_congr_left fun g _ => by rw [Function.comp_apply, joined_fst]
  · rw [joined_fst, joined_snd, h.members_concat hg]

/-- A thing whose key was not seen opens a group. -/
theorem Gathered.found (h : Gathered key seen groups) (hkey : (key o).notKey? = none)
    (hnew : ∀ g ∈ groups, (key o).alike g.1 = false) :
    Gathered key (seen ++ [o]) (addToGroup (key o) o groups) := by
  classical
  have hface : (key o).face ∉ seen.map fun x => (key x).face := by
    rw [← List.mem_eraseDups, ← h.faces, List.mem_map]
    rintro ⟨g, hg, hface⟩
    exact absurd ((h.alike_iff hkey hg).2 hface.symm) (by simp [hnew g hg])
  have hunseen : ∀ x ∈ seen, ¬(key x).alike (key o) = true := by
    intro x hx halike
    have hx' : (key x).notKey? = none :=
      (Datum.notKey?_eq_none_iff_of_alike (key x) (key o) halike).2 hkey
    rw [Datum.alike_iff_face _ _ hx' hkey] at halike
    exact hface (halike ▸ List.mem_map_of_mem hx)
  rw [addToGroup_of_forall hnew]
  refine ⟨?_, ?_, ?_⟩
  · exact List.forall_mem_append.2 ⟨h.keys, List.forall_mem_singleton.2 hkey⟩
  · rw [List.map_append, List.map_append, List.map_singleton, List.map_singleton,
      eraseDups_concat_of_not_mem hface, h.faces]
  · refine List.forall_mem_append.2 ⟨fun g hg => ?_, List.forall_mem_singleton.2 ?_⟩
    · rw [h.members_concat hg, hnew g hg, if_neg Bool.false_ne_true, List.append_nil]
    · rw [List.filter_append, List.filter_eq_nil_iff.2 hunseen, List.nil_append,
        List.filter_singleton, Datum.alike_refl]
      rfl

/-- Adding one thing after the other gathers all of them. -/
theorem gathered_foldl (os : List α) (hkeys : ∀ o ∈ os, (key o).notKey? = none) :
    Gathered key os (os.foldl (fun gs o => addToGroup (key o) o gs) []) := by
  induction os using List.reverseRecOn with
  | nil => exact Gathered.nil
  | append_singleton os o ih =>
    obtain ⟨hos, ho⟩ := List.forall_mem_append.1 hkeys
    rw [List.foldl_append, List.foldl_cons, List.foldl_nil]
    have hkey := ho o List.mem_cons_self
    generalize os.foldl (fun gs o => addToGroup (key o) o gs) [] = groups at ih
    by_cases hold : ∃ g ∈ groups, (key o).alike g.1 = true
    · exact (ih hos).join hkey hold
    · refine (ih hos).found hkey fun g hg => ?_
      exact Bool.eq_false_iff.2 fun halike => hold ⟨g, hg, halike⟩

end Run

open scoped Classical in
/-- Things with keys are grouped by the faces of their keys. -/
theorem groupBy_eq {key : α → Datum} (hkey : ∀ o ∈ os, keyOf o = .ok (key o))
    (hkeys : ∀ o ∈ os, (key o).notKey? = none) :
    groupBy keyOf os = .ok (byClass (fun o => (key o).face) os) := by
  have hgathered := gathered_foldl os hkeys
  have hkeyed : ∀ o ∈ os, keyed keyOf o = .ok (key o, o) := fun o ho => by
    rw [keyed, hkey o ho]
    rfl
  rw [groupBy, groupsFrom_eq, mapM_eq_ok_map hkeyed, byClass, ← hgathered.faces]
  simp only [Except.map, List.foldl_map, List.map_map]
  refine congrArg Except.ok (List.map_congr_left fun g hg => ?_)
  rw [hgathered.members g hg]
  refine List.filter_congr fun o ho => ?_
  rw [Bool.eq_iff_iff, hgathered.alike_iff (hkeys o ho) hg, decide_eq_true_iff]

example : groupByProperty
    [[(.int 1, .text "a")], [(.text "x", .null)], [(.bool true, .text "b"), (.text "y", .null)]] =
      .ok [[[(.int 1, .text "a")], [(.bool true, .text "b"), (.text "y", .null)]],
        [[(.text "x", .null)]]] := rfl

/-- Two things have keys that count as the same, as the keys of a mapping do. -/
def KeysAlike (keyOf : α → Except ε Datum) (o o' : α) : Prop :=
  ∃ k k', keyOf o = .ok k ∧ keyOf o' = .ok k' ∧ k.alike k' = true

/-- **Things with keys are partitioned by their keys.** -/
theorem groupBy_isStablePartition (h : ∀ o ∈ os, ∃ k, keyOf o = .ok k ∧ k.notKey? = none) :
    ∃ groups, groupBy keyOf os = .ok groups ∧
      IsStablePartition (KeysAlike keyOf) os groups := by
  classical
  let key : α → Datum := fun o => (keyOf o).toOption.getD .null
  have hkey : ∀ o ∈ os, keyOf o = .ok (key o) ∧ (key o).notKey? = none := by
    intro o ho
    obtain ⟨k, hk, hnone⟩ := h o ho
    have hkeyo : key o = k := by simp only [key, hk]; rfl
    rw [hkeyo]
    exact ⟨hk, hnone⟩
  refine ⟨_, groupBy_eq (fun o ho => (hkey o ho).1) fun o ho => (hkey o ho).2, ?_⟩
  refine isStablePartition_byClass fun o ho o' ho' => ?_
  rw [← Datum.alike_iff_face _ _ (hkey o ho).2 (hkey o' ho').2]
  simp [KeysAlike, (hkey o ho).1, (hkey o' ho').1]

end Groups

/-! ## Objects -/

/-- The keys of an object can be keys. -/
def Object.IsKeyed (o : Object) : Prop := ∀ e ∈ o, e.1.notKey? = none

instance (o : Object) : Decidable o.IsKeyed :=
  inferInstanceAs (Decidable (∀ e ∈ o, e.1.notKey? = none))

/-- The value is an object. -/
def Datum.IsObject (d : Datum) : Prop := ∃ o : Object, d.opened = .map o ∧ o.IsKeyed

theorem firstKey_eq_error_iff {o : Object} {f : NoKey} : firstKey o = .error f ↔ o = [] := by
  cases o <;> simp [firstKey]

/-- Every object but the empty one has a first key. -/
theorem exists_firstKey {o : Object} (ho : o.IsKeyed) (hne : o ≠ []) :
    ∃ k, firstKey o = .ok k ∧ k.notKey? = none := by
  obtain ⟨e, rest, rfl⟩ := List.exists_cons_of_ne_nil hne
  exact ⟨e.1, rfl, ho e List.mem_cons_self⟩

namespace Datum

theorem firstElement_of_opened {d : Datum} {o : Object} (hd : d.opened = .map o)
    (ho : o.IsKeyed) : d.firstElement = (firstKey o).mapError fun _ => .noKey := by
  have helements : d.elements = .ok (o.map Prod.fst) := by rw [elements, elements?, hd]
  rw [firstElement, helements]
  cases o with
  | nil => rfl
  | cons e rest =>
    have hkey : e.1.asKey = .ok e.1 := by rw [asKey, ho e List.mem_cons_self]
    simp only [List.map_cons, hkey]
    rfl

theorem IsObject.firstElement_eq_error_iff {d : Datum} (h : d.IsObject) {f : GroupFault} :
    d.firstElement = .error f ↔ d.isEmpty = true ∧ f = .noKey := by
  obtain ⟨o, hd, ho⟩ := h
  have hempty : d.isEmpty = o.isEmpty := by rw [isEmpty, hd]
  rw [firstElement_of_opened hd ho, hempty, mapError_eq_error, List.isEmpty_iff]
  constructor
  · rintro ⟨fault, hnil, rfl⟩
    exact ⟨firstKey_eq_error_iff.1 hnil, rfl⟩
  · rintro ⟨hnil, rfl⟩
    exact ⟨⟨⟩, firstKey_eq_error_iff.2 hnil, rfl⟩

theorem IsObject.exists_firstElement {d : Datum} (h : d.IsObject) (hne : d.isEmpty = false) :
    ∃ k, d.firstElement = .ok k ∧ k.notKey? = none := by
  obtain ⟨o, hd, ho⟩ := h
  have hempty : d.isEmpty = o.isEmpty := by rw [isEmpty, hd]
  rw [hempty, List.isEmpty_eq_false_iff] at hne
  obtain ⟨k, hk, hnone⟩ := exists_firstKey ho hne
  exact ⟨k, by rw [firstElement_of_opened hd ho, mapError_eq_ok, hk], hnone⟩

theorem groupByProperty_eq {d : Datum} {items : List Datum} (h : d.elements = .ok items) :
    d.groupByProperty = groupBy firstElement items := by
  rw [groupByProperty, h]
  rfl

end Datum

/-- **Objects are partitioned by their first keys.** -/
theorem groupByProperty_partitions :
    (∀ os : List Object, (∀ o ∈ os, o.IsKeyed) →
      (groupByProperty os = .error ⟨⟩ ↔ [] ∈ os) ∧
      ([] ∉ os → ∃ groups, groupByProperty os = .ok groups ∧
        IsStablePartition (KeysAlike firstKey) os groups)) ∧
    ∀ (d : Datum) (items : List Datum), d.elements = .ok items → (∀ x ∈ items, x.IsObject) →
      (d.groupByProperty = .error .noKey ↔ ∃ x ∈ items, x.isEmpty = true) ∧
      ((∀ x ∈ items, x.isEmpty = false) → ∃ groups, d.groupByProperty = .ok groups ∧
        IsStablePartition (KeysAlike Datum.firstElement) items groups) := by
  refine ⟨fun os hos => ⟨?_, fun hne => ?_⟩, fun d items hd hitems => ⟨?_, fun hne => ?_⟩⟩
  · rw [groupByProperty, groupBy_eq_error_iff fun o _ _ _ => rfl]
    simp [firstKey_eq_error_iff]
  · exact groupBy_isStablePartition fun o ho =>
      exists_firstKey (hos o ho) fun hempty => hne (hempty ▸ ho)
  · rw [Datum.groupByProperty_eq hd, groupBy_eq_error_iff fun x hx f hf =>
      ((hitems x hx).firstElement_eq_error_iff.1 hf).2]
    refine exists_congr fun x => and_congr_right fun hx => ?_
    rw [(hitems x hx).firstElement_eq_error_iff, and_iff_left rfl]
  · rw [Datum.groupByProperty_eq hd]
    exact groupBy_isStablePartition fun x hx => (hitems x hx).exists_firstElement (hne x hx)

/-- Objects of which two have one first key, in two spellings. -/
def spelledApart : List Object :=
  [[(.int 1, .text "a")], [(.text "x", .null), (.int 1, .null)],
    [(.bool true, .text "b"), (.text "y", .int 0)]]

/-- The theorem on these, as objects and as values, and with an empty object among them. -/
theorem groupByProperty_partitions_spelledApart :
    (∀ o ∈ spelledApart, o.IsKeyed) ∧ [] ∉ spelledApart ∧
    (∃ groups, groupByProperty spelledApart = .ok groups ∧
      IsStablePartition (KeysAlike firstKey) spelledApart groups) ∧
    (∃ groups, (Datum.list (spelledApart.map .map)).groupByProperty = .ok groups ∧
      IsStablePartition (KeysAlike Datum.firstElement) (spelledApart.map .map) groups) ∧
    groupByProperty (spelledApart ++ [[]]) = .error ⟨⟩ := by
  have hkeyed : ∀ o ∈ spelledApart, o.IsKeyed := by decide
  have hne : [] ∉ spelledApart := by decide
  have hkeyed' : ∀ o ∈ spelledApart ++ [[]], o.IsKeyed := by decide
  have hobjects : ∀ x ∈ spelledApart.map Datum.map, x.IsObject :=
    List.forall_mem_map.2 fun o ho => ⟨o, rfl, hkeyed o ho⟩
  refine ⟨hkeyed, hne, (groupByProperty_partitions.1 _ hkeyed).2 hne, ?_, ?_⟩
  · exact (groupByProperty_partitions.2 _ _ rfl hobjects).2 (by decide)
  · exact (groupByProperty_partitions.1 _ hkeyed').1.2 (by decide)

end RuleFit
