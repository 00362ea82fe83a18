import RuleFit.Expansion
import RuleFit.Proofs.Grouping
import RuleFit.Proofs.Picks

/-!
# The objects of an option

An object option is expanded to the objects that give every property with values one of them. What
counts is the list of all values under the names of their properties (`listings`). Its names, in the
order in which they first come, are the keys of every object (`names`), and what is listed under a
name, of however many properties, are the values to choose from (`valuesUnder`). One object comes
from each choice (`objectsOf_eq`); where no property has values there is nothing to choose and no
object.

Values are grouped by their names (`groupByProperty_single`). The groups are combined from the left,
so an object under construction holds the names of the groups so far, and every further group adds a
new name at the end (`foldl_combineObjects`).
-/

namespace RuleFit

/-! ## Listings -/

/-- The properties that have values. -/
def valued (properties : List (Text × Domain)) : List (Text × Domain) :=
  properties.filter fun p => !p.2.values.isEmpty

/-- Every value that properties list, under the name of its property. -/
def listings (properties : List (Text × Domain)) : List (Text × Datum) :=
  properties.flatMap fun p => p.2.values.map (p.1, ·)

/-- The names that have a value, in the order in which they first come. -/
def names (es : List (Text × Datum)) : List Text := (es.map Prod.fst).eraseDups

/-- The values listed under a name. -/
def valuesUnder (es : List (Text × Datum)) (name : Text) : List Datum :=
  (es.filter fun e => decide (e.1 = name)).map Prod.snd

/-- The object that gives names their values. -/
def objectOf (ns : List Text) (vs : List Datum) : Object := (ns.map Datum.text).zip vs

/-- The objects that give every name with values one of them. -/
def objectAxis (es : List (Text × Datum)) : List Object :=
  if (names es).isEmpty then []
  else (choices ((names es).map (valuesUnder es))).map (objectOf (names es))

theorem singleEntries_eq (properties : List (Text × Domain)) :
    singleEntries properties = (listings properties).map fun e => [(Datum.text e.1, e.2)] := by
  simp [singleEntries, listings, List.map_flatMap, Function.comp_def]

/-! ## Names -/

theorem nodup_names (es : List (Text × Datum)) : (names es).Nodup := nodup_eraseDups _

theorem mem_names {es : List (Text × Datum)} {name : Text} :
    name ∈ names es ↔ ∃ e ∈ es, e.1 = name := by
  rw [names, List.mem_eraseDups, List.mem_map]

theorem mem_valuesUnder {es : List (Text × Datum)} {name : Text} {v : Datum} :
    v ∈ valuesUnder es name ↔ (name, v) ∈ es := by
  simp [valuesUnder]

theorem valuesUnder_ne_nil {es : List (Text × Datum)} {name : Text} (h : name ∈ names es) :
    valuesUnder es name ≠ [] := by
  obtain ⟨e, he, rfl⟩ := mem_names.1 h
  have hmem : e.2 ∈ valuesUnder es e.1 :=
    List.mem_map_of_mem (List.mem_filter.2 ⟨he, decide_eq_true rfl⟩)
  exact List.ne_nil_of_mem hmem

theorem valuesUnder_eq_nil {es : List (Text × Datum)} {name : Text} (h : name ∉ names es) :
    valuesUnder es name = [] := by
  simp only [valuesUnder, List.map_eq_nil_iff, List.filter_eq_nil_iff, decide_eq_true_iff]
  exact fun e he hname => h (mem_names.2 ⟨e, he, hname⟩)

/-- The names of listings are those of the properties that have values. -/
theorem names_listings (properties : List (Text × Domain)) :
    names (listings properties) = ((valued properties).map Prod.fst).eraseDups := by
  induction properties using List.reverseRecOn with
  | nil => rfl
  | append_singleton properties p ih =>
    have hkeys : (listings (properties ++ [p])).map Prod.fst =
        (listings properties).map Prod.fst ++ List.replicate p.2.values.length p.1 := by
      simp [listings, List.map_flatMap, Function.comp_def, List.map_const']
    rw [names] at ih ⊢
    rw [valued] at ih ⊢
    rw [hkeys, List.filter_append, List.map_append]
    cases hvalues : p.2.values with
    | nil => simpa [hvalues] using ih
    | cons v vs =>
      rw [List.length_cons, eraseDups_append_replicate, eraseDups_concat, ih]
      simp [hvalues, eraseDups_concat]

/-- Under a name is what the properties of that name list. -/
theorem valuesUnder_listings (properties : List (Text × Domain)) (name : Text) :
    valuesUnder (listings properties) name =
      (properties.filter fun p => decide (p.1 = name)).flatMap fun p => p.2.values := by
  induction properties with
  | nil => rfl
  | cons p rest ih =>
    rw [valuesUnder, listings] at ih ⊢
    rw [List.flatMap_cons, List.filter_append, List.map_append, ih]
    by_cases hp : p.1 = name <;> simp [hp, List.filter_map, Function.comp_def]

/-! ## Groups -/

/-- The values under a name as objects of one entry. -/
def groupOf (es : List (Text × Datum)) (name : Text) : Datum × List Object :=
  (.text name, (valuesUnder es name).map fun v => [(Datum.text name, v)])

/-- Objects of one entry are grouped by their names. -/
theorem groupByProperty_single (es : List (Text × Datum)) :
    groupByProperty (es.map fun e => [(Datum.text e.1, e.2)]) =
      .ok ((names es).map fun n => (groupOf es n).2) := by
  classical
  let key : Object → Datum := fun o => (o.head?.map Prod.fst).getD .null
  have hkey : ∀ o ∈ es.map fun e => [(Datum.text e.1, e.2)],
      firstKey o = .ok (key o) ∧ (key o).notKey? = none :=
    List.forall_mem_map.2 fun e _ => ⟨rfl, rfl⟩
  have hfaces : (es.map fun e => [(Datum.text e.1, e.2)]).map (fun o => (key o).face) =
      (es.map Prod.fst).map Face.text := by
    rw [List.map_map, List.map_map]
    rfl
  rw [groupByProperty, groupBy_eq (fun o ho => (hkey o ho).1) fun o ho => (hkey o ho).2, byClass,
    hfaces, eraseDups_map fun _ _ => Face.text.inj, List.map_map]
  refine congrArg Except.ok (List.map_congr_left fun n _ => ?_)
  have hunder : es.filter ((fun o => decide ((key o).face = .text n)) ∘
      fun e => [(Datum.text e.1, e.2)]) = es.filter fun e => decide (e.1 = n) :=
    List.filter_congr fun e _ => decide_eq_decide.2 (Face.text.injEq e.1 n).to_iff
  rw [Function.comp_apply, groupOf, valuesUnder, List.filter_map, hunder, List.map_map]
  refine List.map_congr_left fun e he => ?_
  rw [← of_decide_eq_true (List.mem_filter.1 he).2]
  rfl

/-! ## Objects group by group -/

theorem put_of_not_mem {o : Object} {key : Text} (h : Datum.text key ∉ o.map Prod.fst)
    (v : Datum) : Datum.put o (.text key) v = o ++ [(.text key, v)] := by
  simpa [Datum.put] using Datum.put_append_text h [] v

/-- Objects combine with the groups of further names by giving every name one of its values. -/
theorem foldl_combineObjects (es : List (Text × Datum)) (done : List Text) {ns : List Text}
    {os : List Object}
    (hn : (done ++ ns).Nodup) (hvalues : ∀ n ∈ ns, valuesUnder es n ≠ []) (hne : os ≠ [])
    (hos : ∀ o ∈ os, o.map Prod.fst = done.map Datum.text) :
    (ns.map fun n => (groupOf es n).2).foldl combineObjects os =
      os.flatMap fun o =>
        (choices (ns.map (valuesUnder es))).map fun vs => o ++ objectOf ns vs := by
  induction ns generalizing done os with
  | nil => simp [choices, objectOf]
  | cons n ns ih =>
    obtain ⟨hvn, hvns⟩ := List.forall_mem_cons.1 hvalues
    have hnew : n ∉ done := fun hmem => (List.disjoint_of_nodup_append hn) hmem List.mem_cons_self
    have hstep : combineObjects os (groupOf es n).2 =
        os.flatMap fun o => (valuesUnder es n).map fun v => o ++ [(Datum.text n, v)] := by
      have hgroup : (groupOf es n).2 ≠ [] := by simpa [groupOf] using hvn
      rw [combineObjects, if_neg (by simpa using hne), if_neg (by simpa using hgroup)]
      refine List.flatMap_congr fun o ho => ?_
      have hkey : Datum.text n ∉ o.map Prod.fst := by
        rw [hos o ho]
        simpa using hnew
      rw [groupOf, List.map_map]
      exact List.map_congr_left fun v _ => put_of_not_mem hkey v
    have hkeys : ∀ o ∈ os.flatMap fun o => (valuesUnder es n).map fun v => o ++ [(Datum.text n, v)],
        o.map Prod.fst = (done ++ [n]).map Datum.text := by
      intro o ho
      obtain ⟨o', ho', ho⟩ := List.mem_flatMap.1 ho
      obtain ⟨v, -, rfl⟩ := List.mem_map.1 ho
      simp [hos o' ho']
    have hgrown : (os.flatMap fun o => (valuesUnder es n).map fun v => o ++ [(Datum.text n, v)]) ≠
        [] := by
      obtain ⟨o, ho⟩ := List.exists_mem_of_ne_nil os hne
      obtain ⟨v, hv⟩ := List.exists_mem_of_ne_nil _ hvn
      exact List.ne_nil_of_mem (List.mem_flatMap.2 ⟨o, ho, List.mem_map_of_mem hv⟩)
    rw [List.map_cons, List.foldl_cons, hstep,
      ih (done ++ [n]) (by rwa [List.append_assoc, List.singleton_append]) hvns hgrown hkeys,
      List.flatMap_assoc]
    refine List.flatMap_congr fun o _ => ?_
    simp [choices, List.flatMap_map, List.map_flatMap, objectOf, Function.comp_def]

/-- **An object option is expanded to one object for each choice of values.** -/
theorem objectsOf_eq (properties : List (Text × Domain)) :
    objectsOf properties = objectAxis (listings properties) := by
  rw [objectsOf, singleEntries_eq, groupByProperty_single]
  generalize listings properties = es
  have hnodup := nodup_names es
  have hvalues : ∀ n ∈ names es, valuesUnder es n ≠ [] := fun n hn => valuesUnder_ne_nil hn
  rw [objectAxis]
  cases hnames : names es with
  | nil => rfl
  | cons n ns =>
    rw [hnames] at hnodup hvalues
    obtain ⟨hvn, hvns⟩ := List.forall_mem_cons.1 hvalues
    have hfirst : combineObjects [] (groupOf es n).2 = (groupOf es n).2 := rfl
    have hgroup : (groupOf es n).2 ≠ [] := by simpa [groupOf] using hvn
    have hkeys : ∀ o ∈ (groupOf es n).2, o.map Prod.fst = [n].map Datum.text := by
      intro o ho
      obtain ⟨v, -, rfl⟩ := List.mem_map.1 ho
      rfl
    simp only [List.map_cons, List.foldl_cons, hfirst, List.isEmpty_cons, Bool.false_eq_true,
      if_false]
    rw [foldl_combineObjects es [n] hnodup hvns hgroup hkeys]
    simp [groupOf, choices, List.flatMap_map, List.map_flatMap, objectOf, Function.comp_def]

end RuleFit
