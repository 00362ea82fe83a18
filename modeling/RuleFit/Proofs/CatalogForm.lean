import RuleFit.Catalog.Basic
import RuleFit.Proofs.Steps

/-!
# Which documents are catalogs

The form of a catalog is laid down without reading one. A document has rules, a rule a schema, a
schema options (`Catalog.IsDocument`, `Datum.IsSchema`, `Datum.DescribesOption`). One thing more is
asked: what is put into texts can be written out (`Catalog.Legible`). These are the rule ids, and
the types and property names that reading an option quotes (`Datum.Quotes`).

**Theorem (`read_accepts`).** A catalog is read from exactly the legible documents of this form.
From everything else comes one of the faults of a catalog, and which one is laid down as well
(`Catalog.Faulty`): in document order the first rule at fault, and in its schema the first
description. Its place heads the message, unless it is a number too long to be written out.

The limit on numbers is not idle: a document of the right form with one long number as a type is no
catalog (`numberedRule_refused`).

Reading goes through two lists, that of the rules and that of the options. Both end at the first
item that does not pass, so the faults of a list are those of the item that is reached
(`mapM_eq_error_iff`, `readItems_eq_error_iff`).
-/

namespace RuleFit

/-! ## The form of an option -/

namespace Datum

/-- What stands under a key of a mapping. -/
def under? (d : Datum) (key : Text) : Option Datum :=
  (d.get? key).map opened

/-- The mapping is one of several alternatives. -/
def IsDisjunction (d : Datum) : Prop :=
  (d.get? "oneOf").isSome = true ∨ (d.get? "anyOf").isSome = true

/-- The values are listed. -/
def HasEnum (d : Datum) : Prop :=
  ∃ values, d.under? "enum" = some (.list values)

/-- There is no enumeration, or null stands for it. -/
def LacksEnum (d : Datum) : Prop :=
  ∀ e, d.under? "enum" = some e → e = .null

/-- The type alone decides what the mapping describes. -/
def IsTyped (d : Datum) : Prop :=
  d.isMap = true ∧ ¬d.IsDisjunction ∧ d.LacksEnum

/-- An object is described whose properties are not in a mapping. -/
def HasBadProperties (d : Datum) : Prop :=
  hasType d "object" = true ∧ ∃ p, d.under? "properties" = some p ∧ ∀ entries, p ≠ .map entries

/-- The form of the description of an option. -/
def DescribesOption (d : Datum) : Prop :=
  d.isMap = true ∧ (d.IsDisjunction ∨ d.HasEnum ∨ d.LacksEnum ∧ ¬d.HasBadProperties)

/-- The values of the property are known. -/
def IsEnumerable (d : Datum) : Prop :=
  d.HasEnum ∨ hasType d "boolean" = true

/-- The values that reading the description of an option puts into texts: the names of an object's
properties whose values are known, and any other type. -/
inductive Quotes (d : Datum) : Datum → Prop where
  | type (h : hasType d "object" = false) : Quotes d ((d.get? "type").getD (.text "untyped"))
  | name {entries : List (Datum × Datum)} {e : Datum × Datum} (h : hasType d "object" = true)
    (hp : d.under? "properties" = some (.map entries)) (he : e ∈ entries)
    (hvalues : e.2.IsEnumerable) : Quotes d e.1

/-- Something is quoted that cannot be written out. -/
def QuotesTooLong (d : Datum) : Prop := ∃ w, Quotes d w ∧ w.writable = false

/-- What reading the description of an option puts into texts can be written out. -/
def LegibleOption (d : Datum) : Prop := d.IsTyped → ¬d.QuotesTooLong

/-- What is wrong with the description of an option. -/
inductive FaultyOption (d : Datum) : SchemaCause → Prop where
  | notMapping (h : d.isMap = false) : FaultyOption d .descriptorNotMapping
  | enumNotList (hmap : d.isMap = true) (hnone : ¬d.IsDisjunction) (hsome : ¬d.LacksEnum)
    (h : ¬d.HasEnum) : FaultyOption d .enumNotList
  | propertiesNotMapping (htyped : d.IsTyped) (h : d.HasBadProperties) :
    FaultyOption d .propertiesNotMapping
  | unwritable (htyped : d.IsTyped) (h : d.QuotesTooLong) : FaultyOption d (.unwritable ⟨⟩)

/-! ## Reading an option -/

theorem disjunction?_eq_none_iff {d : Datum} : disjunction? d = none ↔ ¬d.IsDisjunction := by
  simp [disjunction?, IsDisjunction]

theorem not_lacksEnum {d : Datum} (h : d.HasEnum) : ¬d.LacksEnum := by
  obtain ⟨values, hvalues⟩ := h
  intro hlacks
  cases hlacks _ hvalues

theorem isSome_ofProperty?_iff {d : Datum} :
    (Domain.ofProperty? d).isSome = true ↔ d.IsEnumerable := by
  unfold Domain.ofProperty? IsEnumerable HasEnum under?
  generalize (d.get? "enum").map opened = e
  by_cases he : ∃ values, e = some (.list values)
  · obtain ⟨values, rfl⟩ := he
    simp
  · split
    · exact absurd ⟨_, rfl⟩ he
    · simp [he]

theorem quotesTooLong_object_iff {d : Datum} (h : hasType d "object" = true) :
    d.QuotesTooLong ↔ ∃ entries, d.under? "properties" = some (.map entries) ∧
      ∃ e ∈ entries, e.2.IsEnumerable ∧ e.1.writable = false := by
  constructor
  · intro ⟨w, hw, hlong⟩
    cases hw with
    | type hnot => cases h.symm.trans hnot
    | name _ hp he hvalues => exact ⟨_, hp, _, he, hvalues, hlong⟩
  · intro ⟨_, hp, e, he, hvalues, hlong⟩
    exact ⟨e.1, .name h hp he hvalues, hlong⟩

theorem quotesTooLong_type_iff {d : Datum} (h : hasType d "object" = false) :
    d.QuotesTooLong ↔ ((d.get? "type").getD (.text "untyped")).writable = false := by
  constructor
  · intro ⟨w, hw, hlong⟩
    cases hw with
    | type => exact hlong
    | name hobject => cases h.symm.trans hobject
  · intro hlong
    exact ⟨_, .type h, hlong⟩

theorem faultyOption_typed_iff {d : Datum} {cause : SchemaCause} (h : d.IsTyped) :
    FaultyOption d cause ↔ d.HasBadProperties ∧ cause = .propertiesNotMapping ∨
      d.QuotesTooLong ∧ cause = .unwritable ⟨⟩ := by
  constructor
  · intro hfault
    cases hfault with
    | notMapping hnot => cases h.1.symm.trans hnot
    | enumNotList _ _ hsome => exact absurd h.2.2 hsome
    | propertiesNotMapping _ hbad => exact .inl ⟨hbad, rfl⟩
    | unwritable _ hlong => exact .inr ⟨hlong, rfl⟩
  · rintro (⟨hbad, rfl⟩ | ⟨hlong, rfl⟩)
    · exact .propertiesNotMapping h hbad
    · exact .unwritable h hlong

end Datum

open Datum

theorem readProperties_eq_error_iff {entries : List (Datum × Datum)} {f : NumberTooLong} :
    readProperties entries = .error f ↔
      ∃ e ∈ entries, e.2.IsEnumerable ∧ e.1.writable = false := by
  induction entries with
  | nil => simp [readProperties]
  | cons e rest ih =>
    obtain ⟨name, d⟩ := e
    rw [List.exists_mem_cons_iff, ← ih]
    show readProperties ((name, d) :: rest) = .error f ↔ d.IsEnumerable ∧ name.writable = false ∨ _
    rw [← isSome_ofProperty?_iff, readProperties]
    cases Domain.ofProperty? d with
    | none => simp
    | some domain =>
      cases hname : name.writable with
      | false => simp [bind_eq_error, shown_eq_error_iff, hname]
      | true => simp [bind_eq_error, shown_eq_error_iff, shown_eq_ok_iff, hname, pure, Except.pure]

theorem mapError_unwritable_iff {α : Type} {x : Except NumberTooLong α} {cause : SchemaCause} :
    x.mapError .unwritable = .error cause ↔ x = .error ⟨⟩ ∧ cause = .unwritable ⟨⟩ := by
  cases x <;> simp [Except.mapError, eq_comm]

namespace Descriptor

variable {d : Datum} {cause : SchemaCause}

theorem ofTyped_object (h : hasType d "object" = true) : ofTyped d =
    match d.under? "properties" with
    | none => .ok (.object [])
    | some (.map entries) => ((readProperties entries).mapError .unwritable).map .object
    | some _ => .error .propertiesNotMapping := by
  rw [ofTyped, if_pos h]
  rfl

theorem ofTyped_eq_error_iff (h : d.IsTyped) :
    ofTyped d = .error cause ↔ FaultyOption d cause := by
  rw [faultyOption_typed_iff h]
  -- an object quotes the names of its properties, and anything else its type
  cases htype : hasType d "object" with
  | true =>
    rw [ofTyped_object htype, quotesTooLong_object_iff htype]
    simp only [HasBadProperties, htype, true_and]
    split
    · next hp => simp [hp]
    · next entries hp =>
      simp [hp, map_eq_error, mapError_unwritable_iff, readProperties_eq_error_iff]
    · next p hnot hp =>
      have hbad : ∀ entries, p ≠ .map entries := hnot
      simp [hp, hbad, @eq_comm _ cause]
  | false =>
    simp [ofTyped, HasBadProperties, htype, quotesTooLong_type_iff htype, Functor.map, map_eq_error,
      mapError_unwritable_iff, shown_eq_error_iff]

theorem ofDatum_of_isTyped (h : d.IsTyped) : ofDatum d = ofTyped d := by
  obtain ⟨hmap, hnone, hlacks⟩ := h
  unfold ofDatum
  rw [if_pos hmap, disjunction?_eq_none_iff.2 hnone]
  unfold LacksEnum under? at hlacks
  generalize (d.get? "enum").map opened = e at hlacks
  cases e with
  | none => rfl
  | some e =>
    obtain rfl := hlacks e rfl
    rfl

/-- A mapping whose type does not count is a disjunction, or has an enumeration. -/
theorem ofDatum_of_not_isTyped (hmap : d.isMap = true) (h : ¬d.IsTyped) :
    ofDatum d = .error cause ↔
      ¬d.IsDisjunction ∧ ¬d.LacksEnum ∧ ¬d.HasEnum ∧ cause = .enumNotList := by
  unfold ofDatum
  rw [if_pos hmap]
  cases hkey : disjunction? d with
  | some key =>
    have hdisjunction : d.IsDisjunction := by
      by_contra hnone
      cases hkey.symm.trans (disjunction?_eq_none_iff.2 hnone)
    simp [hdisjunction]
  | none =>
    have hnone := disjunction?_eq_none_iff.1 hkey
    have hsome : ¬d.LacksEnum := fun hlacks => h ⟨hmap, hnone, hlacks⟩
    simp only [hnone, not_false_eq_true, true_and]
    unfold LacksEnum HasEnum under? at *
    generalize (d.get? "enum").map opened = e at hsome
    -- without an enumeration, or with null in its place, the type would count
    split
    · exact absurd (by simp) hsome
    · exact absurd (by simp) hsome
    · simp
    · next e _ hlist =>
      have hnot : ¬∃ values, some e = some (Datum.list values) := by
        rintro ⟨values, hvalues⟩
        exact hlist values (Option.some.inj hvalues)
      constructor
      · rintro ⟨⟩
        exact ⟨hsome, hnot, rfl⟩
      · rintro ⟨-, -, rfl⟩
        rfl

theorem ofDatum_eq_error_iff : ofDatum d = .error cause ↔ FaultyOption d cause := by
  by_cases htyped : d.IsTyped
  · rw [ofDatum_of_isTyped htyped, ofTyped_eq_error_iff htyped]
  cases hmap : d.isMap with
  | false =>
    constructor
    · intro h
      rw [ofDatum, hmap] at h
      cases h
      exact .notMapping hmap
    · intro h
      cases h with
      | notMapping => rw [ofDatum, hmap]; rfl
      | enumNotList htrue => cases hmap.symm.trans htrue
      | propertiesNotMapping htyped | unwritable htyped => cases hmap.symm.trans htyped.1
  | true =>
    rw [ofDatum_of_not_isTyped hmap htyped]
    constructor
    · rintro ⟨hnone, hsome, hnot, rfl⟩
      exact .enumNotList hmap hnone hsome hnot
    · intro h
      cases h with
      | notMapping hnot => cases hmap.symm.trans hnot
      | enumNotList _ hnone hsome hnot => exact ⟨hnone, hsome, hnot, rfl⟩
      | propertiesNotMapping h => exact absurd h htyped
      | unwritable h => exact absurd h htyped

theorem exists_ofDatum_iff : (∃ o, ofDatum d = .ok o) ↔ d.DescribesOption ∧ d.LegibleOption := by
  rw [exists_eq_ok_iff]
  simp only [ne_eq, ofDatum_eq_error_iff]
  constructor
  -- whatever the form asks for and is missing makes for a fault
  · intro h
    have hmap : d.isMap = true := by
      by_contra hnot
      exact h _ (.notMapping (by simpa using hnot))
    refine ⟨⟨hmap, ?_⟩, fun htyped hlong => h _ (.unwritable htyped hlong)⟩
    by_contra hnone
    simp only [not_or, not_and_not_right] at hnone
    obtain ⟨hdisjunction, hnot, hbad⟩ := hnone
    have hlacks : d.LacksEnum := by
      by_contra hsome
      exact h _ (.enumNotList hmap hdisjunction hsome hnot)
    exact h _ (.propertiesNotMapping ⟨hmap, hdisjunction, hlacks⟩ (hbad hlacks))
  · rintro ⟨⟨hmap, hform⟩, hlegible⟩ cause hfault
    cases hfault with
    | notMapping hnot => cases hmap.symm.trans hnot
    | enumNotList _ hnone hsome hnot =>
      rcases hform with hdisjunction | henum | ⟨hlacks, -⟩
      · exact hnone hdisjunction
      · exact hnot henum
      · exact hsome hlacks
    | propertiesNotMapping htyped hbad =>
      rcases hform with hdisjunction | henum | ⟨-, hgood⟩
      · exact htyped.2.1 hdisjunction
      · exact not_lacksEnum henum htyped.2.2
      · exact hgood hbad
    | unwritable htyped hlong => exact hlegible htyped hlong

theorem read_eq_error_iff {place : Text} {f : SchemaFault} :
    read place d = .error f ↔ f.place = place ∧ d.FaultyOption f.cause := by
  rw [read, mapError_eq_error]
  constructor
  · rintro ⟨cause, hcause, rfl⟩
    exact ⟨rfl, ofDatum_eq_error_iff.1 hcause⟩
  · rintro ⟨rfl, hfault⟩
    exact ⟨_, ofDatum_eq_error_iff.2 hfault, rfl⟩

theorem exists_read_iff {place : Text} :
    (∃ o, read place d = .ok o) ↔ d.DescribesOption ∧ d.LegibleOption := by
  simp only [read, mapError_eq_ok, exists_ofDatum_iff]

end Descriptor

/-! ## Schemas -/

namespace Datum

/-- The form of a schema: nothing, or a list of descriptions. -/
def IsSchema (d : Datum) : Prop :=
  d.opened = .null ∨ d.opened = .map [] ∨
    ∃ items, d.opened = .list items ∧ ∀ item ∈ items, item.DescribesOption

/-- What reading a schema puts into texts can be written out. -/
def LegibleSchema (d : Datum) : Prop :=
  ∀ items, d.opened = .list items → ∀ item ∈ items, item.LegibleOption

/-- What is wrong with a schema that stands at a place: all of it, or the first description at
fault. -/
inductive FaultySchema (place : Text) (d : Datum) : SchemaFault → Prop where
  | notList (hsome : d.opened ≠ .null) (hmap : d.opened ≠ .map [])
    (h : ∀ items, d.opened ≠ .list items) : FaultySchema place d ⟨place, .notList⟩
  | item {items : List Datum} {i : Nat} {item : Datum} {cause : SchemaCause}
    (hlist : d.opened = .list items)
    (hi : Reached (fun x => x.DescribesOption ∧ x.LegibleOption) items i item)
    (h : item.FaultyOption cause) :
    FaultySchema place d ⟨place ++ "[" ++ toString i ++ "]", cause⟩

end Datum

namespace Schema

variable {place : Text} {d : Datum} {f : SchemaFault}

/-- Reading descriptions one after the other ends at the first one at fault. -/
theorem readItems_cons_eq_error_iff {index : Nat} {item : Datum} {items : List Datum} :
    readItems place index (item :: items) = .error f ↔
      Descriptor.read (place ++ "[" ++ toString index ++ "]") item = .error f ∨
        (item.DescribesOption ∧ item.LegibleOption) ∧
          readItems place (index + 1) items = .error f := by
  have hrest (o : Descriptor) : (do return o :: (← readItems place (index + 1) items)) =
      Except.error f ↔ readItems place (index + 1) items = .error f := by
    simp [bind_eq_error, pure, Except.pure]
  rw [readItems, bind_eq_error]
  simp only [hrest, exists_and_right, Descriptor.exists_read_iff]

theorem readItems_eq_error_iff {index : Nat} {items : List Datum} :
    readItems place index items = .error f ↔
      ∃ i item, Reached (fun x => x.DescribesOption ∧ x.LegibleOption) items i item ∧
        Descriptor.read (place ++ "[" ++ toString (index + i) ++ "]") item = .error f := by
  induction items generalizing index with
  | nil =>
    refine iff_of_false (by simp [readItems]) ?_
    rintro ⟨i, x, hreached, -⟩
    exact not_reached_nil hreached
  | cons item items ih =>
    rw [readItems_cons_eq_error_iff, exists_reached_cons, ih]
    simp only [Nat.add_zero, Nat.add_right_comm index 1, Nat.add_assoc index]

theorem exists_readItems_iff {index : Nat} {items : List Datum} :
    (∃ s, readItems place index items = .ok s) ↔
      ∀ item ∈ items, item.DescribesOption ∧ item.LegibleOption := by
  induction items generalizing index with
  | nil => simp [readItems]
  | cons item items ih =>
    have hcons : (∃ s, readItems place index (item :: items) = .ok s) ↔
        (∃ o, Descriptor.read (place ++ "[" ++ toString index ++ "]") item = .ok o) ∧
          ∃ s, readItems place (index + 1) items = .ok s := by
      simp [readItems, bind_eq_ok, pure, Except.pure]
    rw [hcons, Descriptor.exists_read_iff, ih, List.forall_mem_cons]

theorem read_eq_error_iff : read place d = .error f ↔ d.FaultySchema place f := by
  unfold read
  constructor
  · intro h
    split at h
    · cases h
    · cases h
    · next items hlist =>
      obtain ⟨i, item, hi, h⟩ := readItems_eq_error_iff.1 h
      obtain ⟨hplace, hfault⟩ := Descriptor.read_eq_error_iff.1 h
      obtain ⟨fplace, cause⟩ := f
      obtain rfl : fplace = _ := hplace
      rw [Nat.zero_add]
      exact .item hlist hi hfault
    · next hsome hmap hlist =>
      cases h
      exact .notList hsome hmap hlist
  · intro h
    cases h with
    | notList hsome hmap hlist =>
      split
      · next h => exact absurd h hsome
      · next h => exact absurd h hmap
      · next items h => exact absurd h (hlist items)
      · rfl
    | item hlist hi hfault =>
      rw [hlist]
      refine readItems_eq_error_iff.2 ⟨_, _, hi, Descriptor.read_eq_error_iff.2 ⟨?_, hfault⟩⟩
      rw [Nat.zero_add]

theorem exists_read_iff : (∃ s, read place d = .ok s) ↔ d.IsSchema ∧ d.LegibleSchema := by
  unfold read IsSchema LegibleSchema
  generalize d.opened = raw
  split
  · simp
  · simp
  · simp [exists_readItems_iff, forall_and]
  · next hnull hmap hlist =>
    refine iff_of_false (by simp) ?_
    rintro ⟨h | h | ⟨items, h, -⟩, -⟩
    · exact hnull h
    · exact hmap h
    · exact hlist items h

end Schema

/-! ## Rules -/

namespace Catalog

/-- The document holds these rules. -/
def HasRules (d : Datum) (entries : List (Datum × Datum)) : Prop :=
  d.under? "rules" = some (.map entries)

/-- The form of a catalog: a mapping of ids to schemas under a key. -/
def IsDocument (d : Datum) : Prop :=
  d.isMap = true ∧ ∃ entries, HasRules d entries ∧ ∀ e ∈ entries, (rawSchema e.2).IsSchema

/-- What reading a rule puts into texts can be written out. -/
def LegibleRule (e : Datum × Datum) : Prop :=
  e.1.writable = true ∧ (rawSchema e.2).LegibleSchema

/-- What reading a catalog puts into texts can be written out. -/
def Legible (d : Datum) : Prop :=
  ∀ entries, HasRules d entries → ∀ e ∈ entries, LegibleRule e

/-- What is wrong with a rule of a catalog. -/
inductive FaultyRule (source : Text) (e : Datum × Datum) : CatalogFault → Prop where
  | unwritableId (h : e.1.writable = false) : FaultyRule source e (.unwritableId ⟨⟩)
  | schema {f : SchemaFault} (hid : e.1.writable = true)
    (h : (rawSchema e.2).FaultySchema (place source e.1.display) f) :
    FaultyRule source e (.schema f)

/-- What is wrong with a catalog: its outer form, or the first rule at fault. -/
inductive Faulty (source : Text) (d : Datum) : CatalogFault → Prop where
  | notMapping (h : d.isMap = false) : Faulty source d (.notMapping source)
  | rulesNotMapping (hmap : d.isMap = true) (h : ∀ entries, ¬HasRules d entries) :
    Faulty source d (.rulesNotMapping source)
  | rule {entries : List (Datum × Datum)} {i : Nat} {e : Datum × Datum} {f : CatalogFault}
    (hrules : HasRules d entries)
    (hi : Reached (fun e => (rawSchema e.2).IsSchema ∧ LegibleRule e) entries i e)
    (h : FaultyRule source e f) : Faulty source d f

/-! ## Reading rules -/

/-- Reads one rule. -/
def readRule (source : Text) (e : Datum × Datum) : Except CatalogFault (Text × Schema) := do
  let id ← e.1.shown.mapError .unwritableId
  let schema ← (Schema.read (place source id) (rawSchema e.2)).mapError .schema
  return (id, schema)

variable {source : Text} {d : Datum}

theorem readRules_cons (table : RuleTable Schema) (e : Datum × Datum)
    (rest : List (Datum × Datum)) : readRules source table (e :: rest) =
      (do let r ← readRule source e; readRules source (table.set r.1 r.2) rest) := by
  rw [readRules, readRule]
  cases e.1.shown with
  | error f => rfl
  | ok id =>
    dsimp only
    cases hschema : Schema.read (place source id) (rawSchema e.2) with
    | error f => simp [Except.mapError, bind, Except.bind, hschema]
    | ok schema => simp [Except.mapError, bind, Except.bind, pure, Except.pure, hschema]

/-- Rules are read each for itself, and then set one after the other. -/
theorem readRules_eq (table : RuleTable Schema) (entries : List (Datum × Datum)) :
    readRules source table entries = (entries.mapM (readRule source)).map fun rows =>
      rows.foldl (fun acc r => acc.set r.1 r.2) table := by
  induction entries generalizing table with
  | nil => rfl
  | cons e rest ih =>
    rw [readRules_cons, List.mapM_cons]
    cases readRule source e with
    | error f => rfl
    | ok r =>
      show readRules source (table.set r.1 r.2) rest = _
      rw [ih]
      cases rest.mapM (readRule source) <;> rfl

theorem readRule_eq_error_iff {e : Datum × Datum} {f : CatalogFault} :
    readRule source e = .error f ↔ FaultyRule source e f := by
  constructor
  · intro h
    rcases bind_eq_error.1 h with h | ⟨id, hid, h⟩
    · obtain ⟨f, hf, rfl⟩ := mapError_eq_error.1 h
      exact .unwritableId (shown_eq_error_iff.1 hf)
    · obtain ⟨hwritable, rfl⟩ := shown_eq_ok_iff.1 (mapError_eq_ok.1 hid)
      rcases bind_eq_error.1 h with h | ⟨schema, -, h⟩
      · obtain ⟨f, hf, rfl⟩ := mapError_eq_error.1 h
        exact .schema hwritable (Schema.read_eq_error_iff.1 hf)
      · cases h
  · intro h
    cases h with
    | unwritableId hlong =>
      have hid : e.1.shown.mapError CatalogFault.unwritableId = .error (.unwritableId ⟨⟩) :=
        mapError_eq_error.2 ⟨_, shown_eq_error_iff.2 hlong, rfl⟩
      exact bind_eq_error.2 (.inl hid)
    | schema hwritable hfault =>
      have hid : e.1.shown.mapError CatalogFault.unwritableId = .ok e.1.display :=
        mapError_eq_ok.2 (shown_eq_ok_iff.2 ⟨hwritable, rfl⟩)
      have hschema : (Schema.read (place source e.1.display) (rawSchema e.2)).mapError
          CatalogFault.schema = .error (.schema _) :=
        mapError_eq_error.2 ⟨_, Schema.read_eq_error_iff.2 hfault, rfl⟩
      exact bind_eq_error.2 (.inr ⟨_, hid, bind_eq_error.2 (.inl hschema)⟩)

theorem readRule_eq_ok_iff {e : Datum × Datum} {r : Text × Schema} :
    readRule source e = .ok r ↔ e.1.writable = true ∧ e.1.display = r.1 ∧
      Schema.read (place source e.1.display) (rawSchema e.2) = .ok r.2 := by
  simp only [readRule, bind_eq_ok, mapError_eq_ok, shown_eq_ok_iff]
  constructor
  · rintro ⟨id, ⟨hwritable, rfl⟩, schema, hschema, h⟩
    cases h
    exact ⟨hwritable, rfl, hschema⟩
  · rintro ⟨hwritable, hid, hschema⟩
    exact ⟨_, ⟨hwritable, rfl⟩, _, hschema, by rw [hid]; rfl⟩

theorem exists_readRule_iff {e : Datum × Datum} :
    (∃ r, readRule source e = .ok r) ↔ (rawSchema e.2).IsSchema ∧ LegibleRule e := by
  simp only [readRule_eq_ok_iff, LegibleRule, Prod.exists]
  constructor
  · rintro ⟨_, schema, hwritable, rfl, hschema⟩
    obtain ⟨hform, hlegible⟩ := Schema.exists_read_iff.1 ⟨schema, hschema⟩
    exact ⟨hform, hwritable, hlegible⟩
  · rintro ⟨hform, hwritable, hlegible⟩
    obtain ⟨schema, hschema⟩ := Schema.exists_read_iff.2 ⟨hform, hlegible⟩
    exact ⟨_, schema, hwritable, rfl, hschema⟩

theorem isMap_of_hasRules {entries : List (Datum × Datum)} (h : HasRules d entries) :
    d.isMap = true := by
  unfold HasRules under? get? at h
  unfold isMap
  generalize d.opened = raw at h
  cases raw with
  | map => rfl
  | _ => cases h

theorem read_of_isMap (h : d.isMap = true) : read source d =
    match d.under? "rules" with
    | some (.map rules) => (readRules source .empty rules).map (⟨·⟩)
    | _ => .error (.rulesNotMapping source) := by
  rw [read, if_pos h]
  rfl

theorem read_of_hasRules {entries : List (Datum × Datum)} (h : HasRules d entries) :
    read source d = (entries.mapM (readRule source)).map fun rows => ⟨.ofRows rows⟩ := by
  rw [read_of_isMap (isMap_of_hasRules h), h]
  dsimp only
  rw [readRules_eq]
  cases entries.mapM (readRule source) <;> rfl

theorem read_of_no_rules (hmap : d.isMap = true) (h : ∀ entries, ¬HasRules d entries) :
    read source d = .error (.rulesNotMapping source) := by
  rw [read_of_isMap hmap]
  split
  · next entries hentries => exact absurd hentries (h entries)
  · rfl

theorem exists_hasRules {c : Catalog} (h : read source d = .ok c) :
    ∃ entries, HasRules d entries := by
  by_contra hnone
  rw [not_exists] at hnone
  cases hmap : d.isMap with
  | true =>
    rw [read_of_no_rules hmap hnone] at h
    cases h
  | false =>
    rw [read, hmap] at h
    cases h

theorem read_eq_error_iff {f : CatalogFault} : read source d = .error f ↔ Faulty source d f := by
  by_cases hrules : ∃ entries, HasRules d entries
  · obtain ⟨entries, hrules⟩ := hrules
    rw [read_of_hasRules hrules, map_eq_error, mapM_eq_error_iff]
    simp only [exists_readRule_iff, readRule_eq_error_iff]
    constructor
    · rintro ⟨i, e, hi, hfault⟩
      exact .rule hrules hi hfault
    · intro h
      cases h with
      | notMapping hnot => cases (isMap_of_hasRules hrules).symm.trans hnot
      | rulesNotMapping _ hnone => exact absurd hrules (hnone entries)
      | rule hrules' hi hfault =>
        cases hrules.symm.trans hrules'
        exact ⟨_, _, hi, hfault⟩
  have hnone : ∀ entries, ¬HasRules d entries := not_exists.1 hrules
  cases hmap : d.isMap with
  | true =>
    rw [read_of_no_rules hmap hnone]
    constructor
    · intro h
      cases h
      exact .rulesNotMapping hmap hnone
    · intro h
      cases h with
      | notMapping hnot => cases hmap.symm.trans hnot
      | rulesNotMapping => rfl
      | rule hrules' => exact absurd hrules' (hnone _)
  | false =>
    constructor
    · intro h
      rw [read, hmap] at h
      cases h
      exact .notMapping hmap
    · intro h
      cases h with
      | notMapping => rw [read, hmap]; rfl
      | rulesNotMapping htrue => cases hmap.symm.trans htrue
      | rule hrules' => exact absurd hrules' (hnone _)

theorem isDocument_and_legible_iff {entries : List (Datum × Datum)} (h : HasRules d entries) :
    IsDocument d ∧ Legible d ↔ ∀ e ∈ entries, (rawSchema e.2).IsSchema ∧ LegibleRule e := by
  have huse {es : List (Datum × Datum)} (hes : HasRules d es) : entries = es := by
    cases h.symm.trans hes
    rfl
  constructor
  · rintro ⟨⟨-, es, hes, hform⟩, hlegible⟩ e he
    exact ⟨hform e (huse hes ▸ he), hlegible entries h e he⟩
  · intro hall
    refine ⟨⟨isMap_of_hasRules h, entries, h, fun e he => (hall e he).1⟩, ?_⟩
    intro es hes e he
    exact (hall e (huse hes ▸ he)).2

theorem exists_read_iff : (∃ c, read source d = .ok c) ↔ IsDocument d ∧ Legible d := by
  by_cases hrules : ∃ entries, HasRules d entries
  · obtain ⟨entries, hrules⟩ := hrules
    rw [isDocument_and_legible_iff hrules, read_of_hasRules hrules]
    simp only [map_eq_ok, exists_comm, exists_eq_right']
    rw [exists_mapM_eq_ok_iff]
    simp only [exists_readRule_iff]
  · refine iff_of_false ?_ ?_
    · rintro ⟨c, h⟩
      exact hrules (exists_hasRules h)
    · rintro ⟨⟨-, entries, h, -⟩, -⟩
      exact hrules ⟨entries, h⟩

/-! ## Main theorem -/

/-- The place heads the message, unless a number is too long to be written out. -/
theorem message_of_schema {f : SchemaFault} (h : f.cause ≠ .unwritable ⟨⟩) :
    (CatalogFault.schema f).message = f.place ++ f.cause.message .empty := by
  show f.cause.message f.place = _
  cases hcause : f.cause with
  | unwritable => exact absurd hcause h
  | _ => rfl

/-- Catalogs are read from the legible documents of their form and from nothing else. What comes
from anything else is the fault laid down for it. When it lies in a schema, the message names the
first rule at fault and the place in its schema, but for a number that is too long. -/
theorem read_accepts (source : Text) (d : Datum) :
    ((∃ c, read source d = .ok c) ↔ IsDocument d ∧ Legible d) ∧
    (∀ f, read source d = .error f ↔ Faulty source d f) ∧
    (∀ f : SchemaFault, read source d = .error (.schema f) → f.cause ≠ .unwritable ⟨⟩ →
      ∃ entries i e, HasRules d entries ∧
        Reached (fun e => (rawSchema e.2).IsSchema ∧ LegibleRule e) entries i e ∧
        (rawSchema e.2).FaultySchema (source ++ ": rule '" ++ e.1.display ++ "'") f ∧
        (CatalogFault.schema f).message = f.place ++ f.cause.message .empty) := by
  refine ⟨exists_read_iff, fun f => read_eq_error_iff, ?_⟩
  intro f h hform
  cases read_eq_error_iff.1 h with
  | rule hrules hi hfault =>
    cases hfault with
    | schema _ hschema => exact ⟨_, _, _, hrules, hi, hschema, message_of_schema hform⟩

/-- A document with a rule whose only option is a number. -/
def plainNumber : Datum := .map [(.text "rules", .map [(.text "semi", .list [.int 1])])]

theorem read_accepts_plainNumber :
    ∃ f, read "c.yml" plainNumber = .error (.schema f) ∧
      (CatalogFault.schema f).message =
        "c.yml: rule 'semi'[0]: option descriptor must be a mapping" := by
  have hread : read "c.yml" plainNumber =
      .error (.schema ⟨"c.yml: rule 'semi'[0]", .descriptorNotMapping⟩) := by
    rfl
  obtain ⟨-, -, -, -, -, -, hmessage⟩ := (read_accepts "c.yml" plainNumber).2.2 _ hread (by simp)
  exact ⟨_, hread, hmessage⟩

/-- An option with a number as its type. -/
def numbered (n : Int) : Datum := .map [(.text "type", .int n)]

/-- A document with one rule that has this option. -/
def numberedRule (n : Int) : Datum :=
  .map [(.text "rules", .map [(.text "a", .list [numbered n])])]

theorem isTyped_numbered (n : Int) : (numbered n).IsTyped := by
  refine ⟨rfl, ?_, ?_⟩
  · rintro (h | h) <;> cases h
  · intro e he
    cases he

theorem isDocument_numberedRule (n : Int) : IsDocument (numberedRule n) := by
  refine ⟨rfl, _, rfl, ?_⟩
  intro e he
  obtain rfl := List.mem_singleton.1 he
  refine .inr (.inr ⟨_, rfl, ?_⟩)
  intro item hitem
  obtain rfl := List.mem_singleton.1 hitem
  obtain ⟨hmap, -, hlacks⟩ := isTyped_numbered n
  exact ⟨hmap, .inr (.inr ⟨hlacks, fun hbad => by cases hbad.1⟩)⟩

theorem not_legible_numberedRule {n : Int} (h : isWritable n = false) :
    ¬Legible (numberedRule n) := by
  intro hlegible
  have hrule := hlegible [(.text "a", .list [numbered n])] rfl _ (List.mem_singleton_self _)
  have hoption := hrule.2 [numbered n] rfl _ (List.mem_singleton_self _)
  exact hoption (isTyped_numbered n) ((quotesTooLong_type_iff rfl).2 h)

/-- The least number that is too long keeps a document of the right form from being a catalog. -/
theorem numberedRule_refused : IsDocument (numberedRule (posPow 10 digitLimit)) ∧
    ∀ source c, read source (numberedRule (posPow 10 digitLimit)) ≠ .ok c := by
  refine ⟨isDocument_numberedRule _, fun source c h => ?_⟩
  obtain ⟨-, hlegible⟩ := exists_read_iff.1 ⟨c, h⟩
  exact not_legible_numberedRule isWritable_posPow hlegible

end Catalog

end RuleFit
