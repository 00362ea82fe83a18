import Mathlib.Data.List.Forall2
import RuleFit.Proofs.Objects
import RuleFit.Schema.Fit
import RuleFit.Schema.Reading

/-!
# Generated candidates fit

Candidates are generated from a schema and checked against it by two different readings of the same
descriptions: the one puts values one behind the other, the other looks for a way to follow the
descriptions in order. What is generated passes the check, up to values on which the two readings
part (`Schema.IsSound`):

- a plain option takes no mapping, and a not-a-number is equal to no listed value;
- a list behind the first option with values counts as its items when it is put behind a row, so it
  should have none, or one that the option takes;
- of properties with one name all are generated, and the last is checked.

**Theorem (`candidates_fit`).** Every candidate of a sound schema fits it.

A candidate fits when its options are, one by one, accepted by some of the descriptions in order
(`fits_iff`). One more description keeps the rows that fit, and a value that it accepts can be put
behind any of them (`follows_growRows`).
-/

namespace RuleFit

open List (SublistForall₂)

/-! ## Following the descriptions in order -/

/-- The options are accepted one by one by some of the descriptions, in order. -/
abbrev Follows (ds : List Descriptor) (os : List Datum) : Prop :=
  SublistForall₂ (fun o d => Descriptor.accepts d o = true) os ds

theorem fitsFrom_iff {ds : List Descriptor} {os : List Datum} :
    fitsFrom ds os = true ↔ Follows ds os := by
  induction ds generalizing os with
  | nil =>
    cases os with
    | nil => exact ⟨fun _ => .nil, fun _ => rfl⟩
    | cons o os =>
      constructor
      · intro h
        cases h
      · intro h
        cases h
  | cons d ds ih =>
    cases os with
    | nil => exact ⟨fun _ => .nil, fun _ => by simp [fitsFrom]⟩
    | cons o os =>
      rw [fitsFrom, Bool.or_eq_true, Bool.and_eq_true, ih, ih]
      constructor
      · rintro (⟨ho, hos⟩ | h)
        · exact .cons ho hos
        · exact .cons_right h
      · intro h
        cases h with
        | cons ho hos => exact .inl ⟨ho, hos⟩
        | cons_right h => exact .inr h

/-- Descriptions that are not supported accept nothing, so they can be left in. -/
theorem follows_filter {ds : List Descriptor} {os : List Datum} :
    Follows (ds.filter Descriptor.isSupported) os ↔ Follows ds os := by
  induction ds generalizing os with
  | nil => rfl
  | cons d ds ih =>
    cases os with
    | nil => exact ⟨fun _ => .nil, fun _ => .nil⟩
    | cons o os =>
      by_cases hd : d.isSupported = true
      · rw [List.filter_cons_of_pos hd]
        constructor
        · intro h
          cases h with
          | cons ho hos => exact .cons ho (ih.1 hos)
          | cons_right h => exact .cons_right (ih.1 h)
        · intro h
          cases h with
          | cons ho hos => exact .cons ho (ih.2 hos)
          | cons_right h => exact .cons_right (ih.2 h)
      · rw [List.filter_cons_of_neg hd, ih]
        refine ⟨.cons_right, fun h => ?_⟩
        cases h with
        | cons ho hos =>
          cases d with
          | unsupported reason => cases ho
          | plain domain => exact absurd rfl hd
          | object properties => exact absurd rfl hd
        | cons_right h => exact h

theorem fits_iff {schema : Schema} {c : Candidate} :
    schema.fits c = true ↔ Follows schema c.options :=
  fitsFrom_iff.trans follows_filter

theorem Follows.append {ds ds' : List Descriptor} {os os' : List Datum} (h : Follows ds os)
    (h' : Follows ds' os') : Follows (ds ++ ds') (os ++ os') := by
  obtain ⟨ms, hms, hsub⟩ := List.sublistForall₂_iff.1 h
  obtain ⟨ms', hms', hsub'⟩ := List.sublistForall₂_iff.1 h'
  exact List.sublistForall₂_iff.2 ⟨ms ++ ms', List.rel_append hms hms', hsub.append hsub'⟩

/-! ## Values that fit their own description -/

/-- Whether the values of an option are accepted by it. -/
def Descriptor.isSound : Descriptor → Bool
  | .plain (.enum values) => values.all fun v => !v.isMap && !v.isNan
  | .object properties =>
    properties.all fun p => p.2.values.all fun v =>
      (domainOf? properties (.text p.1)).any fun domain => listed domain.values v
  | .plain .boolean | .unsupported _ => true

/-- Whether every value of an option stands for nothing, or for one value that it accepts. -/
def Descriptor.isSoundSpliced (d : Descriptor) : Bool :=
  d.expanded.all fun v => decide (v.spliced.length ≤ 1) && v.spliced.all d.accepts

/-- The values of every option are accepted by it, and behind the first option that has any so is
what they stand for. -/
structure Schema.IsSound (schema : Schema) : Prop where
  values : ∀ d ∈ schema, d.isSound = true
  spliced : ∀ d ∈ (schema.dropWhile fun d => d.expanded.isEmpty).tail, d.isSoundSpliced = true

theorem listed_of_mem {values : List Datum} {v : Datum} (hv : v ∈ values)
    (hnan : v.isNan = false) : listed values v = true := by
  refine List.any_eq_true.2 ⟨v, hv, ?_⟩
  rw [Datum.sameTyped, Datum.eqv_refl hnan]
  simp

/-! ### Objects -/

/-- An entry that one of the properties gives. -/
def IsGiven (properties : List (Text × Domain)) (e : Datum × Datum) : Prop :=
  ∃ p ∈ properties, ∃ v ∈ p.2.values, e = (.text p.1, v)

theorem isGiven_of_mem_listings {properties : List (Text × Domain)} {e : Text × Datum}
    (h : e ∈ listings properties) : IsGiven properties (.text e.1, e.2) := by
  obtain ⟨p, hp, he⟩ := List.mem_flatMap.1 h
  obtain ⟨v, hv, rfl⟩ := List.mem_map.1 he
  exact ⟨p, hp, v, hv, rfl⟩

/-- Every entry of a generated object is given by one of the properties. -/
theorem isGiven_of_mem_objectsOf {properties : List (Text × Domain)} :
    ∀ o ∈ objectsOf properties, ∀ e ∈ o, IsGiven properties e := by
  intro o ho e he
  rw [objectsOf_eq, objectAxis] at ho
  split_ifs at ho
  · cases ho
  · obtain ⟨vs, hvs, rfl⟩ := List.mem_map.1 ho
    rw [mem_choices, List.forall₂_map_right_iff] at hvs
    rw [objectOf, List.zip_map_left] at he
    obtain ⟨⟨name, v⟩, hpair, rfl⟩ := List.mem_map.1 he
    have hlisted : v ∈ valuesUnder (listings properties) name :=
      (List.forall₂_iff_zip.1 hvs.flip).2 hpair
    exact isGiven_of_mem_listings (mem_valuesUnder.1 hlisted)

/-- An option accepts every value that it is expanded to. -/
theorem accepts_of_mem_expanded {d : Descriptor} (h : d.isSound = true) :
    ∀ v ∈ d.expanded, d.accepts v = true := by
  intro v hv
  cases d with
  | unsupported reason => cases hv
  | plain domain =>
    cases domain with
    | boolean => cases hv
    | enum values =>
      have hmem : v ∈ values := hv
      have hvalue := List.all_eq_true.1 h v hv
      rw [Bool.and_eq_true, Bool.not_eq_true', Bool.not_eq_true'] at hvalue
      rw [Descriptor.accepts, hvalue.1, Domain.values, listed_of_mem hmem hvalue.2]
      rfl
  | object properties =>
    obtain ⟨o, ho, rfl⟩ := List.mem_map.1 hv
    simp only [Descriptor.accepts, Datum.opened]
    refine List.all_eq_true.2 fun e he => ?_
    obtain ⟨p, hp, w, hw, rfl⟩ := isGiven_of_mem_objectsOf o ho e he
    have hlisted := List.all_eq_true.1 (List.all_eq_true.1 h p hp) w hw
    cases hdomain : domainOf? properties (.text p.1) with
    | none =>
      rw [hdomain] at hlisted
      cases hlisted
    | some domain =>
      rw [hdomain] at hlisted
      exact hlisted

/-! ## Rows -/

theorem follows_spliced {d : Descriptor} (h : d.isSoundSpliced = true) :
    ∀ v ∈ d.expanded, Follows [d] v.spliced := by
  intro v hv
  have hvalue := List.all_eq_true.1 h v hv
  rw [Bool.and_eq_true, decide_eq_true_iff, List.all_eq_true] at hvalue
  obtain ⟨hlength, hall⟩ := hvalue
  rcases hitems : v.spliced with _ | ⟨w, _ | ⟨x, rest⟩⟩
  · exact .nil
  · rw [hitems] at hall
    exact .cons (hall w List.mem_cons_self) .nil
  · rw [hitems] at hlength
    simp at hlength

/-- A description keeps the rows that follow those before it, and adds others that follow it too. -/
theorem follows_growRows {ds : List Descriptor} {d : Descriptor} {rows : List (List Datum)}
    (hd : d.isSound = true) (hspliced : rows ≠ [] → d.isSoundSpliced = true)
    (h : ∀ row ∈ rows, Follows ds row) :
    ∀ row ∈ growRows rows d.expanded, Follows (ds ++ [d]) row := by
  have hold : ∀ row ∈ rows, Follows (ds ++ [d]) row := by
    intro row hrow
    have hnil : Follows [d] [] := .nil
    have happend := (h row hrow).append hnil
    rwa [List.append_nil] at happend
  have hvalue : ∀ v ∈ d.expanded, Follows [d] [v] := fun v hv =>
    .cons (accepts_of_mem_expanded hd v hv) .nil
  intro row hrow
  unfold growRows at hrow
  split_ifs at hrow with hvalues
  · exact hold row hrow
  · rcases List.mem_append.1 hrow with hrow | hrow
    · exact hold row hrow
    · unfold combine at hrow
      split_ifs at hrow with hrows
      · -- The first option with values gives rows of one value each.
        obtain ⟨v, hv, rfl⟩ := List.mem_map.1 hrow
        exact Follows.append .nil (hvalue v hv)
      · obtain ⟨x, hx, hrow⟩ := List.mem_flatMap.1 hrow
        obtain ⟨v, hv, rfl⟩ := List.mem_map.1 hrow
        obtain ⟨old, hmem, rfl⟩ := List.mem_map.1 hx
        exact (h old hmem).append (follows_spliced (hspliced (List.ne_nil_of_mem hmem)) v hv)

/-- The same for the descriptions behind the first that gives rows. -/
theorem follows_foldl_growRows {ds : List Descriptor} {rows : List (List Datum)}
    {rest : List Descriptor} (hsound : ∀ d ∈ rest, d.isSound = true)
    (hspliced : ∀ d ∈ rest, d.isSoundSpliced = true) (h : ∀ row ∈ rows, Follows ds row) :
    ∀ row ∈ rest.foldl (fun rows d => growRows rows d.expanded) rows,
      Follows (ds ++ rest) row := by
  induction rest generalizing ds rows with
  | nil =>
    rw [List.append_nil]
    exact h
  | cons d rest ih =>
    obtain ⟨hd, hsound⟩ := List.forall_mem_cons.1 hsound
    obtain ⟨hdspliced, hspliced⟩ := List.forall_mem_cons.1 hspliced
    have hgrown := ih hsound hspliced (follows_growRows hd (fun _ => hdspliced) h)
    rw [List.append_assoc] at hgrown
    exact hgrown

theorem follows_of_mem_expand {schema : Schema} (h : schema.IsSound) :
    ∀ row ∈ schema.expand, Follows schema row := by
  induction schema with
  | nil =>
    intro row hrow
    cases hrow
  | cons d rest ih =>
    obtain ⟨hd, hrest⟩ := List.forall_mem_cons.1 h.values
    have hspliced := h.spliced
    rw [Schema.expand, List.foldl_cons]
    by_cases hvalues : d.expanded.isEmpty = true
    · -- There are no rows yet, so the next options are still the first.
      simp only [List.dropWhile_cons, hvalues, if_true] at hspliced
      rw [growRows, if_pos hvalues]
      exact fun row hrow => .cons_right (ih ⟨hrest, hspliced⟩ row hrow)
    · simp only [List.dropWhile_cons, hvalues, Bool.false_eq_true, if_false,
        List.tail_cons] at hspliced
      have hnone : ∀ row ∈ ([] : List (List Datum)), Follows [] row := by
        intro row hrow
        cases hrow
      have hfirst : ∀ row ∈ growRows [] d.expanded, Follows [d] row :=
        follows_growRows hd (fun hne => absurd rfl hne) hnone
      exact follows_foldl_growRows hrest hspliced hfirst

/-- **Every candidate of a sound schema fits it.** -/
theorem candidates_fit {schema : Schema} (h : schema.IsSound) (severity : Severity) :
    ∀ c ∈ schema.candidates severity, schema.fits c = true := by
  intro c hc
  rw [fits_iff]
  rcases List.mem_cons.1 hc with rfl | hc
  · exact .nil
  · obtain ⟨row, hrow, rfl⟩ := List.mem_map.1 hc
    exact follows_of_mem_expand h row hrow

/-- The theorem on an option with two values and an object. -/
theorem candidates_fit_semi :
    (Schema.candidates [.plain (.enum [.text "always", .text "never"]),
      .object [("before", .boolean), ("after", .enum [.int 1, .bool true])]] .error).all
        (Schema.fits [.plain (.enum [.text "always", .text "never"]),
          .object [("before", .boolean), ("after", .enum [.int 1, .bool true])]]) = true :=
  List.all_eq_true.2 (candidates_fit ⟨by decide, by decide⟩ .error)

/-- Something that is read as a schema, of which one candidate does not fit. -/
def HasMisfit (raw : Datum) : Prop :=
  ∃ schema, Schema.read "schema" raw = .ok schema ∧
    ∃ c ∈ schema.candidates .error, schema.fits c = false

/-- None of the conditions of a sound schema can be left out: a not-a-number, a mapping, a list
behind the first option, and two properties with one name. -/
theorem hasMisfit_of_each :
    HasMisfit (.list [.map [(.text "enum", .list [.float (.nan 0)])]]) ∧
    HasMisfit (.list [.map [(.text "enum", .list [.map [(.text "a", .int 1)]])]]) ∧
    HasMisfit (.list [.map [(.text "enum", .list [.text "a"])],
      .map [(.text "enum", .list [.list [.text "c"]])]]) ∧
    HasMisfit (.list [.map [(.text "type", .text "object"), (.text "properties",
      .map [(.bool true, .map [(.text "enum", .list [.text "x"])]),
        (.text "True", .map [(.text "enum", .list [.text "y"])])])]]) := by
  refine ⟨⟨_, rfl, ⟨.error, [.float (.nan 0)]⟩, by decide, by decide⟩,
    ⟨_, rfl, ⟨.error, [.map [(.text "a", .int 1)]]⟩, by decide, by decide⟩,
    ⟨_, rfl, ⟨.error, [.text "a", .text "c"]⟩, by decide, by decide⟩,
    ⟨_, rfl, ⟨.error, [.map [(.text "True", .text "x")]]⟩, by decide, by decide⟩⟩

end RuleFit
