import RuleFit.Proofs.Generation
import RuleFit.Proofs.Log
import RuleFit.Proofs.Rejection

/-!
# Candidates given back

The candidates to try can be generated from a catalog, or they can be given beside it, and then each
is held against the schema of its rule first. Whoever gives the candidates that the catalog would
generate should see no difference. There could be one: the check reads the descriptions in its own
way (`Schema.IsSound`), and denied rules are left out of given candidates at another place.

A catalog is *scalar* when every value that it lists has no parts and is equal to itself, and the
properties of each of its objects have different names.

**Theorem (`infer_generated`).** For a scalar catalog, its own candidates pass the check, and giving
them beside the catalog leads to an inference that agrees with the one from the catalog alone.

A scalar stands for itself behind a row and a name belongs to one domain, so scalar schemas are
sound (`isSound_of_isScalar`) and nothing is rejected (`misfit?_candidates`). Both ways then lead to
the same board, whose events are all that can differ.
-/

namespace RuleFit

/-! ## Scalar catalogs -/

/-- Whether a value has no parts. -/
def Datum.isScalar : Datum → Bool
  | .null | .bool _ | .int _ | .float _ | .text _ | .bytes _ | .moment _ => true
  | .list _ | .tuple _ | .set _ | .map _ | .knot .. | .cell _ => false

/-- Whether the values are scalars, and every one is equal to itself. -/
def Domain.isScalar (domain : Domain) : Bool :=
  domain.values.all fun v => v.isScalar && !v.isNan

def Descriptor.isScalar : Descriptor → Bool
  | .plain domain => domain.isScalar
  | .object properties =>
    (properties.all fun p => p.2.isScalar) && decide (properties.map Prod.fst).Nodup
  | .unsupported _ => true

def Schema.isScalar (schema : Schema) : Bool := schema.all Descriptor.isScalar

def Catalog.isScalar (c : Catalog) : Bool := c.schemas.rows.all fun r => r.2.isScalar

/-! ## Scalar schemas are sound -/

theorem Datum.isMap_of_isScalar {v : Datum} (h : v.isScalar = true) : v.isMap = false := by
  cases v <;> first | rfl | cases h

theorem Datum.spliced_of_isScalar {v : Datum} (h : v.isScalar = true) : v.spliced = [v] := by
  cases v <;> first | rfl | cases h

section Domains

variable {domain : Domain} (h : domain.isScalar = true) {v : Datum} (hv : v ∈ domain.values)

include h hv

theorem Domain.isScalar_of_mem : v.isScalar = true ∧ v.isNan = false := by
  have hvalue := List.all_eq_true.1 h v hv
  rwa [Bool.and_eq_true, Bool.not_eq_true'] at hvalue

theorem Domain.listed_of_isScalar : listed domain.values v = true :=
  listed_of_mem hv (isScalar_of_mem h hv).2

end Domains

/-- Among properties with different names each is found by its own. -/
theorem domainOf?_of_mem {properties : List (Text × Domain)}
    (h : (properties.map Prod.fst).Nodup) {p : Text × Domain} (hp : p ∈ properties) :
    domainOf? properties (.text p.1) = some p.2 := by
  have hnodup : (properties.reverse.map Prod.fst).Nodup := by
    rw [List.map_reverse, List.nodup_reverse]
    exact h
  have hname : ∀ q : Text × Domain, (Datum.text q.1).eqv (.text p.1) = (q.1 == p.1) := by
    intro q
    simp [Datum.eqv]
  have hget : (⟨properties.reverse, hnodup⟩ : RuleTable Domain).get? p.1 = some p.2 :=
    RuleTable.get?_eq_some_iff.2 (List.mem_reverse.2 hp)
  simp only [domainOf?, hname]
  exact hget

namespace Descriptor

variable {d : Descriptor}

theorem isSound_of_isScalar (h : d.isScalar = true) : d.isSound = true := by
  cases d with
  | unsupported reason => rfl
  | plain domain =>
    cases domain with
    | boolean => rfl
    | enum values =>
      refine List.all_eq_true.2 fun v hv => ?_
      obtain ⟨hscalar, hnan⟩ := Domain.isScalar_of_mem h hv
      rw [Datum.isMap_of_isScalar hscalar, hnan]
      rfl
  | object properties =>
    rw [isScalar, Bool.and_eq_true, List.all_eq_true, decide_eq_true_iff] at h
    obtain ⟨hdomains, hnames⟩ := h
    refine List.all_eq_true.2 fun p hp => List.all_eq_true.2 fun v hv => ?_
    rw [domainOf?_of_mem hnames hp]
    exact Domain.listed_of_isScalar (hdomains p hp) hv

/-- Scalars and objects are put behind a row as they are. -/
theorem spliced_of_mem_expanded (h : d.isScalar = true) {v : Datum} (hv : v ∈ d.expanded) :
    v.spliced = [v] := by
  cases d with
  | unsupported reason => cases hv
  | plain domain =>
    cases domain with
    | boolean => cases hv
    | enum values => exact Datum.spliced_of_isScalar (Domain.isScalar_of_mem h hv).1
  | object properties =>
    obtain ⟨o, -, rfl⟩ := List.mem_map.1 hv
    rfl

theorem isSoundSpliced_of_isScalar (h : d.isScalar = true) : d.isSoundSpliced = true := by
  refine List.all_eq_true.2 fun v hv => ?_
  rw [spliced_of_mem_expanded h hv, Bool.and_eq_true, decide_eq_true_iff]
  refine ⟨le_refl 1, List.all_eq_true.2 fun w hw => ?_⟩
  rw [List.mem_singleton.1 hw]
  exact accepts_of_mem_expanded (isSound_of_isScalar h) v hv

end Descriptor

namespace Schema

variable {schema : Schema}

theorem isSound_of_isScalar (h : schema.isScalar = true) : schema.IsSound where
  values d hd := Descriptor.isSound_of_isScalar (List.all_eq_true.1 h d hd)
  spliced d hd :=
    have hmem : d ∈ schema := (List.dropWhile_sublist _).mem (List.mem_of_mem_tail hd)
    Descriptor.isSoundSpliced_of_isScalar (List.all_eq_true.1 h d hmem)

theorem fits_of_isScalar (h : schema.isScalar = true) {severity : Severity} {c : Candidate}
    (hc : c ∈ schema.candidates severity) : schema.fits c = true := by
  rw [fits_iff]
  rcases List.mem_cons.1 hc with rfl | hc
  · exact .nil
  · obtain ⟨row, hrow, rfl⟩ := List.mem_map.1 hc
    exact follows_of_mem_expand (isSound_of_isScalar h) row hrow

end Schema

/-! ## Both ways lead to one board -/

namespace Catalog

variable (c : Catalog) (deny : List Text) (severity : Severity)

theorem get?_candidates (id : Text) : (c.candidates deny severity).get? id =
    if deny.contains id then none
    else (c.schemas.get? id).map fun schema => schema.candidates severity := by
  rw [candidates, RuleTable.get?_filterMap]
  cases c.schemas.get? id <;> cases deny.contains id <;> rfl

/-- The candidates of a scalar catalog all pass its check. -/
theorem misfit?_candidates {c : Catalog} (h : c.isScalar = true) :
    misfit? (c.candidates deny severity) c = none := by
  refine misfit?_eq_none_iff.2 ?_
  rintro id cs hcs candidate hc ⟨schema, hschema, hmisfit⟩
  rw [get?_candidates, hschema] at hcs
  split_ifs at hcs
  cases hcs
  have hscalar := List.all_eq_true.1 h _ (RuleTable.get?_eq_some_iff.1 hschema)
  have hfits := Schema.fits_of_isScalar hscalar hc
  cases hmisfit.symm.trans hfits

/-- Denied rules are left out only once. -/
theorem filter_candidates : (c.candidates deny severity).filter (fun id _ => !deny.contains id) =
    c.candidates deny severity := by
  rw [Proposal.candidates_catalog, RuleTable.filter_filter]
  simp only [Bool.and_self]

end Catalog

/-! ## The run -/

/-- **Candidates that a scalar catalog generates can be given beside it without a difference.** -/
theorem infer_generated {catalog : Catalog} (h : catalog.isScalar = true) {σ : Type}
    (engine : Engine σ) (state : σ) (s : Settings) (samples : List Sample)
    (start finish start' finish' : Binary64) :
    misfit? (catalog.candidates s.deny s.severity) catalog = none ∧
      (infer engine state ⟨some catalog, some (catalog.candidates s.deny s.severity)⟩ s samples
          ⟨.float start, .float finish⟩).Agrees
        (infer engine state ⟨some catalog, none⟩ s samples ⟨.float start', .float finish'⟩) := by
  have hmisfit := Catalog.misfit?_candidates s.deny s.severity h
  have hgiven : Proposal.board ⟨some catalog, some (catalog.candidates s.deny s.severity)⟩ s =
      .ok (.ofCandidates (catalog.candidates s.deny s.severity), []) := by
    simp only [Proposal.board, Option.bind_some, hmisfit, Catalog.filter_candidates]
  exact ⟨hmisfit, infer_congr engine state hgiven rfl samples start finish start' finish'⟩

/-- The options of three rules, one of them without any. -/
def scalarCatalog : Catalog where
  schemas := ⟨[
    ("semi", [.plain (.enum [.text "always", .text "never"]),
      .object [("omitLastInOneLineBlock", .boolean), ("beforeStatement", .enum [.null, .int 1])]]),
    ("quotes", [.unsupported "anyOf is not expanded", .plain (.enum [.bool true, .int 1])]),
    ("no-tabs", [])], by decide⟩

/-- One of the rules is denied, and the first call of the engine fails. -/
theorem infer_generated_semi :
    misfit? (scalarCatalog.candidates ["no-tabs"] .error) scalarCatalog = none ∧
      (infer lateStarter 0 ⟨some scalarCatalog, some (scalarCatalog.candidates ["no-tabs"] .error)⟩
          { deny := ["no-tabs"] } [.readable "a.js" "x"] .stopped).Agrees
        (infer lateStarter 0 ⟨some scalarCatalog, none⟩ { deny := ["no-tabs"] }
          [.readable "a.js" "x"] .stopped) :=
  infer_generated (by decide) lateStarter 0 { deny := ["no-tabs"] } [.readable "a.js" "x"]
    (.zero false) (.zero false) (.zero false) (.zero false)

end RuleFit
