import RuleFit.Proofs.Specificity

/-!
# How many candidates there are

The number of candidates decides whether a rule is tried at all, and it is known before they are
made. The *size* of an option is the number of its values, for an object the product over its names
of what is listed under each (`Descriptor.size`). Options of size zero change nothing. The first
other one gives as many rows as its size, and every further one of size `n` makes `1 + n` rows of
each row there is.

**Theorem (`candidates_counted`).** Whatever its values, a schema with the sizes `n₁, …, nₘ` other
than zero has `1 + n₁ * (1 + n₂) * ⋯ * (1 + nₘ)` candidates, and without such sizes it has one. In
an inference from a catalog, a rule that is not denied is untested exactly if this number is above
the cap.

The proof counts the picks that the rows are made from (`expand_perm`). Two picks that make the same
row are two rows, so the values do not matter, only how many there are.
-/

namespace RuleFit

/-! ## Sizes -/

/-- The names of the properties that have values, each once. -/
def valuedNames (properties : List (Text × Domain)) : List Text :=
  ((valued properties).map Prod.fst).eraseDups

/-- How many values the properties of a name list together. -/
def countUnder (properties : List (Text × Domain)) (name : Text) : Nat :=
  ((properties.filter fun p => decide (p.1 = name)).map fun p => p.2.values.length).sum

/-- How many values an option takes its place in candidates with. -/
def Descriptor.size : Descriptor → Nat
  | .plain (.enum values) => values.length
  | .object properties =>
    if (valuedNames properties).isEmpty then 0
    else ((valuedNames properties).map (countUnder properties)).prod
  | .plain .boolean | .unsupported _ => 0

/-- The sizes of the options that are not zero, in order. -/
def Schema.sizes (schema : Schema) : List Nat :=
  (schema.map Descriptor.size).filter fun n => decide (n ≠ 0)

/-- The number of candidates, by the sizes of the options. -/
def Schema.candidateCount (schema : Schema) : Nat :=
  match schema.sizes with
  | [] => 1
  | n :: rest => 1 + n * (rest.map (1 + ·)).prod

/-- The size of an option is the length of its axis. -/
theorem length_axis (d : Descriptor) : d.axis.length = d.size := by
  cases d with
  | unsupported reason => rfl
  | plain domain => cases domain <;> rfl
  | object properties =>
    have hunder : ∀ name, (valuesUnder (listings properties) name).length =
        countUnder properties name := by
      intro name
      rw [valuesUnder_listings, List.length_flatMap, countUnder]
    rw [Descriptor.axis, Descriptor.size, List.length_map, objectAxis, names_listings,
      ← valuedNames]
    split_ifs
    · rfl
    · simp only [List.length_map, length_choices, List.map_map, Function.comp_def, hunder]

theorem sizes_eq (schema : Schema) : schema.sizes = schema.axes.map List.length := by
  rw [Schema.sizes, Schema.axes, List.filter_map, List.filter_map, List.map_map]
  have hlength : List.length ∘ Descriptor.axis = Descriptor.size := funext length_axis
  rw [hlength]
  congr 1
  apply List.filter_congr
  intro d _
  rw [Function.comp_apply, Function.comp_apply, ← length_axis]
  cases d.axis <;> simp

/-! ## Rows -/

/-- Each axis multiplies what comes behind by one more than its length. -/
theorem length_rests (xss : List (List Datum)) :
    (rests xss).length = (xss.map fun xs => 1 + xs.length).prod := by
  induction xss with
  | nil => simp [rests, optionalPicks, choices]
  | cons xs xss ih =>
    rw [rests_cons, List.length_append, length_flatMap_map, ih, List.map_cons, List.prod_cons]
    ring

theorem length_candidates (schema : Schema) (severity : Severity) :
    (schema.candidates severity).length = schema.candidateCount := by
  rw [Schema.candidates, List.length_cons, List.length_map, (expand_perm schema).length_eq,
    Schema.candidateCount, sizes_eq]
  cases haxes : schema.axes with
  | nil => rfl
  | cons xs xss =>
    rw [map_row_picks, length_flatMap_map, length_rests, List.map_cons, Nat.add_comm]
    simp only [List.map_map, Function.comp_def]

/-! ## Rules that are not tested -/

/-- **The number of candidates of a schema, and the rules that have too many.** -/
theorem candidates_counted (schema : Schema) (severity : Severity) :
    (schema.candidates severity).length = schema.candidateCount ∧
    ∀ {σ : Type} (engine : Engine σ) (state : σ) (catalog : Catalog) (s : Settings)
      (samples : List Sample),
      (s.IsProper → ∀ start finish,
        ((∃ finding, (infer engine state catalog.proposal s samples
            ⟨.float start, .float finish⟩).result = .ok finding) ↔
          ∀ q ∈ engine.transcript state (catalog.proposal.turns s samples), q.2.fault? = none)) ∧
      ∀ clock finding, (infer engine state catalog.proposal s samples clock).result = .ok finding →
        ∀ id, catalog.schemas.get? id = some schema → id ∉ s.deny →
          (id ∈ finding.untested ↔ s.cap.excludes schema.candidateCount = true) ∧
          ∀ n, s.cap = .whole n → (id ∈ finding.untested ↔ n < schema.candidateCount) := by
  refine ⟨length_candidates schema severity, ?_⟩
  intro σ engine state catalog s samples
  refine ⟨fun hs start finish => infer_isOk_iff (p := catalog.proposal) rfl hs start finish, ?_⟩
  intro clock finding hfinding id hschema hdeny
  obtain ⟨base, n, tally, ruleSets, elapsed, rfl, -⟩ := infer_of_ok hfinding
  have hcandidates : (catalog.proposal.candidates s.severity).get? id =
      some (schema.candidates s.severity) := by
    rw [get?_candidates_catalog, hschema, Option.map_some]
  have huntested : id ∈ (catalog.proposal.undenied s).untestable s.cap.excludes ↔
      s.cap.excludes schema.candidateCount = true := by
    rw [Proposal.mem_untestable_undenied, hcandidates, ← length_candidates schema s.severity]
    simp [hdeny]
  refine ⟨huntested, ?_⟩
  intro n hcap
  apply huntested.trans
  rw [hcap]
  exact decide_eq_true_iff

/-- Two rules. Of the options of `indent` three have values: an enumeration of two, one of them a
list, an object with three values listed under one name, and an enumeration of one. -/
def indentRules : Catalog :=
  ⟨⟨[("semi", [.plain (.enum (List.replicate 15 (.text "always")))]),
    ("indent", [.plain (.enum []), .plain (.enum [.text "tab", .list [.int 2, .int 4]]),
      .unsupported "oneOf is not supported",
      .object [("case", .boolean), ("body", .enum []), ("case", .enum [.int 1])],
      .plain .boolean, .plain (.enum [.text "tab"])])], by decide⟩⟩

/-- Of the two rules `semi` has 16 candidates, as many as the cap, and `indent` has one more. -/
theorem candidates_counted_indent :
    let inference := infer (.stateless fun _ => .failed "nothing to parse") ()
      indentRules.proposal {} [.readable "a.js" "x"] .stopped
    ∃ finding, inference.result = .ok finding ∧
      ("indent" : Text) ∈ finding.untested ∧ ("semi" : Text) ∉ finding.untested := by
  intro inference
  obtain ⟨finding, hfinding⟩ : ∃ finding, inference.result = .ok finding := ⟨_, rfl⟩
  have huntested : ∀ id schema, indentRules.schemas.get? id = some schema →
      (id ∈ finding.untested ↔ (16 : Int) < schema.candidateCount) := by
    intro id schema hschema
    exact (((candidates_counted schema .error).2 _ _ _ _ _).2 _ finding hfinding id hschema
      List.not_mem_nil).2 16 rfl
  exact ⟨finding, hfinding, (huntested "indent" _ rfl).2 (by decide),
    mt (huntested "semi" _ rfl).1 (by decide)⟩

end RuleFit
