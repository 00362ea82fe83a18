import RuleFit.Proofs.Enumeration
import RuleFit.Proofs.Partition

/-!
# How specific candidates are

A choice prefers candidates by their specificity, and only where a specificity belongs to a single
clean candidate. So what a rule is settled on depends on how many candidates of each specificity its
schema has.

- The plain candidate is the only one of specificity one, whatever the schema
  (`ofSpecificity_one_candidates`): every other row starts with a value of the first axis.
- Of a schema without lists, the candidates of specificity two are the values of the first axis, and
  the number of those of any higher specificity is a multiple of the number of these values
  (`length_ofSpecificity_candidates`).

**Theorem (`infer_settles_plain`).** A rule whose plain candidate is clean is settled. An unresolved
rule has at least two clean candidates, and neither a single one of specificity two nor of three.

**Theorem (`infer_uncontested`).** Where no diagnostic is for a rule that is tried, every rule that
is tried is settled on its plain candidate, or on the value of its first axis if that has only one
(`Schema.unopposed`).
-/

namespace RuleFit

/-! ## The plain candidate -/

theorem ofSpecificity_one_candidates (schema : Schema) (severity : Severity) :
    ofSpecificity 1 (schema.candidates severity) = [⟨severity, []⟩] := by
  have hrows : ofSpecificity 1 (schema.expand.map (Candidate.mk severity)) = [] := by
    refine List.filter_eq_nil_iff.2 fun c hc => ?_
    obtain ⟨row, hrow, rfl⟩ := List.mem_map.1 hc
    simpa [Candidate.specificity] using ne_nil_of_mem_expand hrow
  rw [Schema.candidates, ofSpecificity, List.filter_cons_of_pos (by rfl)]
  exact congrArg _ hrows

/-- Among clean candidates the plain one is still the only one of specificity one. -/
theorem ofSpecificity_one_cleanOf {schema : Schema} {severity : Severity} {n : Nat → Nat}
    (h : n 0 = 0) :
    ofSpecificity 1 (cleanOf (schema.candidates severity) n) = [⟨severity, []⟩] := by
  have hclean : (cleanOf (schema.candidates severity) n).Sublist (schema.candidates severity) := by
    simpa only [cleanOf_zero] using cleanOf_sublist (fun i => Nat.zero_le (n i)) _
  have hsub : (ofSpecificity 1 (cleanOf (schema.candidates severity) n)).Sublist
      [⟨severity, []⟩] := by
    rw [← ofSpecificity_one_candidates schema severity]
    exact hclean.filter _
  have hplain : ⟨severity, []⟩ ∈ ofSpecificity 1 (cleanOf (schema.candidates severity) n) :=
    List.mem_filter.2 ⟨mem_cleanOf.2 ⟨0, rfl, h⟩, by rfl⟩
  rcases List.sublist_singleton.1 hsub with hnil | hone
  · rw [hnil] at hplain
    cases hplain
  · exact hone

/-! ## Counting rows -/

/-- Of a flat schema's picks behind the first axis, one takes nothing. -/
theorem countP_rests_nil {xss : List (List Datum)} (h : IsFlat xss) :
    (rests xss).countP (fun row => decide (row.length = 0)) = 1 := by
  induction xss with
  | nil => simp [rests, optionalPicks, choices, Pick.spliced]
  | cons xs xss ih =>
    obtain ⟨hxs, hxss⟩ := List.forall_mem_cons.1 h
    rw [rests_cons_of_flat hxs, List.countP_append, ih hxss, List.countP_eq_zero.2]
    intro row hrow
    obtain ⟨x, -, hrow⟩ := List.mem_flatMap.1 hrow
    obtain ⟨rest, -, rfl⟩ := List.mem_map.1 hrow
    simp

/-- Rows start with a value of the first axis, and what comes behind it is the same for all of them.
-/
theorem countP_expand {schema : Schema} {xs : List Datum} {xss : List (List Datum)}
    (h : schema.axes = xs :: xss) (n : Nat) :
    schema.expand.countP (fun row => decide (row.length = n + 1)) =
      xs.length * (rests xss).countP fun row => decide (row.length = n) := by
  have hbehind : ∀ x : Datum,
      ((rests xss).map (x :: ·)).countP (fun row => decide (row.length = n + 1)) =
        (rests xss).countP fun row => decide (row.length = n) := by
    intro x
    simp [List.countP_map, Function.comp_def]
  rw [(expand_perm schema).countP_eq, h, map_row_picks, List.countP_flatMap]
  simp only [Function.comp_def, hbehind, List.map_const', List.sum_replicate, smul_eq_mul]

theorem length_ofSpecificity_candidates {schema : Schema} {xs : List Datum}
    {xss : List (List Datum)} (h : schema.axes = xs :: xss) (severity : Severity) (n : Nat) :
    (ofSpecificity (n + 2) (schema.candidates severity)).length =
      xs.length * (rests xss).countP fun row => decide (row.length = n) := by
  have hrow : ∀ row : List Datum, (Candidate.mk severity row).specificity = n + 2 ↔
      row.length = n + 1 := by
    intro row
    simp only [Candidate.specificity]
    omega
  rw [← countP_expand h, ofSpecificity, ← List.countP_eq_length_filter, Schema.candidates,
    List.countP_cons_of_neg (by simp [Candidate.specificity]), List.countP_map]
  simp only [Function.comp_def, hrow]

/-! ## The choice among all candidates -/

/-- A value of the first axis makes a row by itself. -/
theorem singleton_mem_expand {schema : Schema} {xs : List Datum} {xss : List (List Datum)}
    (h : schema.axes = xs :: xss) {v : Datum} (hv : v ∈ xs) : [v] ∈ schema.expand := by
  rw [(expand_perm schema).mem_iff, h, map_row_picks]
  exact List.mem_flatMap.2 ⟨v, hv, List.mem_map_of_mem (nil_mem_rests xss)⟩

/-- A schema with an axis has more candidates than the plain one. -/
theorem sole_candidates_eq_none {schema : Schema} {xs : List Datum} {xss : List (List Datum)}
    (h : schema.axes = xs :: xss) (severity : Severity) :
    sole (schema.candidates severity) = none := by
  have hxs : xs ≠ [] := ne_nil_of_mem_axes xs (h ▸ List.mem_cons_self)
  obtain ⟨v, hv⟩ := List.exists_mem_of_ne_nil xs hxs
  have hpos : 0 < schema.expand.length := List.length_pos_of_mem (singleton_mem_expand h hv)
  rw [sole_eq_none, Schema.candidates, List.length_cons, List.length_map]
  omega

/-- The candidate that a rule is settled on while none is found at fault: the value of the first
axis if there is only one, or else the plain candidate. -/
def Schema.unopposed (schema : Schema) (severity : Severity) : Candidate :=
  match schema.axes with
  | [v] :: _ => ⟨severity, [v]⟩
  | _ => ⟨severity, []⟩

theorem favourite_candidates {schema : Schema} (h : ∀ d ∈ schema, d.isFlat = true)
    (severity : Severity) :
    favourite (schema.candidates severity) = some (schema.unopposed severity) := by
  have hone : sole (ofSpecificity 1 (schema.candidates severity)) = some ⟨severity, []⟩ := by
    rw [ofSpecificity_one_candidates]
    rfl
  cases haxes : schema.axes with
  | nil =>
    have hplain : schema.candidates severity = [⟨severity, []⟩] := by
      rw [Schema.candidates, expand_eq_foldl, haxes]
      rfl
    rw [hplain, Schema.unopposed, haxes]
    rfl
  | cons xs xss =>
    have hflat : IsFlat xss := fun ys hys =>
      isFlat_axes h ys (haxes ▸ List.mem_cons_of_mem xs hys)
    have htwo : (ofSpecificity 2 (schema.candidates severity)).length = xs.length := by
      rw [length_ofSpecificity_candidates haxes, countP_rests_nil hflat, Nat.mul_one]
    rw [favourite, sole_candidates_eq_none haxes, Option.none_or]
    rcases xs with _ | ⟨v, _ | ⟨w, vs⟩⟩
    · exact absurd rfl (ne_nil_of_mem_axes [] (haxes ▸ List.mem_cons_self))
    · have hmem : ⟨severity, [v]⟩ ∈ ofSpecificity 2 (schema.candidates severity) := by
        have hrow : [v] ∈ schema.expand := singleton_mem_expand haxes (List.mem_singleton_self v)
        exact List.mem_filter.2 ⟨List.mem_cons_of_mem _ (List.mem_map_of_mem hrow), by rfl⟩
      obtain ⟨c, hc⟩ := List.length_eq_one_iff.1 htwo
      rw [hc, List.mem_singleton] at hmem
      rw [hc, ← hmem, Schema.unopposed, haxes]
      rfl
    · -- Two values or more: candidates of specificity three come in multiples of their number.
      have hthree : sole (ofSpecificity 3 (schema.candidates severity)) = none := by
        rw [sole_eq_none, length_ofSpecificity_candidates haxes]
        intro hlength
        simpa using Nat.eq_one_of_mul_eq_one_right hlength
      have htwo' : sole (ofSpecificity 2 (schema.candidates severity)) = none := by
        rw [sole_eq_none, htwo]
        simp
      rw [htwo', hthree, hone, Schema.unopposed, haxes]
      rfl

/-! ## Where the plain candidate is clean -/

/-- The candidates that a catalog generates. -/
abbrev Catalog.proposal (catalog : Catalog) : Proposal := ⟨some catalog, none⟩

section Run

variable {σ : Type} {engine : Engine σ} {state : σ} {catalog : Catalog} {s : Settings}
  {samples : List Sample}

theorem get?_candidates_catalog (severity : Severity) (id : Text) :
    (catalog.proposal.candidates severity).get? id =
      (catalog.schemas.get? id).map fun schema => schema.candidates severity :=
  RuleTable.get?_map ..

/-- A rule of a catalog that is tested has the candidates of its schema. -/
theorem exists_schema_of_tested {id : Text} {cs : List Candidate}
    (h : (catalog.proposal.tested s).get? id = some cs) :
    ∃ schema, catalog.schemas.get? id = some schema ∧ cs = schema.candidates s.severity := by
  have hcs := ((catalog.proposal.get?_tested s).1 h).1
  rw [get?_candidates_catalog, Option.map_eq_some_iff] at hcs
  obtain ⟨schema, hschema, rfl⟩ := hcs
  exact ⟨schema, hschema, rfl⟩

theorem get?_tested_catalog {id : Text} {schema : Schema}
    (hschema : catalog.schemas.get? id = some schema) (hdeny : id ∉ s.deny)
    (hcap : s.cap.admits (schema.candidates s.severity).length = true) :
    (catalog.proposal.tested s).get? id = some (schema.candidates s.severity) := by
  refine (Proposal.get?_tested _ s).2 ⟨?_, hdeny, hcap⟩
  rw [get?_candidates_catalog, hschema, Option.map_some]

/-- **A rule whose plain candidate is clean is settled.** -/
theorem infer_settles_plain (h : engine.AnswersOrFails) (state : σ) (catalog : Catalog)
    (hs : s.IsProper) (samples : List Sample) (start finish : Binary64) :
    let ps := engine.transcript state (catalog.proposal.turns s samples)
    ∃ finding,
      (infer engine state catalog.proposal s samples ⟨.float start, .float finish⟩).result =
        .ok finding ∧
      (infer engine state catalog.proposal s samples ⟨.float start, .float finish⟩).calls.toList =
        (catalog.proposal.turns s samples).map Turn.call ∧
      (∀ id schema, catalog.schemas.get? id = some schema → id ∉ s.deny →
        s.cap.admits (schema.candidates s.severity).length = true → diagnosed ps 0 id = 0 →
        finding.rules.contains id = true) ∧
      ∀ id ∈ finding.unresolved, ∃ schema, catalog.schemas.get? id = some schema ∧
        let clean := cleanOf (schema.candidates s.severity) fun i => diagnosed ps i id
        0 < diagnosed ps 0 id ∧ 2 ≤ clean.length ∧
          (ofSpecificity 2 clean).length ≠ 1 ∧ (ofSpecificity 3 clean).length ≠ 1 := by
  intro ps
  obtain ⟨finding, hresult, hcalls, hreflects⟩ :=
    infer_reflects h state (p := catalog.proposal) rfl hs samples start finish
  refine ⟨finding, hresult, hcalls, ?_, ?_⟩
  · intro id schema hschema hdeny hcap hplain
    rw [RuleTable.contains_eq_isSome, hreflects.get?_rules, get?_tested_catalog hschema hdeny hcap,
      Option.bind_some]
    refine isSome_favourite.2 (.inr ⟨1, by decide, ?_⟩)
    rw [ofSpecificity_one_cleanOf hplain]
    rfl
  · intro id hid
    obtain ⟨cs, htested, hclean, hopen⟩ := hreflects.mem_unresolved.1 hid
    obtain ⟨schema, hschema, rfl⟩ := exists_schema_of_tested htested
    obtain ⟨hseveral, htied⟩ := favourite_eq_none.1 hopen
    refine ⟨schema, hschema, ?_⟩
    intro clean
    have hsome : clean.length ≠ 0 := mt List.length_eq_zero_iff.1 hclean
    refine ⟨?_, (Nat.two_le_iff _).2 ⟨hsome, hseveral⟩, htied 2 (by decide), htied 3 (by decide)⟩
    rw [Nat.pos_iff_ne_zero]
    intro hplain
    refine htied 1 (by decide) ?_
    rw [ofSpecificity_one_cleanOf hplain]
    rfl

/-- Two rules that each take one of two words. -/
def wordRules : Catalog :=
  ⟨⟨[("semi", [.plain (.enum [.text "always", .text "never"])]),
    ("quotes", [.plain (.enum [.text "single", .text "double"])])], by decide⟩⟩

/-- Finds fault with `quotes` where it has no options. -/
def asksForQuotes (call : Call) : Reply :=
  .diagnostics (if ruleConfig? call.config "quotes" = some (.int 2) then [some "quotes"] else [])

/-- Of the two rules `semi` is settled, and `quotes`, whose plain candidate is at fault, is left
with two candidates of specificity two. -/
theorem infer_settles_plain_semi : ∃ finding,
    (infer (.stateless asksForQuotes) () wordRules.proposal {} [.readable "a.js" "x"]
      .stopped).result = .ok finding ∧
    finding.rules.contains "semi" = true ∧ ("quotes" : Text) ∈ finding.unresolved ∧
    0 < diagnosed (Engine.transcript (.stateless asksForQuotes) ()
      (wordRules.proposal.turns {} [.readable "a.js" "x"])) 0 "quotes" := by
  have hengine : (Engine.stateless asksForQuotes).AnswersOrFails := fun _ _ => rfl
  obtain ⟨finding, hresult, -, hsettled, hunresolved⟩ := infer_settles_plain hengine () wordRules
    (s := {}) ⟨rfl, rfl⟩ [.readable "a.js" "x"] (.zero false) (.zero false)
  have hquotes : ("quotes" : Text) ∈ finding.unresolved := by
    have hopen : ∃ f, (infer (.stateless asksForQuotes) () wordRules.proposal {}
        [.readable "a.js" "x"] .stopped).result = .ok f ∧ ("quotes" : Text) ∈ f.unresolved :=
      ⟨_, rfl, by decide⟩
    obtain ⟨f, hf, hmem⟩ := hopen
    rw [Except.ok.inj (hresult.symm.trans hf)]
    exact hmem
  obtain ⟨schema, -, hdiagnosed, -⟩ := hunresolved "quotes" hquotes
  exact ⟨finding, hresult, hsettled "semi" _ rfl (by decide) (by decide) (by decide), hquotes,
    hdiagnosed⟩

/-! ## Where no candidate is found at fault -/

/-- A diagnostic that is for no rule of its round counts for no candidate that is tested. -/
theorem diagnosed_eq_zero_of_concerns {t : RuleTable (List Candidate)} {base : List (Datum × Datum)}
    {ps : List (Turn × Reply)} (hps : ∀ q ∈ ps, q.1.round ∈ rounds base t.columns)
    (h : ∀ q ∈ ps, ∀ d ∈ q.2.found, q.1.round.concerns d = false) {id : Text}
    {cs : List Candidate} (hcs : t.get? id = some cs) {i : Nat} (hi : i < cs.length) :
    diagnosed ps i id = 0 := by
  rw [← charges_eq_diagnosed_of_get? hps hcs hi]
  refine List.sum_eq_zero fun n hn => ?_
  obtain ⟨q, hq, rfl⟩ := List.mem_map.1 hn
  refine ite_eq_right_iff.2 fun ⟨_, hid⟩ => List.count_eq_zero.2 fun hd => ?_
  have hforeign := h q hq (some id) hd
  rw [Round.concerns, hid] at hforeign
  cases hforeign

section Uncontested

variable (h : ∀ q ∈ engine.transcript state (catalog.proposal.turns s samples),
  ∀ d ∈ q.2.found, q.1.round.concerns d = false)

include h

theorem cleanOf_uncontested {id : Text} {cs : List Candidate}
    (htested : (catalog.proposal.tested s).get? id = some cs) :
    cleanOf cs (fun i =>
      diagnosed (engine.transcript state (catalog.proposal.turns s samples)) i id) = cs := by
  have hzero : ∀ i < cs.length,
      diagnosed (engine.transcript state (catalog.proposal.turns s samples)) i id = 0 :=
    fun i hi => diagnosed_eq_zero_of_concerns
      (fun _ hq => engine.round_mem_of_mem_transcript hq) h htested hi
  rw [cleanOf_congr hzero, cleanOf_zero]

/-- **Where no diagnostic is for a rule that is tried, every rule that is tried is settled.** -/
theorem infer_uncontested (hs : s.IsProper)
    (hflat : ∀ r ∈ catalog.schemas.rows, ∀ d ∈ r.2, d.isFlat = true) (start finish : Binary64) :
    ((∃ finding, (infer engine state catalog.proposal s samples
        ⟨.float start, .float finish⟩).result = .ok finding) ↔
      ∀ q ∈ engine.transcript state (catalog.proposal.turns s samples), q.2.fault? = none) ∧
    ∀ finding, (infer engine state catalog.proposal s samples
        ⟨.float start, .float finish⟩).result = .ok finding →
      finding.dropped = [] ∧ finding.unresolved = [] ∧
      ∀ id schema, catalog.schemas.get? id = some schema → id ∉ s.deny →
        s.cap.admits (schema.candidates s.severity).length = true →
        finding.rules.get? id = some (schema.unopposed s.severity) := by
  have hends : (∃ finding, (infer engine state catalog.proposal s samples
      ⟨.float start, .float finish⟩).result = .ok finding) ↔
      ∀ q ∈ engine.transcript state (catalog.proposal.turns s samples), q.2.fault? = none :=
    infer_isOk_iff (p := catalog.proposal) rfl hs start finish
  refine ⟨hends, fun finding hfinding => ?_⟩
  obtain ⟨f, hf, -, hreflects⟩ := infer_reflects_of_settled state (p := catalog.proposal) rfl hs
    samples (hends.1 ⟨finding, hfinding⟩) start finish
  obtain rfl : f = finding := Except.ok.inj (hf.symm.trans hfinding)
  have hfavourite : ∀ {id schema}, catalog.schemas.get? id = some schema →
      favourite (schema.candidates s.severity) = some (schema.unopposed s.severity) :=
    fun hschema => favourite_candidates (hflat _ (RuleTable.get?_eq_some_iff.1 hschema)) s.severity
  refine ⟨?_, ?_, ?_⟩
  · refine List.eq_nil_iff_forall_not_mem.2 fun id hid => ?_
    obtain ⟨cs, htested, hclean⟩ := hreflects.mem_dropped.1 hid
    obtain ⟨schema, -, rfl⟩ := exists_schema_of_tested htested
    rw [cleanOf_uncontested h htested] at hclean
    cases hclean
  · refine List.eq_nil_iff_forall_not_mem.2 fun id hid => ?_
    obtain ⟨cs, htested, -, hopen⟩ := hreflects.mem_unresolved.1 hid
    obtain ⟨schema, hschema, rfl⟩ := exists_schema_of_tested htested
    rw [cleanOf_uncontested h htested, hfavourite hschema] at hopen
    cases hopen
  · intro id schema hschema hdeny hcap
    have htested := get?_tested_catalog hschema hdeny hcap
    rw [hreflects.get?_rules, htested, Option.bind_some, cleanOf_uncontested h htested,
      hfavourite hschema]

end Uncontested

end Run

/-- Fails on an empty text, and else finds fault with rules that are not tried only. -/
def offTopic (call : Call) : Reply :=
  if call.source.isEmpty then .failed "nothing to parse" else .diagnostics [none, some "no-undef"]

/-- Two rules: `eqeqeq` takes the word `smart` or an object, and `semi` takes one of two words. -/
def equalityRules : Catalog :=
  ⟨⟨[("eqeqeq", [.plain (.enum []), .plain (.enum [.text "smart"]),
      .object [("null", .enum [.text "ignore", .text "never"])]]),
    ("semi", [.plain (.enum [.text "always", .text "never"])])], by decide⟩⟩

/-- The first option of `eqeqeq` has one value and is preferred to the plain candidate; with two
values, as of `semi`, it is not. -/
theorem infer_uncontested_eqeqeq : ∃ finding,
    (infer (.stateless offTopic) () equalityRules.proposal {}
      [.readable "a.js" "x", .readable "b.js" ""] .stopped).result = .ok finding ∧
    finding.dropped = [] ∧ finding.unresolved = [] ∧
    finding.rules.get? "eqeqeq" = some ⟨.error, [.text "smart"]⟩ ∧
    finding.rules.get? "semi" = some ⟨.error, []⟩ := by
  have hforeign : ∀ q ∈ Engine.transcript (.stateless offTopic) ()
      (equalityRules.proposal.turns {} [.readable "a.js" "x", .readable "b.js" ""]),
      ∀ d ∈ q.2.found, q.1.round.concerns d = false := by decide
  obtain ⟨hends, hfinding⟩ :=
    infer_uncontested hforeign ⟨rfl, rfl⟩ (by decide) (.zero false) (.zero false)
  obtain ⟨finding, hresult⟩ := hends.2 (by decide)
  obtain ⟨hdropped, hunresolved, hrules⟩ := hfinding finding hresult
  exact ⟨finding, hresult, hdropped, hunresolved,
    hrules "eqeqeq" _ rfl (by decide) (by decide), hrules "semi" _ rfl (by decide) (by decide)⟩

end RuleFit
