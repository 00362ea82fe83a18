import RuleFit.Proofs.Batching

/-!
# The order of rules and samples

The finding of an inference is about every rule for itself and about all samples together, so it
should not depend on the order in which either come. An engine could make it so, by a state that it
keeps or by a look at the order of the rules in a configuration; it is *order-free* when it does
neither, and then what comes of a call depends on the source text and on the configuration as a
mapping.

**Theorem (`infer_reordered`).** For an order-free engine, rules in another order and samples in
another order lead to the same verdict on every rule, and to the same counts.

Round `i` of tables with the same rows in any order holds the same rules with the same candidates,
so its configurations differ in order only. What is *heard* in a turn is the number of its round and
what came of the call: over all turns the two inferences hear the same things in some order
(`heard_perm`), and verdicts and counts are sums over what is heard.
-/

namespace RuleFit

/-! ## Engines that take no account of the order -/

/-- What comes of a reply that does not end a trial: diagnostics, or nothing but a failure. -/
def Reply.Yields : Reply → Option (List Diagnostic) → Prop
  | .diagnostics ds, outcome => outcome = some ds
  | .failed _, outcome => outcome = none
  | .missing, _ | .broken .., _ => False

namespace Reply.Yields

variable {r : Reply} {outcome : Option (List Diagnostic)}

theorem found (h : r.Yields outcome) : r.found = outcome.getD [] := by
  cases r with
  | diagnostics ds => rw [show outcome = some ds from h]; rfl
  | failed message => rw [show outcome = none from h]; rfl
  | missing => cases h
  | broken ds message => cases h

theorem isFailed (h : r.Yields outcome) : r.isFailed = outcome.isNone := by
  cases r with
  | diagnostics ds => rw [show outcome = some ds from h]; rfl
  | failed message => rw [show outcome = none from h]; rfl
  | missing => cases h
  | broken ds message => cases h

theorem fault? (h : r.Yields outcome) : r.fault? = none := by
  cases r with
  | diagnostics ds => rfl
  | failed message => rfl
  | missing => cases h
  | broken ds message => cases h

end Reply.Yields

/-- Every call is answered or fails, and which of both and how depends on the source text and on the
configuration without the order of its rules. -/
structure Engine.IsOrderFree {σ : Type} (engine : Engine σ)
    (outcome : Call → Option (List Diagnostic)) : Prop where
  verify : ∀ s c, (engine.verify s c).1.Yields (outcome c)
  order : ∀ source base (rules rules' : RuleSet), rules.rows.Perm rules'.rows →
    outcome ⟨source, lintConfig base rules⟩ = outcome ⟨source, lintConfig base rules'⟩

/-! ## What is heard -/

/-- The number of the round of a turn, and what comes of its call. -/
def heard (outcome : Call → Option (List Diagnostic)) (turn : Turn) :
    Nat × Option (List Diagnostic) :=
  (turn.round.position, outcome turn.call)

section Heard

variable {σ : Type} {engine : Engine σ} {outcome : Call → Option (List Diagnostic)}
  (h : engine.IsOrderFree outcome)

include h

theorem Engine.IsOrderFree.answersOrFails : engine.AnswersOrFails :=
  fun s c => (h.verify s c).fault?

/-- The diagnostics for a rule in a round are a sum over what is heard. -/
theorem diagnosed_eq_sum_heard (state : σ) (ts : List Turn) (i : Nat) (id : Text) :
    diagnosed (engine.transcript state ts) i id =
      ((ts.map (heard outcome)).map fun o =>
        if o.1 = i then (o.2.getD []).count (some id) else 0).sum := by
  rw [diagnosed, List.map_map]
  refine congrArg List.sum (engine.map_transcript (fun s turn => ?_) state ts)
  rw [(h.verify s turn.call).found]
  rfl

theorem countP_isFailed_eq_heard (state : σ) (ts : List Turn) :
    ((engine.transcript state ts).countP fun p => p.2.isFailed) =
      (ts.map (heard outcome)).countP fun o => o.2.isNone := by
  have hmap : (engine.transcript state ts).map (fun p => p.2.isFailed) =
      ts.map fun turn => (heard outcome turn).2.isNone :=
    engine.map_transcript (fun s turn => (h.verify s turn.call).isFailed) state ts
  have hcount := congrArg (List.countP id) hmap
  rw [List.countP_map, List.countP_map] at hcount
  rw [List.countP_map]
  exact hcount

/-- Rules and samples in another order make the same things heard, in another order. -/
theorem heard_perm {t u : RuleTable (List Candidate)} (ht : t.rows.Perm u.rows)
    {samples samples' : List Sample} (hs : samples.Perm samples') (base : List (Datum × Datum)) :
    ((turns (rounds base t.columns) samples).map (heard outcome)).Perm
      ((turns (rounds base u.columns) samples').map (heard outcome)) := by
  have hround : ∀ source, (rounds base t.columns).map (fun r => heard outcome ⟨r, source⟩) =
      (rounds base u.columns).map fun r => heard outcome ⟨r, source⟩ := by
    intro source
    rw [rounds_columns, rounds_columns, RuleTable.height_eq_of_perm ht, List.map_map, List.map_map]
    refine List.map_congr_left fun i _ => ?_
    have hcolumn : (t.column i).rows.Perm (u.column i).rows := RuleTable.perm_filterMap ht _
    exact congrArg (Prod.mk i) (h.order source base _ _ hcolumn)
  have hsample : ∀ sample : Sample, (sample.turns (rounds base t.columns)).map (heard outcome) =
      (sample.turns (rounds base u.columns)).map (heard outcome) := by
    intro sample
    cases sample with
    | unreadable file cause => rfl
    | readable file source =>
      simp only [Sample.turns, List.map_map]
      exact hround source
  rw [turns, turns, List.map_flatMap, List.map_flatMap, funext hsample]
  exact hs.flatMap_right _

end Heard

/-! ## The run -/

/-- **For an order-free engine, neither the order of the rules nor that of the samples makes a
difference to the finding.** -/
theorem infer_reordered {σ : Type} {engine : Engine σ} {outcome : Call → Option (List Diagnostic)}
    (h : engine.IsOrderFree outcome) {p q : Proposal} (hp : p.IsSingle) (hq : q.IsSingle)
    {s : Settings} (hs : s.IsProper)
    (hrules : (p.candidates s.severity).rows.Perm (q.candidates s.severity).rows)
    {samples samples' : List Sample} (hsamples : samples.Perm samples')
    (state state' : σ) (start finish start' finish' : Binary64) :
    ∃ f g,
      (infer engine state p s samples ⟨.float start, .float finish⟩).result = .ok f ∧
      (infer engine state' q s samples' ⟨.float start', .float finish'⟩).result = .ok g ∧
      (∀ id, f.verdict id = g.verdict id) ∧
      f.filesLinted = g.filesLinted ∧ f.ruleSets = g.ruleSets ∧ f.failures = g.failures := by
  obtain ⟨f, hf, -, hreflects⟩ :=
    infer_reflects h.answersOrFails state hp hs samples start finish
  obtain ⟨g, hg, -, hreflects'⟩ :=
    infer_reflects h.answersOrFails state' hq hs samples' start' finish'
  have htested : (p.tested s).rows.Perm (q.tested s).rows := RuleTable.perm_filterMap hrules _
  have hheard := heard_perm h htested hsamples s.baseEntries
  have hdiagnosed : ∀ i id,
      diagnosed (engine.transcript state (p.turns s samples)) i id =
        diagnosed (engine.transcript state' (q.turns s samples')) i id := by
    intro i id
    rw [diagnosed_eq_sum_heard h, diagnosed_eq_sum_heard h]
    exact (hheard.map _).sum_eq
  refine ⟨f, g, hf, hg, fun id => ?_, ?_, ?_, ?_⟩
  · rw [hreflects.verdict, hreflects'.verdict]
    simp only [Proposal.verdict, RuleTable.get?_eq_of_perm hrules, hdiagnosed]
  · rw [hreflects.filesLinted, hreflects'.filesLinted, hsamples.countP_eq]
  · rw [hreflects.ruleSets, hreflects'.ruleSets, RuleTable.columns, RuleTable.columns,
      List.length_map, List.length_map, RuleTable.height_eq_of_perm htested]
  · rw [hreflects.failures, hreflects'.failures, countP_isFailed_eq_heard h,
      countP_isFailed_eq_heard h]
    exact hheard.countP_eq _

/-- Fails on an empty text, and else finds fault where semicolons are never wanted. -/
def semicolonOutcome (call : Call) : Option (List Diagnostic) :=
  if call.source.isEmpty then none else some (wantsSemicolons call)

/-- The engine with these outcomes. -/
def semicolonEngine : Engine Unit :=
  .stateless fun call =>
    match semicolonOutcome call with
    | some ds => .diagnostics ds
    | none => .failed "nothing to parse"

theorem isOrderFree_semicolonEngine : semicolonEngine.IsOrderFree semicolonOutcome where
  verify _ c := by
    cases hc : semicolonOutcome c <;> simp [semicolonEngine, Engine.stateless, hc, Reply.Yields]
  order source base rules rules' h := by
    simp only [semicolonOutcome, wantsSemicolons, ruleConfig?_lintConfig,
      RuleTable.get?_eq_of_perm h]

/-- Two rules and two samples, each in both orders; one of the samples makes every call fail. -/
theorem infer_reordered_semi : ∃ f g,
    (infer semicolonEngine ()
      ⟨none, some ⟨[("quotes", [⟨.error, []⟩]),
        ("semi", [⟨.error, [.text "never"]⟩, ⟨.error, [.text "always"]⟩])], by decide⟩⟩ {}
      [.readable "a.js" "x", .readable "b.js" ""] .stopped).result = .ok f ∧
    (infer semicolonEngine ()
      ⟨none, some ⟨[("semi", [⟨.error, [.text "never"]⟩, ⟨.error, [.text "always"]⟩]),
        ("quotes", [⟨.error, []⟩])], by decide⟩⟩ {}
      [.readable "b.js" "", .readable "a.js" "x"] .stopped).result = .ok g ∧
    (∀ id, f.verdict id = g.verdict id) ∧
    f.filesLinted = g.filesLinted ∧ f.ruleSets = g.ruleSets ∧ f.failures = g.failures :=
  infer_reordered isOrderFree_semicolonEngine (by rfl) (by rfl) ⟨by rfl, by rfl⟩
    (by exact .swap ..) (.swap ..) () () (.zero false) (.zero false) (.zero false) (.zero false)

end RuleFit
