import RuleFit.Proofs.Inference

/-!
# More samples

What is charged to a candidate stays charged, so samples can only speak against candidates. Let an
inference be made from some samples, and another one from these and more behind them. The engine may
keep a state, but as long as the samples are the same it is called the same and answers the same, so
the transcript of the first inference is the beginning of the second one's.

**Theorem (`infer_extended`).** The clean candidates of a rule after more samples are among those
before, in the same order. A dropped rule stays dropped, and a rule that is settled or unresolved
after more samples was one or the other before. Which rules are untested and how many rule sets are
tried does not depend on the samples.

The candidate that a rule is settled on can change: where others are found at fault, a tie can be
resolved.
-/

namespace RuleFit

variable {σ : Type} {engine : Engine σ} {state : σ} {p : Proposal} {s : Settings}

/-! ## Transcripts of more samples -/

/-- Over more samples a transcript goes on where it ended. -/
theorem transcript_turns_append (samples more : List Sample) :
    engine.transcript state (p.turns s (samples ++ more)) =
      engine.transcript state (p.turns s samples) ++
        engine.transcript (engine.after state (p.turns s samples)) (p.turns s more) := by
  rw [Proposal.turns, turns_append, Engine.transcript_append]
  rfl

/-- Where no candidate is clean, more replies make none clean. -/
theorem cleanOf_append_eq_nil {cs : List Candidate} {ps : List (Turn × Reply)} {id : Text}
    (h : cleanOf cs (fun i => diagnosed ps i id) = []) (qs : List (Turn × Reply)) :
    cleanOf cs (fun i => diagnosed (ps ++ qs) i id) = [] := by
  have hle : ∀ i, diagnosed ps i id ≤ diagnosed (ps ++ qs) i id := by
    intro i
    rw [diagnosed_append]
    exact Nat.le_add_right _ _
  have hsub := cleanOf_sublist hle cs
  rw [h] at hsub
  exact List.sublist_nil.1 hsub

/-! ## Boards -/

/-- An inference goes through a trial and ends with the finding on its board. -/
structure Proposal.Concludes (p : Proposal) (s : Settings) (engine : Engine σ) (state : σ)
    (samples : List Sample) (clock : Clock) (t : Trial σ) (f : Finding) : Prop where
  trial : p.trial s engine state samples = .ok t
  result : (infer engine state p s samples clock).result = .ok f
  finding : f = .ofBoard t.board t.tally f.untested f.ruleSets f.elapsed

/-- The clean candidates on a board of tested candidates that were charged. -/
theorem cleanCandidates_of_charged {b : Scoreboard} {t : RuleTable (List Candidate)}
    {n : Text → Nat → Nat} (hb : b = (Scoreboard.ofCandidates t).chargeBy n) {id : Text}
    {es : List Entry} (h : b.rules.get? id = some es) :
    ∃ cs, t.get? id = some cs ∧ Scoreboard.cleanCandidates es = cleanOf cs (n id) := by
  rw [hb, get?_charged, Option.map_eq_some_iff] at h
  obtain ⟨cs, hcs, rfl⟩ := h
  exact ⟨cs, hcs, cleanCandidates_charged cs (n id)⟩

theorem exists_concludes (h : engine.AnswersOrFails) (state : σ) (hp : p.IsSingle)
    (hs : s.IsProper) (samples : List Sample) (start finish : Binary64) :
    ∃ t f, p.Concludes s engine state samples ⟨.float start, .float finish⟩ t f ∧
      t.board = (Scoreboard.ofCandidates (p.tested s)).chargeBy
        (charges (engine.transcript state (p.turns s samples))) ∧
      f.untested = (p.undenied s).untestable (fun count => !s.cap.admits count) ∧
      f.Reflects p s samples (engine.transcript state (p.turns s samples)) := by
  obtain ⟨t, elapsed, htrial, hboard, -, -, hresult, -⟩ :=
    infer_eq state hp hs samples (h.settled _ _) start finish
  obtain ⟨f, hf, -, hreflects⟩ := infer_reflects h state hp hs samples start finish
  obtain rfl := Except.ok.inj (hresult.symm.trans hf)
  exact ⟨t, _, ⟨htrial, hresult, rfl⟩, hboard, rfl, hreflects⟩

/-- **More samples revive no candidate.** -/
theorem infer_extended (h : engine.AnswersOrFails) (state : σ) (hp : p.IsSingle) (hs : s.IsProper)
    (samples more : List Sample) (start finish start' finish' : Binary64) :
    ∃ t f u g,
      p.Concludes s engine state samples ⟨.float start, .float finish⟩ t f ∧
      p.Concludes s engine state (samples ++ more) ⟨.float start', .float finish'⟩ u g ∧
      t.board.candidates = p.tested s ∧ u.board.candidates = p.tested s ∧
      (∀ id es es', t.board.rules.get? id = some es → u.board.rules.get? id = some es' →
        (Scoreboard.cleanCandidates es').Sublist (Scoreboard.cleanCandidates es)) ∧
      (∀ id ∈ f.dropped, id ∈ g.dropped) ∧
      (∀ id, g.rules.contains id = true ∨ id ∈ g.unresolved →
        f.rules.contains id = true ∨ id ∈ f.unresolved) ∧
      g.untested = f.untested ∧ g.ruleSets = f.ruleSets := by
  obtain ⟨t, f, hf, hboard, huntested, hreflects⟩ :=
    exists_concludes h state hp hs samples start finish
  obtain ⟨u, g, hg, hboard', huntested', hreflects'⟩ :=
    exists_concludes h state hp hs (samples ++ more) start' finish'
  -- The second transcript begins with the first one; of what follows nothing needs to be known.
  rw [transcript_turns_append] at hboard' hreflects'
  generalize engine.transcript state (p.turns s samples) = ps at hboard hreflects hboard' hreflects'
  generalize engine.transcript _ (p.turns s more) = qs at hboard' hreflects'
  refine ⟨t, f, u, g, hf, hg, ?_, ?_, ?_, ?_, ?_, ?_, ?_⟩
  · rw [hboard, Scoreboard.candidates_chargeBy, Scoreboard.candidates_ofCandidates]
  · rw [hboard', Scoreboard.candidates_chargeBy, Scoreboard.candidates_ofCandidates]
  · intro id es es' hes hes'
    obtain ⟨cs, hcs, hclean⟩ := cleanCandidates_of_charged hboard hes
    obtain ⟨cs', hcs', hclean'⟩ := cleanCandidates_of_charged hboard' hes'
    obtain rfl := Option.some.inj (hcs.symm.trans hcs')
    rw [hclean, hclean', charges_append]
    exact cleanOf_sublist (fun _ => Nat.le_add_right _ _) cs
  · intro id hid
    obtain ⟨cs, hcs, hclean⟩ := hreflects.mem_dropped.1 hid
    exact hreflects'.mem_dropped.2 ⟨cs, hcs, cleanOf_append_eq_nil hclean qs⟩
  · intro id hid
    obtain ⟨cs, hcs, hclean⟩ := hreflects'.live_iff.1 hid
    exact hreflects.live_iff.2 ⟨cs, hcs, fun hnil => hclean (cleanOf_append_eq_nil hnil qs)⟩
  · rw [huntested, huntested']
  · rw [hreflects.ruleSets, hreflects'.ruleSets]

/-- An engine that fails first, finds fault with `quotes` in the two samples it gets then, and with
`semi` in the first rounds of the next. -/
def changeable : Engine Nat where
  verify n _ :=
    (if n = 0 then .failed "not ready"
      else .diagnostics [some (if n < 6 then "quotes" else if n < 8 then "semi" else "eqeqeq")],
      n + 1)

/-- Three candidates for `semi` and the plain ones of two other rules. -/
def semiFirst : Proposal where
  given := some ⟨[("semi", [⟨.error, []⟩, ⟨.error, [.text "always"]⟩, ⟨.error, [.text "never"]⟩]),
    ("quotes", [⟨.error, []⟩]), ("eqeqeq", [⟨.error, []⟩])], by decide⟩

/-- After one more sample `quotes` is still dropped and `eqeqeq` is still settled; `semi` is settled
on another one of the candidates that were clean before. -/
theorem infer_extended_semi : ∃ t f u g es es',
    semiFirst.Concludes {} changeable 0 [.readable "a.js" "x", .readable "b.js" "y"] .stopped t f ∧
    semiFirst.Concludes {} changeable 0
      ([.readable "a.js" "x", .readable "b.js" "y"] ++ [.readable "c.js" "z"]) .stopped u g ∧
    t.board.rules.get? "semi" = some es ∧ u.board.rules.get? "semi" = some es' ∧
    (Scoreboard.cleanCandidates es').Sublist (Scoreboard.cleanCandidates es) ∧
    ("quotes" : Text) ∈ f.dropped ∧ ("quotes" : Text) ∈ g.dropped ∧
    g.rules.contains "eqeqeq" = true ∧
    (f.rules.contains "eqeqeq" = true ∨ ("eqeqeq" : Text) ∈ f.unresolved) ∧
    f.rules.get? "semi" = some ⟨.error, []⟩ ∧
    g.rules.get? "semi" = some ⟨.error, [.text "never"]⟩ := by
  have hengine : changeable.AnswersOrFails := by
    intro n c
    by_cases hn : n = 0 <;> simp [changeable, hn, Reply.fault?]
  obtain ⟨t, f, u, g, hf, hg, -, -, hclean, hdropped, hlive, -⟩ := infer_extended hengine 0
    (p := semiFirst) rfl (s := {}) ⟨rfl, rfl⟩ [.readable "a.js" "x", .readable "b.js" "y"]
    [.readable "c.js" "z"] (.zero false) (.zero false) (.zero false) (.zero false)
  have hshort : ∃ t f, semiFirst.trial {} changeable 0
      [.readable "a.js" "x", .readable "b.js" "y"] = .ok t ∧
      (infer changeable 0 semiFirst {} [.readable "a.js" "x", .readable "b.js" "y"]
        .stopped).result = .ok f ∧
      (∃ es, t.board.rules.get? "semi" = some es) ∧ ("quotes" : Text) ∈ f.dropped ∧
      f.rules.get? "semi" = some ⟨.error, []⟩ :=
    ⟨_, _, rfl, rfl, ⟨_, rfl⟩, by decide, by decide⟩
  have hlong : ∃ u g, semiFirst.trial {} changeable 0
      [.readable "a.js" "x", .readable "b.js" "y", .readable "c.js" "z"] = .ok u ∧
      (infer changeable 0 semiFirst {}
        [.readable "a.js" "x", .readable "b.js" "y", .readable "c.js" "z"] .stopped).result =
        .ok g ∧
      (∃ es, u.board.rules.get? "semi" = some es) ∧ g.rules.contains "eqeqeq" = true ∧
      g.rules.get? "semi" = some ⟨.error, [.text "never"]⟩ :=
    ⟨_, _, rfl, rfl, ⟨_, rfl⟩, by decide, by decide⟩
  obtain ⟨t', f', ht, hf', ⟨es, hes⟩, hquotes, hsemi⟩ := hshort
  obtain ⟨u', g', hu, hg', ⟨es', hes'⟩, heqeqeq, hsemi'⟩ := hlong
  obtain rfl : t' = t := Except.ok.inj (ht.symm.trans hf.trial)
  obtain rfl : f' = f := Except.ok.inj (hf'.symm.trans hf.result)
  obtain rfl : u' = u := Except.ok.inj (hu.symm.trans hg.trial)
  obtain rfl : g' = g := Except.ok.inj (hg'.symm.trans hg.result)
  exact ⟨t', f', u', g', es, es', hf, hg, hes, hes', hclean "semi" es es' hes hes', hquotes,
    hdropped "quotes" hquotes, heqeqeq, hlive "eqeqeq" (.inl heqeqeq), hsemi, hsemi'⟩

end RuleFit
