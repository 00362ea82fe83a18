import RuleFit.Proofs.Batching

/-!
# Inferring again

The candidates that an inference settles on were tried in different rounds and never together. For a
local engine that makes no difference: the configuration that they form is one that the samples
satisfy, and it is its own inference.

**Theorem (`infer_again`).** For a local engine and a cap of at least one, no sample gets a
diagnostic for a settled rule under the configuration that was inferred. Inferring from the settled
candidates alone gives the same configuration and leaves no rule dropped, unresolved or untested.

A rule is settled on one of its clean candidates (`Finding.Reflects.exists_clean`), and a candidate
that is clean is not found at fault beside any other rules (`count_eq_zero_of_clean`): in the
inferred configuration, and in the only round of the second inference.
-/

namespace RuleFit

/-! ## Settled candidates are clean -/

/-- A settled rule was tested, and its candidate is one for which nothing was diagnosed. -/
theorem Finding.Reflects.exists_clean {f : Finding} {p : Proposal} {s : Settings}
    {samples : List Sample} {ps : List (Turn × Reply)} (h : f.Reflects p s samples ps) {id : Text}
    {c : Candidate} (hc : f.rules.get? id = some c) :
    ∃ cs i, (p.tested s).get? id = some cs ∧ cs[i]? = some c ∧ diagnosed ps i id = 0 := by
  rw [h.get?_rules, Option.bind_eq_some_iff] at hc
  obtain ⟨cs, htested, hfavourite⟩ := hc
  obtain ⟨i, hi, hclean⟩ := mem_cleanOf.1 (mem_of_favourite hfavourite)
  exact ⟨cs, i, htested, hi, hclean⟩

/-! ## The settled candidates as a proposal -/

theorem eq_nil_of_contains {l : List Text} (h : ∀ id, l.contains id = false) : l = [] := by
  refine List.eq_nil_iff_forall_not_mem.2 fun id hid => ?_
  have hnone := h id
  rw [List.contains_iff_mem.2 hid] at hnone
  cases hnone

/-- A finding that settles rules and says nothing else leaves no rule dropped, unresolved or
untested. -/
theorem Finding.nil_of_verdict {f : Finding} {config : Text → Option Candidate}
    (h : ∀ id, f.verdict id = { config := config id }) :
    (∀ id, f.rules.get? id = config id) ∧
      f.dropped = [] ∧ f.unresolved = [] ∧ f.untested = [] :=
  ⟨fun id => congrArg Verdict.config (h id),
    eq_nil_of_contains fun id => congrArg Verdict.dropped (h id),
    eq_nil_of_contains fun id => congrArg Verdict.unresolved (h id),
    eq_nil_of_contains fun id => congrArg Verdict.untested (h id)⟩

/-- The settled rules, each with the one candidate that it is settled on. -/
def Finding.proposal (f : Finding) : Proposal := ⟨none, some (f.rules.map fun _ c => [c])⟩

theorem get?_candidates_proposal (f : Finding) (severity : Severity) (id : Text) :
    (f.proposal.candidates severity).get? id = (f.rules.get? id).map ([·]) :=
  RuleTable.get?_map ..

/-- The second inference tests what the first one settled. -/
theorem get?_tested_proposal {f : Finding} {p : Proposal} {s : Settings} {samples : List Sample}
    {ps : List (Turn × Reply)} (hf : f.Reflects p s samples ps) (hcap : s.cap.admits 1 = true)
    {id : Text} {c : Candidate} (hc : f.rules.get? id = some c) :
    (f.proposal.tested s).get? id = some [c] := by
  obtain ⟨cs, i, hcs, -⟩ := hf.exists_clean hc
  have hdeny : id ∉ s.deny := ((p.get?_tested s).1 hcs).2.1
  refine (f.proposal.get?_tested s).2 ⟨?_, hdeny, hcap⟩
  rw [get?_candidates_proposal, hc, Option.map_some]

/-! ## Clean candidates beside other rules -/

section Local

variable {σ : Type} {engine : Engine σ} {answer : Call → List Diagnostic}
  (h : engine.IsLocal answer) {base : List (Datum × Datum)}

include h

/-- A candidate that is clean in its round is not found at fault beside any other rules. -/
theorem count_eq_zero_of_clean {t : RuleTable (List Candidate)} {id : Text} {cs : List Candidate}
    {i : Nat} {c : Candidate} (ht : t.get? id = some cs) (hi : cs[i]? = some c) {state : σ}
    {samples : List Sample}
    (hclean : diagnosed (engine.transcript state (turns (rounds base t.columns) samples)) i id = 0)
    {rules : RuleSet} (hrules : rules.get? id = some c) {file source : Text}
    (hsample : .readable file source ∈ samples) :
    (answer ⟨source, lintConfig base rules⟩).count (some id) = 0 := by
  have hlt : i < cs.length := (List.getElem?_eq_some_iff.1 hi).1
  have hcolumn := RuleTable.getElem?_columns (hlt.trans_le (RuleTable.length_le_height ht))
  rw [diagnosed_eq_sum h.verify state base hcolumn, List.sum_eq_zero_iff] at hclean
  have hround : (answer ⟨source, lintConfig base (t.column i)⟩).count (some id) = 0 :=
    hclean _ (List.mem_map_of_mem hsample)
  have halike : AlikeFor id (lintConfig base rules) (lintConfig base (t.column i)) :=
    alikeFor_lintConfig base hrules (RuleTable.get?_column_of_get? ht hi)
  rw [h.count source id _ _ halike, hround]

/-- Where no sample is at fault with the rule set of a round, nothing is diagnosed in the round. -/
theorem diagnosed_eq_zero {plan : List RuleSet} {i : Nat} {rules : RuleSet}
    (hi : plan[i]? = some rules) {samples : List Sample} {id : Text}
    (hnone : ∀ file source, .readable file source ∈ samples →
      (answer ⟨source, lintConfig base rules⟩).count (some id) = 0) (state : σ) :
    diagnosed (engine.transcript state (turns (rounds base plan) samples)) i id = 0 := by
  rw [diagnosed_eq_sum h.verify state base hi, List.sum_eq_zero_iff]
  intro n hn
  obtain ⟨sample, hsample, rfl⟩ := List.mem_map.1 hn
  cases sample with
  | unreadable file cause => rfl
  | readable file source => exact hnone file source hsample

/-! ## The second inference -/

/-- It settles every rule on the same candidate again, and says nothing of any other rule. -/
theorem verdict_proposal {f : Finding} {p : Proposal} {s : Settings} {samples : List Sample}
    {state : σ} (hf : f.Reflects p s samples (engine.transcript state (p.turns s samples)))
    (hcap : s.cap.admits 1 = true) (state' : σ) (id : Text) :
    f.proposal.verdict s (engine.transcript state' (f.proposal.turns s samples)) id =
      { config := f.rules.get? id } := by
  cases hc : f.rules.get? id with
  | none =>
    have hgone : (f.proposal.candidates s.severity).get? id = none := by
      rw [get?_candidates_proposal, hc, Option.map_none]
    simp only [Proposal.verdict, hgone]
  | some c =>
    have htested := get?_tested_proposal hf hcap hc
    have hcolumn : (f.proposal.tested s).columns[0]? = some ((f.proposal.tested s).column 0) :=
      RuleTable.getElem?_columns (RuleTable.length_le_height htested)
    have hround : ((f.proposal.tested s).column 0).get? id = some c :=
      RuleTable.get?_column_of_get? htested rfl
    obtain ⟨cs, i, hcs, hi, hclean⟩ := hf.exists_clean hc
    have hzero : diagnosed (engine.transcript state' (f.proposal.turns s samples)) 0 id = 0 :=
      diagnosed_eq_zero h hcolumn
        (fun _ _ hsample => count_eq_zero_of_clean h hcs hi hclean hround hsample) state'
    rw [Proposal.verdict_of_tested s htested]
    simp [cleanOf, hzero, Verdict.ofClean, favourite, sole]

/-- **What is inferred is satisfied by the samples, and inferring from it gives it again.** -/
theorem infer_again {p : Proposal} (hp : p.IsSingle) {s : Settings} (hs : s.IsProper)
    (hcap : s.cap.admits 1 = true) (samples : List Sample) (state state' : σ)
    (start finish start' finish' : Binary64) :
    ∃ f, (infer engine state p s samples ⟨.float start, .float finish⟩).result = .ok f ∧
      (∀ file source, .readable file source ∈ samples → ∀ id, f.rules.contains id = true →
        ∀ st, some id ∉ (engine.verify st ⟨source, lintConfig s.baseEntries f.rules⟩).1.found) ∧
      ∃ g, (infer engine state' f.proposal s samples ⟨.float start', .float finish'⟩).result =
          .ok g ∧
        (∀ id, g.rules.get? id = f.rules.get? id) ∧
        g.dropped = [] ∧ g.unresolved = [] ∧ g.untested = [] := by
  obtain ⟨f, hf, -, hreflects⟩ := infer_reflects h.answersOrFails state hp hs samples start finish
  obtain ⟨g, hg, -, hreflects'⟩ := infer_reflects h.answersOrFails state' (p := f.proposal) rfl hs
    samples start' finish'
  have hverdict : ∀ id, g.verdict id = { config := f.rules.get? id } := fun id => by
    rw [hreflects'.verdict, verdict_proposal h hreflects hcap]
  refine ⟨f, hf, ?_, g, hg, Finding.nil_of_verdict hverdict⟩
  intro file source hsample id hid st
  rw [RuleTable.contains_eq_isSome] at hid
  obtain ⟨c, hc⟩ := Option.isSome_iff_exists.1 hid
  obtain ⟨cs, i, hcs, hi, hclean⟩ := hreflects.exists_clean hc
  have hcount := count_eq_zero_of_clean h hcs hi hclean hc hsample
  rw [h.verify]
  exact List.count_eq_zero.1 hcount

end Local

/-- Of two rules one is settled on its second candidate, which is then the first of the second
inference. -/
theorem infer_again_semi : ∃ f,
    (infer (.stateless fun call => .diagnostics (wantsSemicolons call)) ()
      ⟨none, some ⟨[("quotes", [⟨.error, []⟩]),
        ("semi", [⟨.error, [.text "never"]⟩, ⟨.error, [.text "always"]⟩])], by decide⟩⟩ {}
      [.readable "a.js" "x"] .stopped).result = .ok f ∧
    (∀ file source, .readable file source ∈ [Sample.readable "a.js" "x"] → ∀ id,
      f.rules.contains id = true → ∀ st, some id ∉
        (Engine.verify (.stateless fun call => .diagnostics (wantsSemicolons call)) st
          ⟨source, lintConfig [] f.rules⟩).1.found) ∧
    ∃ g, (infer (.stateless fun call => .diagnostics (wantsSemicolons call)) () f.proposal {}
        [.readable "a.js" "x"] .stopped).result = .ok g ∧
      (∀ id, g.rules.get? id = f.rules.get? id) ∧
      g.dropped = [] ∧ g.unresolved = [] ∧ g.untested = [] :=
  infer_again isLocal_wantsSemicolons (by rfl) ⟨by rfl, by rfl⟩ (by rfl) [.readable "a.js" "x"]
    () () (.zero false) (.zero false) (.zero false) (.zero false)

end RuleFit
