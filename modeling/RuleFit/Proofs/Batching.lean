import RuleFit.Proofs.Inference
import RuleFit.Proofs.Equality

/-!
# Trying many rules at once

A call configures many rules, which saves calls and should change nothing. An engine is *local* when
it keeps no state, never fails, and finds as many diagnostics for a rule as the source text, the
configuration of that rule and the part of the configuration that is not about rules tell it to. For
such an engine it makes no difference which other rules are tried along.

**Theorem (`infer_alone`).** A local engine leads to the same verdict on a rule, whether the rule is
tried together with others or alone.

What was diagnosed for a rule in a round is a sum over the samples of what was found with the rule
set of that round (`diagnosed_eq_sum`); the candidate of the rule in it is the same in both runs.
-/

namespace RuleFit

/-! ## Configurations of calls -/

/-- What a configuration says about a rule. -/
def ruleConfig? (config : Datum) (id : Text) : Option Datum :=
  (config.get? "rules").bind (·.get? id)

/-- The part of a configuration that is not about rules. -/
def otherEntries (config : Datum) : List (Datum × Datum) :=
  match config.opened with
  | .map entries => entries.filter fun e => decide (e.1 ≠ .text "rules")
  | _ => []

theorem ruleConfig?_lintConfig (base : List (Datum × Datum)) (rules : RuleSet) (id : Text) :
    ruleConfig? (lintConfig base rules) id = (rules.get? id).map Candidate.toNative := by
  simp only [ruleConfig?, lintConfig, Datum.get?, Datum.opened, Datum.find?_put_text,
    Option.bind_some]
  rw [Datum.find?, RuleTable.get?, List.find?_map, Option.map_map, Option.map_map]
  refine congrArg _ (congrArg (List.find? · rules.rows) (funext fun r => ?_))
  rw [Bool.eq_iff_iff]
  simp

theorem otherEntries_lintConfig (base : List (Datum × Datum)) (rules : RuleSet) :
    otherEntries (lintConfig base rules) =
      base.filter fun e => decide (e.1 ≠ .text "rules") :=
  Datum.filter_put_text ..

/-- Two configurations that are the same as far as a rule is concerned. -/
structure AlikeFor (id : Text) (config config' : Datum) : Prop where
  rule : ∃ v, ruleConfig? config id = some v ∧ ruleConfig? config' id = some v
  others : otherEntries config = otherEntries config'

/-- Rule sets on one base that agree about a rule make configurations that are alike for it. -/
theorem alikeFor_lintConfig (base : List (Datum × Datum)) {rules rules' : RuleSet} {id : Text}
    {c : Candidate} (h : rules.get? id = some c) (h' : rules'.get? id = some c) :
    AlikeFor id (lintConfig base rules) (lintConfig base rules') := by
  refine ⟨⟨c.toNative, ?_, ?_⟩, ?_⟩
  · rw [ruleConfig?_lintConfig, h, Option.map_some]
  · rw [ruleConfig?_lintConfig, h', Option.map_some]
  · rw [otherEntries_lintConfig, otherEntries_lintConfig]

/-- The engine always answers, the same call with the same answer, and finds as many diagnostics for
a rule as the part of the configuration tells it to that concerns the rule. -/
structure Engine.IsLocal {σ : Type} (engine : Engine σ) (answer : Call → List Diagnostic) :
    Prop where
  verify : ∀ s c, (engine.verify s c).1 = .diagnostics (answer c)
  count : ∀ source id config config', AlikeFor id config config' →
    (answer ⟨source, config⟩).count (some id) = (answer ⟨source, config'⟩).count (some id)

theorem Engine.IsLocal.answersOrFails {σ : Type} {engine : Engine σ}
    {answer : Call → List Diagnostic} (h : engine.IsLocal answer) : engine.AnswersOrFails := by
  intro s c
  rw [h.verify]
  rfl

/-! ## What is diagnosed in a round -/

/-- Of a sum over numbered items in which only number `i` counts, item `i` is left. -/
theorem sum_zipIdx_eq {α : Type} (f : α → Nat) (i : Nat) (l : List α) (k : Nat) :
    ((l.zipIdx k).map fun p => if p.2 = k + i then f p.1 else 0).sum = (l[i]?.map f).getD 0 := by
  induction l generalizing i k with
  | nil => rfl
  | cons a l ih =>
    rw [List.zipIdx_cons, List.map_cons, List.sum_cons]
    cases i with
    | zero =>
      have hrest : ((l.zipIdx (k + 1)).map fun p => if p.2 = k + 0 then f p.1 else 0).sum = 0 := by
        refine List.sum_eq_zero fun n hn => ?_
        obtain ⟨p, hp, rfl⟩ := List.mem_map.1 hn
        have hlow := List.le_snd_of_mem_zipIdx hp
        exact if_neg (by omega)
      rw [hrest]
      simp
    | succ i =>
      have hshift : k + (i + 1) = k + 1 + i := by omega
      rw [hshift, ih, if_neg (by omega), List.getElem?_cons_succ, Nat.zero_add]

section Answers

variable {σ : Type} {engine : Engine σ} {answer : Call → List Diagnostic}
  (h : ∀ s c, (engine.verify s c).1 = .diagnostics (answer c))

include h

theorem transcript_eq_map (state : σ) (ts : List Turn) :
    engine.transcript state ts = ts.map fun turn => (turn, .diagnostics (answer turn.call)) := by
  rw [← List.map_id (engine.transcript state ts)]
  exact engine.map_transcript (fun s turn => congrArg (Prod.mk turn) (h s turn.call)) state ts

/-- The diagnostics for a rule in round `i` are those that were found with rule set `i`. -/
theorem diagnosed_eq_sum (state : σ) (base : List (Datum × Datum)) {plan : List RuleSet} {i : Nat}
    {rules : RuleSet} (hi : plan[i]? = some rules) (samples : List Sample) (id : Text) :
    diagnosed (engine.transcript state (turns (rounds base plan) samples)) i id =
      (samples.map fun
        | .readable _ source => (answer ⟨source, lintConfig base rules⟩).count (some id)
        | .unreadable .. => 0).sum := by
  rw [transcript_eq_map h, diagnosed, turns, List.map_map, List.map_flatMap, List.flatMap_def,
    List.sum_flatten, List.map_map]
  refine congrArg List.sum (List.map_congr_left fun sample _ => ?_)
  cases sample with
  | unreadable file cause => rfl
  | readable file source =>
    have hsum := sum_zipIdx_eq
      (fun rules => (answer ⟨source, lintConfig base rules⟩).count (some id)) i plan 0
    rw [hi, Option.map_some, Option.getD_some] at hsum
    simp only [Function.comp_apply, Sample.turns, rounds, List.map_map]
    rw [← hsum]
    refine congrArg List.sum (List.map_congr_left fun p _ => ?_)
    simp [Reply.found, Turn.call]

end Answers

/-! ## Together and alone -/

section Together

variable {σ : Type} {engine : Engine σ} {answer : Call → List Diagnostic}
  (h : engine.IsLocal answer)

include h

/-- As much is diagnosed for a candidate in the columns of one table as in those of another. -/
theorem diagnosed_congr {t u : RuleTable (List Candidate)} {id : Text} {cs : List Candidate}
    (ht : t.get? id = some cs) (hu : u.get? id = some cs) {i : Nat} (hi : i < cs.length)
    (state state' : σ) (base : List (Datum × Datum)) (samples : List Sample) :
    diagnosed (engine.transcript state (turns (rounds base t.columns) samples)) i id =
      diagnosed (engine.transcript state' (turns (rounds base u.columns) samples)) i id := by
  have htcolumn := RuleTable.getElem?_columns (hi.trans_le (RuleTable.length_le_height ht))
  have hucolumn := RuleTable.getElem?_columns (hi.trans_le (RuleTable.length_le_height hu))
  have hc := List.getElem?_eq_getElem hi
  have halike : AlikeFor id (lintConfig base (t.column i)) (lintConfig base (u.column i)) :=
    alikeFor_lintConfig base (RuleTable.get?_column_of_get? ht hc)
      (RuleTable.get?_column_of_get? hu hc)
  rw [diagnosed_eq_sum h.verify state base htcolumn, diagnosed_eq_sum h.verify state' base hucolumn]
  refine congrArg List.sum (List.map_congr_left fun sample _ => ?_)
  cases sample with
  | unreadable file cause => rfl
  | readable file source => exact h.count source id _ _ halike

/-- **For a local engine, trying rules together leads to the same verdict as trying one alone.** -/
theorem infer_alone {candidates : RuleTable (List Candidate)} {id : Text} {cs : List Candidate}
    (hcs : candidates.get? id = some cs) {s : Settings} (hs : s.IsProper) (samples : List Sample)
    (state state' : σ) (start finish start' finish' : Binary64) :
    ∃ together alone,
      (infer engine state ⟨none, some candidates⟩ s samples
        ⟨.float start, .float finish⟩).result = .ok together ∧
      (infer engine state' ⟨none, some (.single id cs)⟩ s samples
        ⟨.float start', .float finish'⟩).result = .ok alone ∧
      together.verdict id = alone.verdict id := by
  obtain ⟨together, htogether, -, hverdict⟩ := infer_verdict h.answersOrFails state
    (p := ⟨none, some candidates⟩) rfl hs samples start finish
  obtain ⟨alone, halone, -, hverdict'⟩ := infer_verdict h.answersOrFails state'
    (p := ⟨none, some (.single id cs)⟩) rfl hs samples start' finish'
  refine ⟨together, alone, htogether, halone, ?_⟩
  rw [hverdict, hverdict']
  have hsingle : (RuleTable.single id cs).get? id = some cs := by simp [RuleTable.get?_single]
  by_cases htested : id ∉ s.deny ∧ s.cap.admits cs.length = true
  · have htogether := (Proposal.get?_tested ⟨none, some candidates⟩ s).2 ⟨hcs, htested⟩
    have halone := (Proposal.get?_tested ⟨none, some (.single id cs)⟩ s).2 ⟨hsingle, htested⟩
    rw [Proposal.verdict_of_tested s htogether, Proposal.verdict_of_tested s halone]
    exact congrArg Verdict.ofClean (cleanOf_congr fun i hi =>
      diagnosed_congr h htogether halone hi state state' s.baseEntries samples)
  · simp only [Proposal.verdict, Proposal.candidates, hcs, hsingle]
    by_cases hdeny : id ∈ s.deny
    · simp [hdeny]
    · have hcap : s.cap.admits cs.length = false := by simpa [hdeny] using htested
      simp [hcap]

end Together

/-- Finds fault with a configuration under which semicolons are never wanted. -/
def wantsSemicolons (call : Call) : List Diagnostic :=
  if ruleConfig? call.config "semi" = some (.list [.int 2, .text "never"]) then [some "semi"]
  else []

theorem isLocal_wantsSemicolons :
    (Engine.stateless fun call => .diagnostics (wantsSemicolons call)).IsLocal wantsSemicolons where
  verify _ _ := rfl
  count source id config config' halike := by
    obtain ⟨v, hv, hv'⟩ := halike.rule
    by_cases hid : id = "semi"
    · rw [wantsSemicolons, wantsSemicolons, ← hid, hv, hv']
    · have hnone : ∀ call, (wantsSemicolons call).count (some id) = 0 := by
        intro call
        refine List.count_eq_zero.2 fun hmem => hid ?_
        unfold wantsSemicolons at hmem
        split_ifs at hmem
        · exact Option.some.inj (List.mem_singleton.1 hmem)
        · cases hmem
      rw [hnone, hnone]

/-- The engine above, on two rules. -/
theorem infer_alone_semi : ∃ together alone,
    (infer (.stateless fun call => .diagnostics (wantsSemicolons call)) ()
      ⟨none, some ⟨[("quotes", [⟨.error, []⟩]),
        ("semi", [⟨.error, [.text "never"]⟩, ⟨.error, [.text "always"]⟩])], by decide⟩⟩ {}
      [.readable "a.js" "x"] .stopped).result = .ok together ∧
    (infer (.stateless fun call => .diagnostics (wantsSemicolons call)) ()
      ⟨none, some (.single "semi" [⟨.error, [.text "never"]⟩, ⟨.error, [.text "always"]⟩])⟩ {}
      [.readable "a.js" "x"] .stopped).result = .ok alone ∧
    together.verdict "semi" = alone.verdict "semi" :=
  infer_alone isLocal_wantsSemicolons rfl ⟨rfl, rfl⟩ [.readable "a.js" "x"] () ()
    (.zero false) (.zero false) (.zero false) (.zero false)

end RuleFit
