import RuleFit.Proofs.Plan

/-!
# Failures in a trial

A call that fails is counted, charges nothing and leaves the trial to go on. A reply that is missing
or breaks off does not count as a failed call: it ends the trial with its fault, and what it had
given until then is charged.

**Theorem (`run_plan`).** A trial of a plan for a board comes to its end exactly when no reply is
missing or breaks off. Then every turn was taken, the failures are the failed calls, and only the
other replies were charged. Otherwise it stops at the first reply that is missing or breaks off.
-/

namespace RuleFit

variable {σ : Type}

/-- A trial of a plan takes its turns up to the first reply that ends it. -/
theorem course_of_plan (engine : Engine σ) (state : σ) (b : Scoreboard) (within : Nat → Bool)
    (base : List (Datum × Datum)) (samples : List Sample) :
    Trial.Course engine { board := b, state } (turns (rounds base (b.plan within)) samples)
      (samples.countP Sample.isReadable)
      (Trial.run engine base (b.plan within) samples { board := b, state }) :=
  Trial.run_course base (b.plan within)
    (fun _ hr => Scoreboard.carries_of_mem_rounds hr) samples

/-- The last of some replies fails no call when it ends a trial. -/
theorem countP_isFailed_append {ps : List (Turn × Reply)} {p : Turn × Reply} {f : TrialFault}
    (h : p.2.fault? = some f) :
    ((ps ++ [p]).countP fun q => q.2.isFailed) = ps.countP fun q => q.2.isFailed := by
  have hfailed : ¬ p.2.isFailed = true := by
    cases hp : p.2 <;> simp_all [Reply.fault?, Reply.isFailed]
  rw [List.countP_append, List.countP_singleton, if_neg hfailed, Nat.add_zero]

/-- **A trial ends before its time exactly when a reply is missing or breaks off; failed calls are
counted and charge nothing.** -/
theorem run_plan (engine : Engine σ) (state : σ) (b : Scoreboard) (within : Nat → Bool)
    (base : List (Datum × Datum)) (samples : List Sample) :
    let plan := b.plan within
    let ts := turns (rounds base plan) samples
    let ps := engine.transcript state ts
    let result := Trial.run engine base plan samples { board := b, state }
    ((∃ t, result = .ok t) ↔ ∀ p ∈ ps, p.2.fault? = none) ∧
    (∀ t, result = .ok t →
      t.calls.toList = ts.map Turn.call ∧
      t.tally.calls = samples.countP Sample.isReadable * plan.length ∧
      t.tally.failures = (ps.countP fun p => p.2.isFailed) ∧
      t.board = b.chargeBy (charges (ps.filter fun p => !p.2.isFailed))) ∧
    (∀ f t, result = .error (f, t) → ∃ before turn rest,
      ts = before ++ turn :: rest ∧
      (∀ p ∈ engine.transcript state before, p.2.fault? = none) ∧
      (engine.verify (engine.after state before) turn.call).1.fault? = some f ∧
      t.calls.toList = (before ++ [turn]).map Turn.call ∧
      t.tally.failures = ((engine.transcript state before).countP fun p => p.2.isFailed) ∧
      t.board = b.chargeBy (charges (engine.transcript state (before ++ [turn])))) := by
  intro plan ts ps result
  have hcourse : Trial.Course engine { board := b, state } ts (samples.countP Sample.isReadable)
      result := course_of_plan engine state b within base samples
  refine ⟨hcourse.isOk_iff, ?_, ?_⟩
  · intro t ht
    rw [ht] at hcourse
    have hmoved := hcourse.advanced
    refine ⟨?_, ?_, ?_, ?_⟩
    · rw [hmoved.calls, Engine.map_call_transcript]
      rfl
    · rw [hmoved.made, Engine.length_transcript, length_turns, length_rounds, Nat.zero_add]
    · rw [hmoved.failures, Nat.zero_add]
    · rw [hmoved.board, charges_filter_not_failed]
  · intro f t ht
    rw [ht] at hcourse
    obtain ⟨before, turn, rest, hts, hstop⟩ := hcourse
    refine ⟨before, turn, rest, hts, hstop.settled, hstop.fault, ?_, ?_, ?_⟩
    · rw [hstop.advanced.calls, Engine.map_call_transcript]
      rfl
    · rw [hstop.advanced.failures, Engine.transcript_append, Engine.transcript_singleton,
        countP_isFailed_append hstop.fault, Nat.zero_add]
    · exact hstop.advanced.board

/-- One diagnostic before a reply breaks off is charged, and the trial ends without a failure
counted; a missing reply ends it too. -/
theorem run_ended_by_reply :
    (∃ t, Trial.run (.stateless fun _ => .broken [some "semi"] "parser exploded") []
        ((Scoreboard.ofCandidates (.single "semi" [⟨.error, []⟩])).plan fun _ => true)
        [.readable "a.js" "x", .readable "b.js" "y"]
        { board := .ofCandidates (.single "semi" [⟨.error, []⟩]), state := () } =
          .error (.broken "parser exploded", t) ∧
      t.calls.size = 1 ∧ t.tally.failures = 0 ∧
      t.board.rules.get? "semi" = some [⟨⟨.error, []⟩, 1, 1⟩]) ∧
    (∃ t, Trial.run (.stateless fun _ => .missing) []
        ((Scoreboard.ofCandidates (.single "semi" [⟨.error, []⟩])).plan fun _ => true)
        [.readable "a.js" "x", .readable "b.js" "y"]
        { board := .ofCandidates (.single "semi" [⟨.error, []⟩]), state := () } =
          .error (.missing, t) ∧
      t.calls.size = 1 ∧ t.tally.failures = 0) :=
  ⟨⟨_, rfl, rfl, rfl, rfl⟩, ⟨_, rfl, rfl, rfl⟩⟩

end RuleFit
