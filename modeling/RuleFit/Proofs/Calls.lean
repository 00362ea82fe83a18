import RuleFit.Proofs.Native
import RuleFit.Proofs.Partition

/-!
# The calls of a trial

A trial makes its calls in a fixed order, whatever the engine replies: source by source, and for
each source rule set by rule set. A call that fails neither ends the trial nor shifts the calls that
follow it. Each call gets the base configuration with the rules of its rule set in native form,
where the base has its rules, or at the end where it has none.

**Theorem (`run_calls`).** Where every call is answered or fails, a trial of the plan for a board
makes exactly these calls. What a call says about a rule is read back as the candidate that stands
on the board at the position of the rule set, and this is the candidate that the diagnostics of
these calls for the rule are charged to.

The calls are those of the turns (`calls_turns`), so this is about what a turn is made of: its
configuration is looked at as a mapping (`lintConfig_of_not_mem`, `lintConfig_append`), and its rule
set as a column of the candidates on the board.
-/

namespace RuleFit

/-! ## Configurations -/

/-- The rules of a rule set in native form, in order. -/
def nativeRules (rules : RuleSet) : Datum :=
  .map (rules.rows.map fun r => (.text r.1, r.2.toNative))

section Config

variable (rules : RuleSet)

/-- A base without rules gets them at the end. -/
theorem lintConfig_of_not_mem {base : List (Datum × Datum)}
    (h : .text "rules" ∉ base.map Prod.fst) :
    lintConfig base rules = .map (base ++ [(.text "rules", nativeRules rules)]) := by
  have hput := Datum.put_append_text h [] (nativeRules rules)
  rw [List.append_nil] at hput
  exact congrArg Datum.map hput

/-- A base with rules gets others in their place. -/
theorem lintConfig_append {front : List (Datum × Datum)}
    (h : .text "rules" ∉ front.map Prod.fst) (old : Datum) (back : List (Datum × Datum)) :
    lintConfig (front ++ (.text "rules", old) :: back) rules =
      .map (front ++ (.text "rules", nativeRules rules) :: back) := by
  have hput := Datum.put_append_text h ((.text "rules", old) :: back) (nativeRules rules)
  rw [Datum.put, if_pos (Datum.alike_refl _)] at hput
  exact congrArg Datum.map hput

end Config

/-! ## The order of calls -/

/-- The text of a sample that could be read. -/
def Sample.source? : Sample → Option Text
  | .readable _ source => some source
  | .unreadable .. => none

/-- The calls of a plan: every source with every rule set. -/
theorem calls_turns (base : List (Datum × Datum)) (plan : List RuleSet) (samples : List Sample) :
    (turns (rounds base plan) samples).map Turn.call =
      (samples.filterMap Sample.source?).flatMap fun source =>
        plan.map fun rules => ⟨source, lintConfig base rules⟩ := by
  have hrounds : ∀ source : Text, (rounds base plan).map (fun r => Call.mk source r.config) =
      plan.map fun rules => ⟨source, lintConfig base rules⟩ := by
    intro source
    have hplan := congrArg (List.map fun rules => Call.mk source (lintConfig base rules))
      (List.zipIdx_map_fst 0 plan)
    rw [List.map_map] at hplan
    rw [rounds, List.map_map, ← hplan]
    rfl
  induction samples with
  | nil => rfl
  | cons sample samples ih =>
    have hturns : turns (rounds base plan) (sample :: samples) =
        sample.turns (rounds base plan) ++ turns (rounds base plan) samples := rfl
    rw [hturns, List.map_append, ih]
    cases sample with
    | unreadable file cause => rfl
    | readable file source =>
      have hsample : ((Sample.readable file source).turns (rounds base plan)).map Turn.call =
          plan.map fun rules => ⟨source, lintConfig base rules⟩ := by
        rw [Sample.turns, List.map_map, ← hrounds]
        rfl
      rw [hsample]
      rfl

/-! ## The run -/

/-- A rule of a round has an entry on the board, at the position of the round. -/
theorem Scoreboard.Carries.exists_entry {b : Scoreboard} {round : Round} (h : b.Carries round)
    {id : Text} {c : Candidate} (hc : round.rules.get? id = some c) :
    ∃ es e, b.rules.get? id = some es ∧ es[round.position]? = some e ∧ e.candidate = c := by
  obtain ⟨cs, hcs, hget⟩ := h id c hc
  rw [Scoreboard.get?_candidates, Option.map_eq_some_iff] at hcs
  obtain ⟨es, hes, rfl⟩ := hcs
  rw [List.getElem?_map, Option.map_eq_some_iff] at hget
  obtain ⟨e, he, rfl⟩ := hget
  exact ⟨es, e, hes, he, rfl⟩

variable {σ : Type} {engine : Engine σ}

/-- **A trial calls the engine for every source with every rule set, in order and whatever fails,
and each call configures the candidates that its diagnostics are charged to.** -/
theorem run_calls (h : engine.AnswersOrFails) (state : σ) (b : Scoreboard) {cap : Cap}
    {plan : List RuleSet} (hplan : b.planUnder cap = .ok plan) (base : List (Datum × Datum))
    (samples : List Sample) :
    ∃ t, Trial.run engine base plan samples { board := b, state } = .ok t ∧
      t.calls.toList = ((samples.filterMap Sample.source?).flatMap fun source =>
        plan.map fun rules => ⟨source, lintConfig base rules⟩) ∧
      (∀ rules ∈ plan, .text "rules" ∉ base.map Prod.fst →
        lintConfig base rules = .map (base ++ [(.text "rules", nativeRules rules)])) ∧
      (∀ rules ∈ plan, ∀ front old back, base = front ++ (.text "rules", old) :: back →
        .text "rules" ∉ front.map Prod.fst →
        lintConfig base rules = .map (front ++ (.text "rules", nativeRules rules) :: back)) ∧
      ∀ (i : Nat) rules, plan[i]? = some rules → ∀ r ∈ rules.rows,
        ∃ es e, b.rules.get? r.1 = some es ∧ es[i]? = some e ∧
          Candidate.ofNative r.2.toNative = .ok e.candidate ∧
          (t.board.rules.get? r.1).bind (·[i]?) = some (e.charge (diagnosed
            (engine.transcript state (turns (rounds base plan) samples)) i r.1)) := by
  obtain rfl := Scoreboard.eq_plan hplan
  have hcarries : ∀ round ∈ rounds base (b.plan cap.admits), b.Carries round :=
    fun _ hr => Scoreboard.carries_of_mem_rounds hr
  obtain ⟨t, hrun, ht⟩ := Trial.run_completed h (t := { board := b, state }) base
    (b.plan cap.admits) hcarries samples
  have hmoved : Trial.Advanced { board := b, state } t _ := ht.advanced
  refine ⟨t, hrun, ?_, fun rules _ hnone => lintConfig_of_not_mem rules hnone, ?_, ?_⟩
  · rw [hmoved.calls, Engine.map_call_transcript, calls_turns]
    rfl
  · rintro rules - front old back rfl hfront
    exact lintConfig_append rules hfront old back
  · intro i rules hi r hr
    have hround : (⟨i, rules, lintConfig base rules⟩ : Round) ∈ rounds base (b.plan cap.admits) :=
      List.mem_map.2 ⟨(rules, i), List.mem_zipIdx_iff_getElem?.2 hi, rfl⟩
    obtain ⟨es, e, hes, he, hc⟩ :=
      (hcarries _ hround).exists_entry (RuleTable.get?_eq_some_iff.2 hr)
    refine ⟨es, e, hes, he, ?_, ?_⟩
    · rw [hc]
      exact Candidate.ofNative_toNative r.2
    · let ps := engine.transcript state (turns (rounds base (b.plan cap.admits)) samples)
      have hcharges : charges ps r.1 i = diagnosed ps i r.1 := by
        refine charges_eq_diagnosed fun p hp hpos => ?_
        have hrules := getElem?_of_mem_rounds (engine.round_mem_of_mem_transcript hp)
        rw [hpos, hi] at hrules
        rw [← Option.some.inj hrules, RuleTable.contains_eq_isSome,
          RuleTable.get?_eq_some_iff.2 hr]
        rfl
      rw [hmoved.board, Scoreboard.get?_chargeBy, hes, Option.map_some, Option.bind_some,
        List.getElem?_mapIdx, he, Option.map_some, hcharges]

/-- The first of four calls fails. The second has only the rule with two candidates, between the
other entries of the base, and the candidate is charged for the second file. -/
theorem run_calls_semi :
    let b : Scoreboard := .ofCandidates ⟨[("semi", [⟨.error, []⟩, ⟨.error, [.text "always"]⟩]),
      ("quotes", [⟨.error, []⟩])], by decide⟩
    let base : List (Datum × Datum) :=
      [(.text "env", .text "node"), (.text "rules", .null), (.text "strict", .bool true)]
    let samples : List Sample :=
      [.readable "a.js" "x", .unreadable "b.js" "no such file", .readable "c.js" "y"]
    lateStarter.AnswersOrFails ∧ ∃ plan t, b.planUnder (.whole 16) = .ok plan ∧
      Trial.run lateStarter base plan samples { board := b, state := 0 } = .ok t ∧
      t.calls.toList.map Call.source = ["x", "x", "y", "y"] ∧
      t.calls.toList[1]? = some ⟨"x", .map [(.text "env", .text "node"),
        (.text "rules", .map [(.text "semi", .list [.int 2, .text "always"])]),
        (.text "strict", .bool true)]⟩ ∧
      (t.board.rules.get? "semi").bind (·[1]?) = some ⟨⟨.error, [.text "always"]⟩, 2, 2⟩ := by
  intro b base samples
  have hengine : lateStarter.AnswersOrFails := by
    intro n c
    by_cases hn : n = 0 <;> simp [lateStarter, hn, Reply.fault?]
  have hplan : b.planUnder (.whole 16) = .ok (b.plan (Cap.whole 16).admits) := rfl
  obtain ⟨t, hrun, hcalls, -, -, hcharged⟩ := run_calls hengine 0 b hplan base samples
  refine ⟨hengine, _, t, hplan, hrun, ?_, ?_, ?_⟩
  · rw [hcalls]
    rfl
  · rw [hcalls]
    rfl
  · obtain ⟨es, e, hes, he, -, hentry⟩ :=
      hcharged 1 _ rfl ("semi", ⟨.error, [.text "always"]⟩) (by decide)
    obtain rfl := Option.some.inj hes
    obtain rfl := Option.some.inj he
    rw [hentry]
    rfl

end RuleFit
