import RuleFit.Proofs.Batching
import RuleFit.Proofs.Steps

/-!
# Where every rule ends up

A finding names rules in four places: those it settles, and those that are dropped, unresolved and
untested. Each place comes about in its own way: untested rules are taken off the board before the
trial, dropped ones when it is stripped, settled ones come out of merged tables, and unresolved ones
are what is left.

**Theorem (`infer_partition`).** Whenever an inference ends with a finding, whatever the engine, the
settings and the candidates, the finding names every proposed rule that is not denied, in one place
and once, and no other rule. Untested are those with more candidates than the cap, and no call
configures a denied or an untested rule.

That rules are named once is counted: a rule is named as often as its verdict has places taken
(`count_named`). On a board that is one place for every rule (`places_ofBoard`), and a rule that is
set aside is off the board and has its place among the untested. An inference that ends with a
finding has gone through all its steps, so its finding is of this kind (`infer_of_ok`).
-/

namespace RuleFit

/-! ## Places -/

/-- Every rule that a finding names, place by place. -/
def Finding.named (f : Finding) : List Text :=
  f.rules.ids ++ f.dropped ++ f.unresolved ++ f.untested

/-- The number of places that a verdict puts a rule in. -/
def Verdict.places (v : Verdict) : Nat :=
  v.config.isSome.toNat + v.dropped.toNat + v.unresolved.toNat + v.untested.toNat

/-- Clean entries settle a rule, leave it unresolved or are missing. -/
theorem Verdict.places_ofEntries (clean : List Entry) : (ofEntries clean).places = 1 := by
  cases clean with
  | nil => rfl
  | cons e es =>
    cases he : pick? (e :: es) <;> simp [places, ofEntries, he]

theorem count_eq_contains {l : List Text} (h : l.Nodup) (id : Text) :
    l.count id = (l.contains id).toNat := by
  by_cases hid : id ∈ l
  · rw [List.count_eq_one_of_mem h hid, List.contains_iff_mem.2 hid]
    rfl
  · rw [List.count_eq_zero.2 hid]
    simp [hid]

/-- A rule is named as often as there are places for it. -/
theorem Finding.count_named {f : Finding} (hdropped : f.dropped.Nodup)
    (hunresolved : f.unresolved.Nodup) (huntested : f.untested.Nodup) (id : Text) :
    f.named.count id = (f.verdict id).places := by
  rw [named, List.count_append, List.count_append, List.count_append,
    count_eq_contains f.rules.nodup_ids, count_eq_contains hdropped,
    count_eq_contains hunresolved, count_eq_contains huntested, RuleTable.contains_ids]
  rfl

/-! ## The finding on a board -/

section Board

variable {b : Scoreboard} (tally : Tally) {untested : List Text} (ruleSets : Nat) (elapsed : Datum)

/-- A rule has one place for being on the board, and one for being set aside. -/
theorem places_ofBoard (hd : b.dropped = []) (id : Text) :
    ((Finding.ofBoard b tally untested ruleSets elapsed).verdict id).places =
      (b.rules.get? id).isSome.toNat + (untested.contains id).toNat := by
  cases hes : b.rules.get? id with
  | none =>
    rw [verdict_ofBoard_none _ _ _ _ hd hes]
    simp [Verdict.places]
  | some es =>
    have hone := Verdict.places_ofEntries (es.filter Entry.isClean)
    rw [verdict_ofBoard _ _ _ _ hd hes]
    simp only [Verdict.places, Verdict.ofEntries, Bool.toNat_false, Nat.add_zero] at hone ⊢
    rw [hone]
    rfl

theorem count_named_ofBoard (hd : b.dropped = []) (hu : untested.Nodup) (id : Text) :
    (Finding.ofBoard b tally untested ruleSets elapsed).named.count id =
      (b.rules.get? id).isSome.toNat + (untested.contains id).toNat := by
  have hdropped : b.strip.dropped.Nodup := by
    rw [Scoreboard.strip, hd]
    exact RuleTable.nodup_ids _
  have hunresolved : (b.strip.unresolved b.strip.choose).Nodup :=
    b.strip.rules.nodup_ids.sublist List.filter_sublist
  rw [Finding.count_named hdropped hunresolved hu, places_ofBoard tally ruleSets elapsed hd]

end Board

/-! ## The rules set aside -/

/-- Whether a rule with so many candidates is above the cap. -/
def Cap.excludes (cap : Cap) (count : Nat) : Bool :=
  match cap.below with
  | .ok test => test count
  | .error _ => false

theorem Cap.excludes_eq {cap : Cap} {tooMany : Nat → Bool} (h : cap.below = .ok tooMany) :
    cap.excludes = tooMany := by
  funext count
  rw [excludes, h]

namespace Scoreboard

variable {b : Scoreboard} {cap : Cap}

theorem eq_untestable {untested : List Text} (h : b.aboveCap cap = .ok untested) :
    untested = b.untestable cap.excludes := by
  cases hcap : cap.below with
  | ok tooMany =>
    rw [b.aboveCap_eq hcap, ← Cap.excludes_eq hcap] at h
    exact (Except.ok.inj h).symm
  | error f =>
    rw [aboveCap, hcap] at h
    split_ifs at h with hb
    · rw [untestable_eq_nil hb]
      exact (Except.ok.inj h).symm
    · cases h

theorem eq_plan {plan : List RuleSet} (h : b.planUnder cap = .ok plan) :
    plan = b.plan cap.admits := by
  cases hcap : cap.within with
  | ok within =>
    rw [b.planUnder_eq hcap, ← Cap.admits_eq hcap] at h
    exact (Except.ok.inj h).symm
  | error f =>
    rw [planUnder, hcap] at h
    split_ifs at h with hb
    · rw [plan_eq_nil hb]
      exact (Except.ok.inj h).symm
    · cases h

/-- A rule is left on the board or set aside. -/
theorem isSome_discard_add_contains (b : Scoreboard) (tooMany : Nat → Bool) (id : Text) :
    ((b.discard (b.untestable tooMany)).rules.get? id).isSome.toNat +
      ((b.untestable tooMany).contains id).toNat = (b.rules.get? id).isSome.toNat := by
  rw [rules_discard_untestable, untestable, RuleTable.contains_ids, RuleTable.get?_filter,
    RuleTable.get?_filter]
  cases b.rules.get? id with
  | none => rfl
  | some es => cases hmany : tooMany es.length <;> simp [hmany]

/-- Where setting aside does not fail, the rules above the cap are off the board. -/
theorem setAside_of_ok {left : Scoreboard} {untested : List Text} {events : List Event}
    (h : setAside b cap = .ok (left, untested, events)) :
    untested = b.untestable cap.excludes ∧ left = b.discard untested := by
  rw [setAside, bind_eq_ok] at h
  obtain ⟨above, habove, h⟩ := h
  obtain rfl := eq_untestable (mapError_eq_ok.1 habove)
  split_ifs at h with hnone
  · cases h
    exact ⟨(List.isEmpty_iff.1 hnone).symm, b.discard_nil.symm⟩
  · cases hcap : cap.truncated? with
    | none =>
      rw [hcap] at h
      cases h
    | some n =>
      rw [hcap] at h
      cases h
      exact ⟨rfl, rfl⟩

end Scoreboard

/-! ## An inference that ends with a finding -/

theorem Proposal.eq_undenied {p : Proposal} {s : Settings} {full : Scoreboard}
    {setUp : List Event} (h : p.board s = .ok (full, setUp)) : full = p.undenied s := by
  obtain ⟨catalog, given⟩ := p
  cases given with
  | some given =>
    simp only [board] at h
    split at h
    · cases h
    · exact (congrArg Prod.fst (Except.ok.inj h)).symm
  | none =>
    cases catalog with
    | some catalog =>
      obtain ⟨rfl, -⟩ := Prod.mk.inj (Except.ok.inj h)
      rw [undenied, candidates, candidates_catalog]
    | none => cases h

/-- What a preparation without a fault comes to. -/
theorem prepare_of_ok {full : Scoreboard} {s : Settings} {ready : Preparation}
    (h : prepare full s = .ok ready) :
    ready.untested = full.untestable s.cap.excludes ∧
    ready.board = full.discard ready.untested ∧
    ready.plan = ready.board.plan s.cap.admits := by
  simp only [prepare, bind_eq_ok, mapError_eq_ok] at h
  obtain ⟨⟨left, untested, events⟩, haside, plan, hplan, h⟩ := h
  obtain ⟨huntested, hleft⟩ := Scoreboard.setAside_of_ok haside
  have hready : ready.board = left ∧ ready.untested = untested ∧ ready.plan = plan := by
    split_ifs at h
    · obtain ⟨base, -, h⟩ := bind_eq_ok.1 h
      cases h
      exact ⟨rfl, rfl, rfl⟩
    · obtain ⟨base, -, h⟩ := bind_eq_ok.1 h
      cases h
      exact ⟨rfl, rfl, rfl⟩
  obtain ⟨rfl, rfl, rfl⟩ := hready
  exact ⟨huntested, hleft, Scoreboard.eq_plan hplan⟩

section Run

variable {σ : Type} {engine : Engine σ} {state : σ} {p : Proposal} {s : Settings}
  {samples : List Sample} {clock : Clock} {finding : Finding}

/-- An inference with a finding has gone through all its steps. -/
theorem infer_steps (h : (infer engine state p s samples clock).result = .ok finding) :
    ∃ setUp ready t elapsed,
      prepare (p.undenied s) s = .ok ready ∧
      Trial.run engine ready.base ready.plan samples
        { board := ready.board, state, log := (setUp ++ ready.events).toArray } = .ok t ∧
      finding = .ofBoard t.board t.tally ready.untested ready.plan.length elapsed ∧
      (infer engine state p s samples clock).calls = t.calls ∧
      p.board s = .ok (p.undenied s, setUp) ∧
      ∃ seconds, (infer engine state p s samples clock).log =
        (t.log ++ t.board.stripEvents).push (.finished seconds) := by
  unfold infer at h ⊢
  cases hboard : p.board s with
  | error f =>
    rw [hboard] at h
    cases h
  | ok r =>
    obtain ⟨full, setUp⟩ := r
    obtain rfl := Proposal.eq_undenied hboard
    rw [hboard] at h
    cases hready : prepare (p.undenied s) s with
    | error r =>
      simp only [hready] at h
      cases h
    | ok ready =>
      simp only [hready] at h ⊢
      cases hrun : Trial.run engine ready.base ready.plan samples
          { board := ready.board, state, log := (setUp ++ ready.events).toArray } with
      | error r =>
        simp only [hrun] at h
        cases h
      | ok t =>
        simp only [hrun] at h ⊢
        cases helapsed : clock.elapsed with
        | error f =>
          simp only [helapsed] at h
          cases h
        | ok r =>
          simp only [helapsed] at h ⊢
          exact ⟨setUp, ready, t, r.1, rfl, hrun, (Except.ok.inj h).symm, rfl, rfl, r.2, rfl⟩

/-- With proper settings an inference ends with a finding exactly when no reply ends its trial. -/
theorem infer_isOk_iff (hp : p.IsSingle) (hs : s.IsProper) (start finish : Binary64) :
    (∃ finding,
      (infer engine state p s samples ⟨.float start, .float finish⟩).result = .ok finding) ↔
      ∀ q ∈ engine.transcript state (p.turns s samples), q.2.fault? = none := by
  constructor
  · rintro ⟨finding, hfinding⟩
    obtain ⟨setUp, ready, t, elapsed, hready, hrun, -⟩ := infer_steps hfinding
    obtain ⟨ready', hready', -, hleft, hplan, -, hrounds⟩ := p.prepare_undenied hs
    obtain rfl : ready' = ready := Except.ok.inj (hready'.symm.trans hready)
    let start : Trial σ :=
      { board := ready'.board, state, log := (setUp ++ ready'.events).toArray }
    have hcourse : Trial.Course engine start (turns (rounds ready'.base ready'.plan) samples)
        (samples.countP Sample.isReadable) (start.run engine ready'.base ready'.plan samples) :=
      Trial.run_course ready'.base ready'.plan
        (fun _ hr => Scoreboard.carries_of_mem_rounds (hplan ▸ hr)) samples
    rw [hrounds] at hcourse
    exact hcourse.isOk_iff.1 ⟨t, hrun⟩
  · intro h
    obtain ⟨finding, hfinding, -⟩ := infer_reflects_of_settled state hp hs samples h start finish
    exact ⟨finding, hfinding⟩

/-- A finding is on the board of the rules that are not above the cap, with some charges, and the
calls were those of the plan for it. -/
theorem infer_of_ok (h : (infer engine state p s samples clock).result = .ok finding) :
    let above := (p.undenied s).untestable s.cap.excludes
    let left := (p.undenied s).discard above
    ∃ base n tally ruleSets elapsed,
      finding = .ofBoard (left.chargeBy n) tally above ruleSets elapsed ∧
      (infer engine state p s samples clock).calls.toList =
        (turns (rounds base (left.plan s.cap.admits)) samples).map Turn.call := by
  obtain ⟨setUp, ready, t, elapsed, hready, hrun, rfl, hcalls, -⟩ := infer_steps h
  obtain ⟨huntested, hleft, hplan⟩ := prepare_of_ok hready
  let start : Trial σ :=
    { board := ready.board, state, log := (setUp ++ ready.events).toArray }
  have hcourse : Trial.Course engine start (turns (rounds ready.base ready.plan) samples)
      (samples.countP Sample.isReadable) (start.run engine ready.base ready.plan samples) :=
    Trial.run_course ready.base ready.plan
      (fun _ hr => Scoreboard.carries_of_mem_rounds (hplan ▸ hr)) samples
  rw [hrun] at hcourse
  have hmoved := hcourse.advanced
  let ps := engine.transcript state (turns (rounds ready.base ready.plan) samples)
  refine ⟨ready.base, charges ps, t.tally, ready.plan.length, elapsed, ?_, ?_⟩
  · have hstart : start.board = ready.board := rfl
    rw [hmoved.board, hstart, hleft, huntested]
  · rw [hcalls, hmoved.calls, Engine.map_call_transcript, hplan, hleft, huntested]
    rfl

/-- A rule that is not on the board is configured in no call of its plan. -/
theorem ruleConfig?_of_mem_rounds {b : Scoreboard} {within : Nat → Bool}
    {base : List (Datum × Datum)} {round : Round} (hr : round ∈ rounds base (b.plan within))
    {id : Text} (h : b.rules.get? id = none) : ruleConfig? round.config id = none := by
  have hconfig : round.config = lintConfig base round.rules := by
    obtain ⟨_, -, rfl⟩ := List.mem_map.1 hr
    rfl
  rw [hconfig, ruleConfig?_lintConfig, Option.map_eq_none_iff]
  cases hc : round.rules.get? id with
  | none => rfl
  | some c =>
    obtain ⟨cs, hcs, -⟩ := Scoreboard.carries_of_mem_rounds hr id c hc
    rw [Scoreboard.get?_candidates, h] at hcs
    cases hcs

/-- **A finding names every rule that is proposed and not denied in one place, and no other rule;
untested are those above the cap, and neither they nor denied rules are ever tried.** -/
theorem infer_partition (h : (infer engine state p s samples clock).result = .ok finding) :
    finding.named.Nodup ∧
    (∀ id, id ∈ finding.named ↔ id ∈ (p.candidates s.severity).ids ∧ id ∉ s.deny) ∧
    (∀ id, id ∈ finding.untested ↔ ∃ cs, (p.candidates s.severity).get? id = some cs ∧
      id ∉ s.deny ∧ s.cap.excludes cs.length = true) ∧
    ∀ call ∈ (infer engine state p s samples clock).calls, ∀ id,
      id ∈ s.deny ∨ id ∈ finding.untested → ruleConfig? call.config id = none := by
  obtain ⟨base, n, tally, ruleSets, elapsed, rfl, hcalls⟩ := infer_of_ok h
  set above := (p.undenied s).untestable s.cap.excludes
  set left := (p.undenied s).discard above
  have hnodup : above.Nodup := RuleTable.nodup_ids _
  have hdropped : (left.chargeBy n).dropped = [] := rfl
  have hcount : ∀ id, (Finding.ofBoard (left.chargeBy n) tally above ruleSets elapsed).named.count
      id = ((p.undenied s).rules.get? id).isSome.toNat := by
    intro id
    rw [count_named_ofBoard _ _ _ hdropped hnodup, Scoreboard.get?_chargeBy,
      Option.isSome_map, Scoreboard.isSome_discard_add_contains]
  refine ⟨?_, ?_, fun id => p.mem_untestable_undenied s, ?_⟩
  · rw [List.nodup_iff_count_le_one]
    intro id
    rw [hcount]
    exact Bool.toNat_le _
  · intro id
    rw [← List.count_pos_iff, hcount, p.get?_undenied, RuleTable.mem_ids_iff]
    cases (p.candidates s.severity).get? id <;> by_cases hdeny : id ∈ s.deny <;> simp [hdeny]
  · intro call hcall id hid
    have hoff : left.rules.get? id = none := by
      have hleft : left.rules.get? id =
          ((p.undenied s).rules.get? id).filter fun _ => !above.contains id :=
        RuleTable.get?_filter ..
      rw [hleft]
      rcases hid with hdenied | huntested
      · simp [p.get?_undenied, hdenied]
      · have habove : id ∈ above := huntested
        simp [habove]
    rw [← Array.mem_toList_iff, hcalls] at hcall
    obtain ⟨turn, hturn, rfl⟩ := List.mem_map.1 hcall
    exact ruleConfig?_of_mem_rounds (round_mem_of_mem_turns hturn) hoff

end Run

/-- Of three rules `eqeqeq` is denied, `quotes` is above the cap and `semi` is at fault: only `semi`
and `quotes` are named, and `quotes` is in no call. -/
theorem infer_partition_quotes :
    let inference := infer (.stateless fun _ => .diagnostics [some "semi"]) ()
      ⟨none, some ⟨[("eqeqeq", [⟨.error, []⟩]), ("semi", [⟨.error, []⟩]),
        ("quotes", [⟨.error, []⟩, ⟨.error, [.text "single"]⟩])], by decide⟩⟩
      { deny := ["eqeqeq"], cap := .whole 1 } [.readable "a.js" "x"] .stopped
    ∃ finding, inference.result = .ok finding ∧ finding.named.Nodup ∧
      ("semi" : Text) ∈ finding.named ∧ ("quotes" : Text) ∈ finding.untested ∧
      ("eqeqeq" : Text) ∉ finding.named ∧
      ∀ call ∈ inference.calls, ruleConfig? call.config "quotes" = none := by
  intro inference
  have hresult : ∃ finding, inference.result = .ok finding := ⟨_, rfl⟩
  obtain ⟨finding, h⟩ := hresult
  obtain ⟨hnodup, hnamed, huntested, hcalls⟩ := infer_partition h
  have hquotes : ("quotes" : Text) ∈ finding.untested :=
    (huntested "quotes").2 ⟨_, rfl, by decide, by decide⟩
  exact ⟨finding, h, hnodup, (hnamed "semi").2 (by decide), hquotes,
    fun hmem => ((hnamed "eqeqeq").1 hmem).2 (by decide),
    fun call hcall => hcalls call hcall "quotes" (.inr hquotes)⟩

end RuleFit
