import RuleFit.Proofs.Inference

/-!
# Where errors go

A trial of the plan for a board charges to every candidate within the cap what was diagnosed for its
rule in its round, and nothing to any other. The board may be any board: whatever was charged to it,
discarded from it or stripped from it before, the rule sets of its own plan stay in line with it.

**Theorem (`run_attributes`).** Where every call is answered or fails, a trial of the plan comes to
its end, the candidates stay where they are, each is charged exactly its own diagnostics, and the
counts add up: what is charged on the whole board is what the tally says was charged, and what was
charged and what was ignored are together all diagnostics that came.

The sum over the board is taken candidate by candidate (`Scoreboard.sumOver`), and it is additive in
what is charged. One diagnostic for a rule of its round adds one (`sumOver_single`), so the
diagnostics of a reply add as many as the round takes (`sumOver_round_charges`), and those of a
transcript add as many as its tally counts (`sumOver_charges`).
-/

namespace RuleFit

namespace Scoreboard

/-! ## Sums over a board -/

/-- The sum of a count over all candidates on the board. -/
def sumOver (b : Scoreboard) (n : Text → Nat → Nat) : Nat :=
  (b.rules.rows.map fun r => ∑ i ∈ Finset.range r.2.length, n r.1 i).sum

/-- The errors of all candidates on the board together. -/
def totalErrors (b : Scoreboard) : Int :=
  (b.rules.rows.map fun r => (r.2.map Entry.errors).sum).sum

variable (b : Scoreboard)

theorem sum_errors_charged (es : List Entry) (n : Nat → Nat) :
    ((es.mapIdx fun i e => e.charge (n i)).map Entry.errors).sum =
      (es.map Entry.errors).sum + ∑ i ∈ Finset.range es.length, n i := by
  induction es generalizing n with
  | nil => simp
  | cons e es ih =>
    have hrest := ih fun i => n (i + 1)
    rw [List.mapIdx_cons, List.map_cons, List.sum_cons, hrest, List.length_cons,
      Finset.sum_range_succ', Entry.charge_errors, List.map_cons, List.sum_cons]
    push_cast
    ring

/-- Charges raise the errors on the board by their sum. -/
theorem totalErrors_chargeBy (n : Text → Nat → Nat) :
    (b.chargeBy n).totalErrors = b.totalErrors + b.sumOver n := by
  simp only [totalErrors, sumOver, chargeBy, RuleTable.rows_map, List.map_map, Function.comp_def,
    sum_errors_charged]
  induction b.rules.rows with
  | nil => simp
  | cons r rows ih =>
    simp only [List.map_cons, List.sum_cons, ih]
    push_cast
    ring

theorem sumOver_zero : b.sumOver (fun _ _ => 0) = 0 := by
  simp [sumOver]

theorem sumOver_add (m n : Text → Nat → Nat) :
    (b.sumOver fun id i => m id i + n id i) = b.sumOver m + b.sumOver n := by
  simp only [sumOver, Finset.sum_add_distrib, List.sum_map_add]

/-- A charge of one to a candidate on the board has the sum one. -/
theorem sumOver_single {id : Text} {es : List Entry} {i : Nat} (h : b.rules.get? id = some es)
    (hi : i < es.length) : (b.sumOver fun x j => if x = id ∧ j = i then 1 else 0) = 1 := by
  obtain ⟨before, after, hrows⟩ := List.append_of_mem (RuleTable.get?_eq_some_iff.1 h)
  have hnodup := b.rules.nodup
  rw [hrows, List.map_append, List.map_cons, List.nodup_middle, List.nodup_cons,
    List.mem_append, not_or] at hnodup
  obtain ⟨⟨hbefore, hafter⟩, -⟩ := hnodup
  -- No other row is for this rule, so the sums of the other rows are zero.
  have hother : ∀ rows : List (Text × List Entry), id ∉ rows.map Prod.fst →
      (rows.map fun r => ∑ j ∈ Finset.range r.2.length,
        if r.1 = id ∧ j = i then 1 else 0).sum = 0 := by
    intro rows hid
    refine List.sum_eq_zero fun n hn => ?_
    obtain ⟨r, hr, rfl⟩ := List.mem_map.1 hn
    have hne : r.1 ≠ id := fun hr' => hid (hr' ▸ List.mem_map_of_mem hr)
    simp [hne]
  rw [sumOver, hrows, List.map_append, List.sum_append, List.map_cons, List.sum_cons,
    hother before hbefore, hother after hafter]
  simp [hi]

/-- The diagnostics of a reply charge as much as the round takes of them. -/
theorem sumOver_round_charges {b : Scoreboard} {round : Round} (h : b.Carries round)
    (ds : List Diagnostic) : b.sumOver (round.charges ds) = ds.countP round.concerns := by
  induction ds with
  | nil => rw [Round.charges_nil, sumOver_zero, List.countP_nil]
  | cons d ds ih =>
    have hsplit : round.charges (d :: ds) =
        fun id i => round.charges [d] id i + round.charges ds id i :=
      funext fun id => funext fun i => round.charges_cons d ds id i
    rw [hsplit, sumOver_add, ih, List.countP_cons, Nat.add_comm]
    refine congrArg _ ?_
    by_cases hd : round.concerns d = true
    · cases d with
      | none => cases hd
      | some id =>
        obtain ⟨es, hes, hlt⟩ := h.exists_entries hd
        rw [if_pos hd, Round.charges_singleton hd, b.sumOver_single hes hlt]
    · rw [if_neg hd, Round.charges_singleton_eq_zero (by simpa using hd), sumOver_zero]

/-- The replies of a transcript charge as much as is counted of them. -/
theorem sumOver_charges {b : Scoreboard} {ps : List (Turn × Reply)}
    (h : ∀ p ∈ ps, b.Carries p.1.round) : b.sumOver (charges ps) = chargedCount ps := by
  induction ps with
  | nil => exact b.sumOver_zero
  | cons p ps ih =>
    obtain ⟨hp, hps⟩ := List.forall_mem_cons.1 h
    have hsplit : charges (p :: ps) =
        fun id i => p.1.round.charges p.2.found id i + charges ps id i := rfl
    rw [hsplit, sumOver_add, sumOver_round_charges hp, ih hps]
    rfl

end Scoreboard

/-- Every diagnostic is charged or ignored. -/
theorem chargedCount_add_ignoredCount (ps : List (Turn × Reply)) :
    chargedCount ps + ignoredCount ps = (ps.map fun p => p.2.found.length).sum := by
  rw [chargedCount, ignoredCount, ← List.sum_map_add]
  refine congrArg List.sum (List.map_congr_left fun p _ => ?_)
  rw [List.length_eq_countP_add_countP p.1.round.concerns]
  simp

/-! ## The run -/

/-- A number is a cap that every count can be held against. -/
theorem Cap.within_of_isNumber {cap : Cap} (h : cap.toDatum.kind.isNumber = true) :
    cap.within = .ok cap.admits := by
  cases cap with
  | whole n => rfl
  | value d =>
    have hwithin : (value d).within = .ok fun count : Nat =>
        (value d).toDatum.quantity?.any fun q => !q.less (.finite (Dyadic.ofInt count)) := by
      simp [within, quantity, h, Except.map]
    rw [hwithin, admits_eq hwithin]

/-- A trial of a plan charges what was diagnosed in the round, to candidates within the cap only. -/
theorem Scoreboard.charges_of_plan (b : Scoreboard) {within : Nat → Bool}
    {base : List (Datum × Datum)} {ps : List (Turn × Reply)}
    (hps : ∀ p ∈ ps, p.1.round ∈ rounds base (b.plan within)) {id : Text} {es : List Entry}
    (h : b.rules.get? id = some es) {i : Nat} (hi : i < es.length) :
    charges ps id i = if within es.length then diagnosed ps i id else 0 := by
  rw [b.plan_eq_columns] at hps
  have hlookup : (b.candidates.filter fun _ cs => within cs.length).get? id =
      (some (es.map Entry.candidate)).filter fun _ => within es.length := by
    rw [RuleTable.get?_filter, b.get?_candidates, h]
    simp [Option.filter]
  by_cases hwithin : within es.length = true
  · rw [if_pos hwithin]
    rw [hwithin, Option.filter_some, if_pos rfl] at hlookup
    exact charges_eq_diagnosed_of_get? hps hlookup (by rwa [List.length_map])
  · rw [if_neg hwithin]
    rw [Option.filter_some, if_neg hwithin] at hlookup
    exact charges_eq_zero_of_get? hps hlookup i

variable {σ : Type} {engine : Engine σ}

/-- **A trial of the plan for a board charges every candidate within the cap what was diagnosed for
its rule in its round, and no other; the counts of the trial add up.** -/
theorem run_attributes (h : engine.AnswersOrFails) (state : σ) (b : Scoreboard) {cap : Cap}
    (hcap : cap.toDatum.kind.isNumber = true) (base : List (Datum × Datum))
    (samples : List Sample) :
    ∃ plan t, b.planUnder cap = .ok plan ∧
      Trial.run engine base plan samples { board := b, state } = .ok t ∧
      let ps := engine.transcript state (turns (rounds base plan) samples)
      t.calls.toList = (ps.map fun p => p.1.call) ∧
      t.board.candidates = b.candidates ∧
      (∀ id es, b.rules.get? id = some es → t.board.rules.get? id = some (es.mapIdx fun i e =>
        e.charge (if cap.admits es.length then diagnosed ps i id else 0))) ∧
      t.board.dropped = b.dropped ∧
      t.tally.files = samples.countP Sample.isReadable ∧
      t.tally.calls = t.tally.files * plan.length ∧
      t.tally.failures = (ps.countP fun p => p.2.isFailed) ∧
      t.board.totalErrors = b.totalErrors + t.tally.charged ∧
      t.tally.charged + t.tally.ignored = (ps.map fun p => p.2.found.length).sum := by
  have hcarries : ∀ round ∈ rounds base (b.plan cap.admits), b.Carries round :=
    fun _ hr => Scoreboard.carries_of_mem_rounds hr
  obtain ⟨t, hrun, ht⟩ := Trial.run_completed h (t := { board := b, state }) base
    (b.plan cap.admits) hcarries samples
  refine ⟨b.plan cap.admits, t, b.planUnder_eq (Cap.within_of_isNumber hcap), hrun, ?_⟩
  intro ps
  have hrounds : ∀ p ∈ ps, p.1.round ∈ rounds base (b.plan cap.admits) :=
    fun p hp => engine.round_mem_of_mem_transcript hp
  have hmoved : Trial.Advanced { board := b, state } t ps := ht.advanced
  have hfiles : t.tally.files = samples.countP Sample.isReadable := by
    rw [ht.files, Nat.zero_add]
  refine ⟨?_, ?_, ?_, ?_, hfiles, ?_, ?_, ?_, ?_⟩
  · rw [hmoved.calls]
    rfl
  · rw [hmoved.board, Scoreboard.candidates_chargeBy]
  · intro id es hes
    rw [hmoved.board, Scoreboard.get?_chargeBy, hes, Option.map_some]
    refine congrArg some (List.ext_getElem? fun i => ?_)
    rw [List.getElem?_mapIdx, List.getElem?_mapIdx]
    by_cases hi : i < es.length
    · rw [b.charges_of_plan hrounds hes hi]
      push_cast
      rfl
    · rw [List.getElem?_eq_none (not_lt.1 hi), Option.map_none, Option.map_none]
  · rw [hmoved.board, Scoreboard.dropped_chargeBy]
  · rw [hfiles, hmoved.made, Engine.length_transcript, length_turns, length_rounds, Nat.zero_add]
  · rw [hmoved.failures, Nat.zero_add]
  · rw [hmoved.board, Scoreboard.totalErrors_chargeBy, hmoved.charged, Nat.zero_add,
      Scoreboard.sumOver_charges fun p hp => hcarries _ (hrounds p hp)]
  · rw [hmoved.charged, hmoved.ignored, Nat.zero_add, Nat.zero_add, chargedCount_add_ignoredCount]

/-- An engine that fails on an empty text and otherwise finds fault with two rules and with none. -/
def pickyEngine : Engine Unit :=
  .stateless fun call =>
    if call.source.isEmpty then .failed "nothing to parse"
    else .diagnostics [some "semi", none, some "quotes"]

/-- A board that was stripped before, with `semi` within the cap and `quotes` above it. -/
theorem run_attributes_semi :
    let b : Scoreboard := ⟨⟨[("semi", [⟨⟨.error, []⟩, 1, 3⟩]), ("quotes", [⟨⟨.error, []⟩, 1, 0⟩,
      ⟨⟨.error, [.text "single"]⟩, 2, 0⟩])], by decide⟩, ["indent"]⟩
    pickyEngine.AnswersOrFails ∧ (Cap.whole 1).toDatum.kind.isNumber = true ∧
      ∃ plan t, b.planUnder (.whole 1) = .ok plan ∧
        Trial.run pickyEngine [] plan [.readable "a.js" "", .readable "b.js" "y"]
          { board := b, state := () } = .ok t ∧
        t.board.rules.get? "semi" = some [⟨⟨.error, []⟩, 1, 4⟩] ∧
        t.tally.failures = 1 ∧ t.tally.charged + t.tally.ignored = 3 := by
  intro b
  have hengine : pickyEngine.AnswersOrFails := by
    intro _ c
    by_cases hc : c.source.isEmpty <;> simp [pickyEngine, Engine.stateless, hc, Reply.fault?]
  have hcap : (Cap.whole 1).toDatum.kind.isNumber = true := rfl
  obtain ⟨plan, t, hplan, hrun, -, -, hentries, -, -, -, hfailures, -, hall⟩ :=
    run_attributes hengine () b hcap [] [.readable "a.js" "", .readable "b.js" "y"]
  obtain rfl : b.plan (Cap.whole 1).admits = plan := Except.ok.inj hplan
  exact ⟨hengine, hcap, _, t, hplan, hrun, hentries "semi" _ rfl, hfailures, hall⟩

end RuleFit
