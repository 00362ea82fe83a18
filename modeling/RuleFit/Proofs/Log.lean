import RuleFit.Proofs.Inference

/-!
# What a run notes

A trial notes events as it goes and never reads them back. So two trials that differ in their notes
only go the same way: they make the same calls, charge and count the same, and end alike
(`run_sameEnd`).

**Theorem (`infer_congr`).** Proposals with the same board lead to inferences that agree: the same
calls, the same result but for the time it took, and the same state of the engine. The events of
setting the board up may differ, and then so do the logs.

The boards before the preparation do not matter for that, only what is prepared: from preparations
of the same trial inferences go the same way, whatever was set aside (`infer_of_prepared`).
-/

namespace RuleFit

namespace Trial

variable {σ : Type}

/-- Two trials that differ at most in what they noted. -/
structure Agrees (t u : Trial σ) : Prop where
  board : t.board = u.board
  state : t.state = u.state
  tally : t.tally = u.tally
  calls : t.calls = u.calls

/-- Two attempts that come to the same, but for what was noted. -/
def SameEnd : Attempt σ (Trial σ) → Attempt σ (Trial σ) → Prop
  | .ok t, .ok u => t.Agrees u
  | .error (f, t), .error (g, u) => f = g ∧ t.Agrees u
  | .ok _, .error _ | .error _, .ok _ => False

/-! ## One step after the other -/

theorem SameEnd.bind {r r' : Attempt σ (Trial σ)} {k k' : Trial σ → Attempt σ (Trial σ)}
    (h : SameEnd r r') (hk : ∀ t u, t.Agrees u → SameEnd (k t) (k' u)) :
    SameEnd (r >>= k) (r' >>= k') := by
  cases r with
  | ok t =>
    cases r' with
    | ok u => exact hk t u h
    | error e => cases h
  | error e =>
    cases r' with
    | ok u => cases h
    | error e' => exact h

theorem sameEnd_foldlM {α : Type} {f : Trial σ → α → Attempt σ (Trial σ)}
    (hf : ∀ t u a, t.Agrees u → SameEnd (f t a) (f u a)) (as : List α) {t u : Trial σ}
    (h : t.Agrees u) : SameEnd (as.foldlM f t) (as.foldlM f u) := by
  induction as generalizing t u with
  | nil => exact h
  | cons a as ih =>
    rw [List.foldlM_cons, List.foldlM_cons]
    exact (hf t u a h).bind fun t₁ u₁ h₁ => ih h₁

/-! ## The steps of a trial -/

theorem Agrees.note {t u : Trial σ} (h : t.Agrees u) (e e' : Event) :
    (t.note e).Agrees (u.note e') :=
  ⟨h.board, h.state, h.tally, h.calls⟩

theorem Agrees.ignore {t u : Trial σ} (h : t.Agrees u) (round : Round) (file : Text)
    (d : Diagnostic) : (t.ignore round file d).Agrees (u.ignore round file d) :=
  ⟨h.board, h.state, congrArg (fun n : Tally => { n with ignored := n.ignored + 1 }) h.tally,
    h.calls⟩

theorem chargeOne_sameEnd {t u : Trial σ} (h : t.Agrees u) (round : Round) (file : Text)
    (d : Diagnostic) : SameEnd (chargeOne round file t d) (chargeOne round file u d) := by
  cases d with
  | none => exact h.ignore round file none
  | some id =>
    simp only [chargeOne]
    by_cases hid : round.rules.contains id = true
    · rw [if_pos hid, if_pos hid, ← h.board]
      cases t.board.charge id round.position 1 with
      | ok board =>
        exact ⟨rfl, h.state,
          congrArg (fun n : Tally => { n with charged := n.charged + 1 }) h.tally, h.calls⟩
      | error f => exact ⟨rfl, rfl, h.state, h.tally, h.calls⟩
    · rw [if_neg hid, if_neg hid]
      exact h.ignore round file (some id)

theorem chargeAll_sameEnd {t u : Trial σ} (h : t.Agrees u) (round : Round) (file : Text)
    (ds : List Diagnostic) : SameEnd (t.chargeAll round file ds) (u.chargeAll round file ds) :=
  sameEnd_foldlM (fun _ _ d h => chargeOne_sameEnd h round file d) ds h

/-- The engine is in the same state, so it gives the same reply. -/
theorem Agrees.call {t u : Trial σ} (h : t.Agrees u) (engine : Engine σ) (c : Call) :
    (t.call engine c).1 = (u.call engine c).1 ∧
      (t.call engine c).2.Agrees (u.call engine c).2 := by
  simp only [Trial.call, h.state]
  exact ⟨trivial, h.board, rfl, congrArg (fun n : Tally => { n with calls := n.calls + 1 }) h.tally,
    congrArg (·.push c) h.calls⟩

theorem lintRound_sameEnd {t u : Trial σ} (h : t.Agrees u) (engine : Engine σ) (file source : Text)
    (round : Round) :
    SameEnd (lintRound engine file source t round) (lintRound engine file source u round) := by
  obtain ⟨hreply, hcall⟩ := h.call engine ⟨source, round.config⟩
  unfold lintRound
  generalize t.call engine ⟨source, round.config⟩ = x at hreply hcall ⊢
  generalize u.call engine ⟨source, round.config⟩ = y at hreply hcall ⊢
  obtain ⟨reply, t₁⟩ := x
  obtain ⟨reply', u₁⟩ := y
  obtain rfl : reply = reply' := hreply
  have h₁ : t₁.Agrees u₁ := hcall
  cases reply with
  | diagnostics ds => exact chargeAll_sameEnd h₁ round file ds
  | failed message =>
    exact ⟨h₁.board, h₁.state,
      congrArg (fun n : Tally => { n with failures := n.failures + 1 }) h₁.tally, h₁.calls⟩
  | missing => exact ⟨rfl, h₁⟩
  | broken ds message =>
    exact (chargeAll_sameEnd h₁ round file ds).bind fun t₂ u₂ h₂ => ⟨rfl, h₂⟩

theorem lintSample_sameEnd {t u : Trial σ} (h : t.Agrees u) (engine : Engine σ)
    (rounds : List Round) (sample : Sample) :
    SameEnd (lintSample engine rounds t sample) (lintSample engine rounds u sample) := by
  cases sample with
  | unreadable file cause => exact h.note _ _
  | readable file source =>
    have hrounds : SameEnd
        (rounds.foldlM (lintRound engine file source) (t.note (.fileStarted file)))
        (rounds.foldlM (lintRound engine file source) (u.note (.fileStarted file))) :=
      sameEnd_foldlM (fun _ _ round h => lintRound_sameEnd h engine file source round) rounds
        (h.note _ _)
    exact hrounds.bind fun t₁ u₁ h₁ => ⟨h₁.board, h₁.state,
      congrArg (fun n : Tally => { n with files := n.files + 1 }) h₁.tally, h₁.calls⟩

/-- Trials that differ in their notes only end alike. -/
theorem run_sameEnd {t u : Trial σ} (h : t.Agrees u) (engine : Engine σ)
    (base : List (Datum × Datum)) (plan : List RuleSet) (samples : List Sample) :
    SameEnd (t.run engine base plan samples) (u.run engine base plan samples) :=
  sameEnd_foldlM (fun _ _ sample h => lintSample_sameEnd h engine _ sample) samples (h.note _ _)

end Trial

/-! ## Inferences -/

/-- A finding without the time it took. -/
def Finding.untimed (f : Finding) : Finding := { f with elapsed := .null }

/-- Two inferences that differ at most in what they noted and in the time they took. -/
structure Inference.Agrees {σ : Type} (r r' : Inference σ) : Prop where
  calls : r.calls = r'.calls
  result : r.result.map Finding.untimed = r'.result.map Finding.untimed
  state : r.state = r'.state

/-- Two preparations of the same trial; they may have set aside different rules. -/
structure Preparation.Agrees (r r' : Preparation) : Prop where
  board : r.board = r'.board
  plan : r.plan = r'.plan
  base : r.base = r'.base

section Infer

variable {σ : Type} (engine : Engine σ) (state : σ) {p q : Proposal} {s : Settings}
  {full full' : Scoreboard} {events events' : List Event}

/-- From preparations of the same trial inferences make the same calls and go on to the same board
and counts, or end alike. -/
theorem infer_of_prepared {ready ready' : Preparation} (hp : p.board s = .ok (full, events))
    (hq : q.board s = .ok (full', events')) (hready : prepare full s = .ok ready)
    (hready' : prepare full' s = .ok ready') (hsame : ready.Agrees ready') (samples : List Sample)
    (start finish start' finish' : Binary64) :
    let r := infer engine state p s samples ⟨.float start, .float finish⟩
    let r' := infer engine state q s samples ⟨.float start', .float finish'⟩
    r.calls = r'.calls ∧ r.state = r'.state ∧
    ∃ (trial : Except InferenceFault (Scoreboard × Tally)) (elapsed elapsed' : Datum),
      r.result = trial.map (fun t =>
        .ofBoard t.1 t.2 ready.untested ready.plan.length elapsed) ∧
      r'.result = trial.map fun t =>
        .ofBoard t.1 t.2 ready'.untested ready'.plan.length elapsed' := by
  obtain ⟨⟨elapsed, seconds⟩, hclock⟩ := Clock.elapsed_float start finish
  obtain ⟨⟨elapsed', seconds'⟩, hclock'⟩ := Clock.elapsed_float start' finish'
  simp only [infer, hp, hq, hready, hready', hclock, hclock', ← hsame.plan, ← hsame.base]
  have hstart : ({ board := ready.board, state, log := (events ++ ready.events).toArray } :
      Trial σ).Agrees { board := ready'.board, state, log := (events' ++ ready'.events).toArray } :=
    ⟨hsame.board, rfl, rfl, rfl⟩
  have hend := Trial.run_sameEnd hstart engine ready.base ready.plan samples
  generalize Trial.run engine ready.base ready.plan samples _ = r at hend ⊢
  generalize Trial.run engine ready.base ready.plan samples _ = r' at hend ⊢
  cases r with
  | error e =>
    cases r' with
    | ok u => cases hend
    | error e' =>
      obtain ⟨hfault, h⟩ := hend
      refine ⟨h.calls, h.state, .error (.trial e.1), elapsed, elapsed', rfl, ?_⟩
      rw [hfault]
      rfl
  | ok t =>
    cases r' with
    | error e' => cases hend
    | ok u =>
      have h : t.Agrees u := hend
      refine ⟨h.calls, h.state, .ok (t.board, t.tally), elapsed, elapsed', rfl, ?_⟩
      rw [h.board, h.tally]
      rfl

/-- **Proposals with the same board lead to inferences that agree.** -/
theorem infer_congr (hp : p.board s = .ok (full, events)) (hq : q.board s = .ok (full, events'))
    (samples : List Sample) (start finish start' finish' : Binary64) :
    (infer engine state p s samples ⟨.float start, .float finish⟩).Agrees
      (infer engine state q s samples ⟨.float start', .float finish'⟩) := by
  cases hready : prepare full s with
  | error r =>
    simp only [infer, hp, hq, hready]
    exact ⟨rfl, rfl, rfl⟩
  | ok ready =>
    obtain ⟨hcalls, hstate, trial, elapsed, elapsed', hresult, hresult'⟩ :=
      infer_of_prepared engine state hp hq hready hready ⟨rfl, rfl, rfl⟩ samples start finish
        start' finish'
    refine ⟨hcalls, ?_, hstate⟩
    rw [hresult, hresult']
    cases trial <;> rfl

end Infer

end RuleFit
