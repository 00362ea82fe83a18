import RuleFit.Proofs.Transcript

/-!
# The course of a trial

A trial goes through its turns in order until a reply ends it. Where it goes through all of them,
and where it stops, what it charged, called and counted by then is read off the transcript so far.

**Theorem (`run_course`).** Let every candidate of the plan stand on the board at the position of
its rule set. Then a trial of the plan either completes its turns, every reply being a list of
diagnostics or a failure, or stops at the first reply that is missing or breaks off.

One step is one turn (`lintRound_course`); the course of a whole trial is put together from it
(`Course.bind`). Charges leave the candidates in place, so the assumption on the board is kept.
-/

namespace RuleFit

/-- Every candidate of the round stands on the board at the position of the round. -/
def Scoreboard.Carries (b : Scoreboard) (round : Round) : Prop :=
  ∀ id c, round.rules.get? id = some c →
    ∃ cs, b.candidates.get? id = some cs ∧ cs[round.position]? = some c

theorem Scoreboard.Carries.chargeBy {b : Scoreboard} {round : Round} (h : b.Carries round)
    (n : Text → Nat → Nat) : (b.chargeBy n).Carries round := by
  rw [Scoreboard.Carries, candidates_chargeBy]
  exact h

/-- A rule of the round has a candidate on the board at the position of the round. -/
theorem Scoreboard.Carries.exists_entries {b : Scoreboard} {round : Round} (h : b.Carries round)
    {id : Text} (hid : round.rules.contains id = true) :
    ∃ es, b.rules.get? id = some es ∧ round.position < es.length := by
  obtain ⟨c, hc⟩ := Option.isSome_iff_exists.1 (RuleTable.contains_eq_isSome .. ▸ hid)
  obtain ⟨cs, hcs, hget⟩ := h id c hc
  rw [Scoreboard.get?_candidates, Option.map_eq_some_iff] at hcs
  obtain ⟨es, hes, rfl⟩ := hcs
  exact ⟨es, hes, by simpa using (List.getElem?_eq_some_iff.1 hget).1⟩

namespace Trial

variable {σ : Type}

/-- How a trial has moved on over some turns with their replies. -/
structure Advanced (t t' : Trial σ) (ps : List (Turn × Reply)) : Prop where
  board : t'.board = t.board.chargeBy (RuleFit.charges ps)
  calls : t'.calls.toList = t.calls.toList ++ ps.map fun p => p.1.call
  made : t'.tally.calls = t.tally.calls + ps.length
  failures : t'.tally.failures = t.tally.failures + ps.countP fun p => p.2.isFailed
  charged : t'.tally.charged = t.tally.charged + chargedCount ps
  ignored : t'.tally.ignored = t.tally.ignored + ignoredCount ps

/-- Every turn was taken and no reply ended the trial; so many files were linted. -/
structure Completed (engine : Engine σ) (t t' : Trial σ) (ts : List Turn) (files : Nat) : Prop where
  advanced : Advanced t t' (engine.transcript t.state ts)
  settled : ∀ p ∈ engine.transcript t.state ts, p.2.fault? = none
  state : t'.state = engine.after t.state ts
  files : t'.tally.files = t.tally.files + files

/-- The reply to `turn` ended the trial with the fault `f`, and those before it did not. -/
structure Stopped (engine : Engine σ) (t t' : Trial σ) (f : TrialFault) (before : List Turn)
    (turn : Turn) : Prop where
  advanced : Advanced t t' (engine.transcript t.state (before ++ [turn]))
  settled : ∀ p ∈ engine.transcript t.state before, p.2.fault? = none
  fault : (engine.verify (engine.after t.state before) turn.call).1.fault? = some f

/-- What comes of a trial that means to take some turns. -/
def Course (engine : Engine σ) (t : Trial σ) (ts : List Turn) (files : Nat) :
    Except (TrialFault × Trial σ) (Trial σ) → Prop
  | .ok t' => Completed engine t t' ts files
  | .error (f, t') =>
    ∃ before turn rest, ts = before ++ turn :: rest ∧ Stopped engine t t' f before turn

/-! ## Courses one after the other -/

theorem Advanced.trans {t t₁ t₂ : Trial σ} {ps qs : List (Turn × Reply)} (h : Advanced t t₁ ps)
    (h' : Advanced t₁ t₂ qs) : Advanced t t₂ (ps ++ qs) where
  board := by rw [h'.board, h.board, Scoreboard.chargeBy_chargeBy, charges_append]
  calls := by rw [h'.calls, h.calls, List.map_append, List.append_assoc]
  made := by rw [h'.made, h.made, List.length_append, Nat.add_assoc]
  failures := by rw [h'.failures, h.failures, List.countP_append, Nat.add_assoc]
  charged := by rw [h'.charged, h.charged, chargedCount_append, Nat.add_assoc]
  ignored := by rw [h'.ignored, h.ignored, ignoredCount_append, Nat.add_assoc]

variable {engine : Engine σ}

theorem Completed.trans {t t₁ t₂ : Trial σ} {as bs : List Turn} {m n : Nat}
    (h : Completed engine t t₁ as m) (h' : Completed engine t₁ t₂ bs n) :
    Completed engine t t₂ (as ++ bs) (m + n) where
  advanced := by
    rw [Engine.transcript_append, ← h.state]
    exact h.advanced.trans h'.advanced
  settled p hp := by
    rw [Engine.transcript_append, ← h.state] at hp
    exact (List.mem_append.1 hp).elim (h.settled p) (h'.settled p)
  state := by rw [h'.state, h.state, Engine.after_append]
  files := by rw [h'.files, h.files, Nat.add_assoc]

theorem Completed.trans_stopped {t t₁ t₂ : Trial σ} {as before : List Turn} {turn : Turn} {m : Nat}
    {f : TrialFault} (h : Completed engine t t₁ as m) (h' : Stopped engine t₁ t₂ f before turn) :
    Stopped engine t t₂ f (as ++ before) turn where
  advanced := by
    rw [List.append_assoc, Engine.transcript_append, ← h.state]
    exact h.advanced.trans h'.advanced
  settled p hp := by
    rw [Engine.transcript_append, ← h.state] at hp
    exact (List.mem_append.1 hp).elim (h.settled p) (h'.settled p)
  fault := by rw [Engine.after_append, ← h.state, h'.fault]

theorem Course.bind {t : Trial σ} {as bs : List Turn} {m n : Nat}
    {r : Except (TrialFault × Trial σ) (Trial σ)}
    {k : Trial σ → Except (TrialFault × Trial σ) (Trial σ)} (h : Course engine t as m r)
    (hk : ∀ t₁, r = .ok t₁ → Completed engine t t₁ as m → Course engine t₁ bs n (k t₁)) :
    Course engine t (as ++ bs) (m + n) (r >>= k) := by
  cases r with
  | error e =>
    obtain ⟨before, turn, rest, rfl, hs⟩ := h
    exact ⟨before, turn, rest ++ bs, by simp, hs⟩
  | ok t₁ =>
    have h₁ : Course engine t₁ bs n (k t₁) := hk t₁ rfl h
    show Course engine t (as ++ bs) (m + n) (k t₁)
    cases hr : k t₁ with
    | error e =>
      rw [hr] at h₁
      obtain ⟨before, turn, rest, rfl, hs⟩ := h₁
      exact ⟨as ++ before, turn, rest, by simp, Completed.trans_stopped h hs⟩
    | ok t₂ =>
      rw [hr] at h₁
      exact Completed.trans h h₁

/-- Files and events can be noted between turns. -/
theorem course_nil {t t' : Trial σ} {n : Nat} (hboard : t'.board = t.board)
    (hstate : t'.state = t.state) (hcalls : t'.calls = t.calls)
    (htally : t'.tally = { t.tally with files := t.tally.files + n }) :
    Course engine t [] n (.ok t') where
  advanced := {
    board := hboard.trans t.board.chargeBy_zero.symm
    calls := by rw [hcalls]; exact (List.append_nil _).symm
    made := by rw [htally]; rfl
    failures := by rw [htally]; rfl
    charged := by rw [htally]; rfl
    ignored := by rw [htally]; rfl }
  settled p hp := by cases hp
  state := hstate
  files := by rw [htally]

/-! ## One turn -/

/-- How a trial has moved on over the diagnostics of one reply. -/
structure Heard (t t' : Trial σ) (round : Round) (ds : List Diagnostic) : Prop where
  board : t'.board = t.board.chargeBy (round.charges ds)
  state : t'.state = t.state
  calls : t'.calls = t.calls
  tally : t'.tally = { t.tally with
    charged := t.tally.charged + ds.countP round.concerns
    ignored := t.tally.ignored + ds.countP fun d => !round.concerns d }

theorem heard_ignore (t : Trial σ) {round : Round} (file : Text) {d : Diagnostic}
    (h : round.concerns d = false) : Heard t (t.ignore round file d) round [d] where
  board := by
    rw [Round.charges_singleton_eq_zero h, Scoreboard.chargeBy_zero]
    rfl
  state := rfl
  calls := rfl
  tally := by simp [h, ignore, note]

theorem chargeOne_heard {t : Trial σ} {round : Round} (h : t.board.Carries round) (file : Text)
    (d : Diagnostic) : ∃ t', chargeOne round file t d = .ok t' ∧ Heard t t' round [d] := by
  cases d with
  | none => exact ⟨_, rfl, heard_ignore t file rfl⟩
  | some id =>
    by_cases hid : round.rules.contains id = true
    · obtain ⟨es, hes, hlt⟩ := h.exists_entries hid
      have hcharge := t.board.charge_eq_chargeBy hes hlt
      let t' : Trial σ := { t with
        board := t.board.chargeBy fun x j => if x = id ∧ j = round.position then 1 else 0
        tally := { t.tally with charged := t.tally.charged + 1 } }
      have hstep : chargeOne round file t (some id) = .ok t' := by
        simp only [chargeOne, hid, if_true, hcharge]
        rfl
      refine ⟨t', hstep, ?_, rfl, rfl, ?_⟩
      · rw [Round.charges_singleton hid]
      · simp [t', Round.concerns, hid]
    · have hignored : round.concerns (some id) = false := by simpa [Round.concerns] using hid
      exact ⟨_, by rw [chargeOne, if_neg hid], heard_ignore t file hignored⟩

theorem chargeAll_heard {t : Trial σ} {round : Round} (h : t.board.Carries round) (file : Text)
    (ds : List Diagnostic) :
    ∃ t', t.chargeAll round file ds = .ok t' ∧ Heard t t' round ds := by
  induction ds generalizing t with
  | nil => exact ⟨t, rfl, by simp [Scoreboard.chargeBy_zero], rfl, rfl, rfl⟩
  | cons d ds ih =>
    obtain ⟨t₁, h₁, hd⟩ := chargeOne_heard h file d
    obtain ⟨t₂, h₂, hds⟩ := ih (t := t₁) (hd.board ▸ h.chargeBy _)
    refine ⟨t₂, ?_, ?_, ?_, ?_, ?_⟩
    · rw [chargeAll, List.foldlM_cons, h₁]
      exact h₂
    · rw [hds.board, hd.board, Scoreboard.chargeBy_chargeBy]
      congr 1
      funext id i
      exact (round.charges_cons d ds id i).symm
    · rw [hds.state, hd.state]
    · rw [hds.calls, hd.calls]
    · rw [hds.tally, hd.tally]
      simp [List.countP_cons, Nat.add_assoc, Nat.add_comm (List.countP _ ds)]

theorem heard_nil (t : Trial σ) (round : Round) : Heard t t round [] where
  board := by rw [Round.charges_nil, Scoreboard.chargeBy_zero]
  state := rfl
  calls := rfl
  tally := rfl

/-- A call that was counted and the diagnostics of its reply make one turn. -/
theorem Heard.advanced {t u t' : Trial σ} {turn : Turn} {reply : Reply}
    (h : Heard u t' turn.round reply.found) (hboard : u.board = t.board)
    (hcalls : u.calls = t.calls.push turn.call)
    (htally : u.tally = { t.tally with
      calls := t.tally.calls + 1
      failures := t.tally.failures + if reply.isFailed then 1 else 0 }) :
    Advanced t t' [(turn, reply)] where
  board := by rw [h.board, hboard, charges_singleton]
  calls := by rw [h.calls, hcalls, Array.toList_push]; rfl
  made := by rw [h.tally, htally]; rfl
  failures := by rw [h.tally, htally]; simp [List.countP_cons]
  charged := by rw [h.tally, htally]; simp [chargedCount]
  ignored := by rw [h.tally, htally]; simp [ignoredCount]

theorem completed_turn {t t' : Trial σ} {turn : Turn} {reply : Reply}
    (hreply : (engine.verify t.state turn.call).1 = reply) (hsettled : reply.fault? = none)
    (h : Advanced t t' [(turn, reply)]) (hstate : t'.state = (engine.verify t.state turn.call).2)
    (hfiles : t'.tally.files = t.tally.files) : Completed engine t t' [turn] 0 where
  advanced := by rw [Engine.transcript_singleton, hreply]; exact h
  settled p hp := by
    rw [Engine.transcript_singleton, hreply, List.mem_singleton] at hp
    rw [hp, hsettled]
  state := hstate
  files := hfiles

theorem stopped_turn {t t' : Trial σ} {turn : Turn} {reply : Reply} {f : TrialFault}
    (hreply : (engine.verify t.state turn.call).1 = reply) (hf : reply.fault? = some f)
    (h : Advanced t t' [(turn, reply)]) : Course engine t [turn] 0 (.error (f, t')) := by
  refine ⟨[], turn, [], rfl, ?_, fun p hp => ?_, ?_⟩
  · rw [List.nil_append, Engine.transcript_singleton, hreply]
    exact h
  · cases hp
  · rw [Engine.after, List.foldl_nil, hreply, hf]

/-- A turn completes when the reply is a list of diagnostics or a failure, and stops otherwise. -/
theorem lintRound_course {t : Trial σ} {round : Round} (h : t.board.Carries round)
    (file source : Text) :
    Course engine t [⟨round, source⟩] 0 (lintRound engine file source t round) := by
  let turn : Turn := ⟨round, source⟩
  let t₁ := (t.call engine turn.call).2
  cases hreply : (engine.verify t.state ⟨source, round.config⟩).1 with
  | diagnostics ds =>
    have hlint : lintRound engine file source t round = t₁.chargeAll round file ds := by
      simp only [lintRound, call, hreply]
      rfl
    obtain ⟨t', ht', hd⟩ := chargeAll_heard (t := t₁) h file ds
    have hadv : Advanced t t' [(turn, .diagnostics ds)] := hd.advanced (u := t₁) rfl rfl rfl
    rw [hlint, ht']
    refine completed_turn hreply rfl hadv hd.state ?_
    rw [hd.tally]
    rfl
  | failed message =>
    let u := t₁.fail round file message
    have hlint : lintRound engine file source t round = .ok u := by
      simp only [lintRound, call, hreply]
      rfl
    have hadv : Advanced t u [(turn, .failed message)] :=
      (heard_nil u round).advanced (u := u) rfl rfl rfl
    rw [hlint]
    exact completed_turn hreply rfl hadv rfl rfl
  | missing =>
    have hlint : lintRound engine file source t round = .error (.missing, t₁) := by
      simp only [lintRound, call, hreply]
      rfl
    have hadv : Advanced t t₁ [(turn, .missing)] :=
      (heard_nil t₁ round).advanced (u := t₁) rfl rfl rfl
    rw [hlint]
    exact stopped_turn hreply rfl hadv
  | broken ds message =>
    have hlint : lintRound engine file source t round =
        t₁.chargeAll round file ds >>= fun t => .error (.broken message, t) := by
      simp only [lintRound, call, hreply]
      rfl
    obtain ⟨t', ht', hd⟩ := chargeAll_heard (t := t₁) h file ds
    have hadv : Advanced t t' [(turn, .broken ds message)] := hd.advanced (u := t₁) rfl rfl rfl
    rw [hlint, ht']
    exact stopped_turn hreply rfl hadv

/-! ## All turns -/

theorem lintRounds_course (file source : Text) (rounds : List Round) {t : Trial σ}
    (h : ∀ round ∈ rounds, t.board.Carries round) :
    Course engine t (rounds.map (⟨·, source⟩)) 0
      (rounds.foldlM (lintRound engine file source) t) := by
  induction rounds generalizing t with
  | nil => exact course_nil rfl rfl rfl rfl
  | cons round rounds ih =>
    have hround := h round List.mem_cons_self
    rw [List.foldlM_cons]
    refine (lintRound_course hround file source).bind fun t₁ _ h₁ => ih fun r hr => ?_
    rw [h₁.advanced.board]
    exact (h r (List.mem_cons_of_mem _ hr)).chargeBy _

theorem lintSample_course {rounds : List Round} {t : Trial σ}
    (h : ∀ round ∈ rounds, t.board.Carries round) (sample : Sample) :
    Course engine t (sample.turns rounds) ([sample].countP Sample.isReadable)
      (lintSample engine rounds t sample) := by
  cases sample with
  | unreadable file cause => exact course_nil rfl rfl rfl rfl
  | readable file source =>
    let start := t.note (.fileStarted file)
    let finish (t : Trial σ) : Attempt σ (Trial σ) :=
      .ok { t with tally := { t.tally with files := t.tally.files + 1 } }
    have hstart : Course engine t [] 0 (.ok start) := course_nil rfl rfl rfl rfl
    have hrounds : Course engine start (rounds.map (⟨·, source⟩)) 0
        (rounds.foldlM (lintRound engine file source) start) :=
      lintRounds_course file source rounds h
    have hbody : Course engine start (rounds.map (⟨·, source⟩) ++ []) (0 + 1)
        (rounds.foldlM (lintRound engine file source) start >>= finish) :=
      hrounds.bind fun t₁ _ _ => course_nil rfl rfl rfl rfl
    rw [List.append_nil] at hbody
    have hwhole := hstart.bind
      (k := fun t => rounds.foldlM (lintRound engine file source) t >>= finish)
      fun t₁ h₁ _ => by
        rw [← Except.ok.inj h₁]
        exact hbody
    exact hwhole

theorem lintSamples_course {rounds : List Round} (samples : List Sample) {t : Trial σ}
    (h : ∀ round ∈ rounds, t.board.Carries round) :
    Course engine t (turns rounds samples) (samples.countP Sample.isReadable)
      (samples.foldlM (lintSample engine rounds) t) := by
  induction samples generalizing t with
  | nil => exact course_nil rfl rfl rfl rfl
  | cons sample samples ih =>
    have hcount : (sample :: samples).countP Sample.isReadable =
        [sample].countP Sample.isReadable + samples.countP Sample.isReadable := by
      rw [← List.countP_append]
      rfl
    rw [List.foldlM_cons, hcount]
    refine (lintSample_course h sample).bind fun t₁ _ h₁ => ih fun round hr => ?_
    rw [h₁.advanced.board]
    exact (h round hr).chargeBy _

/-- **A trial completes all its turns, or stops at the first reply that ends it.** -/
theorem run_course {t : Trial σ} (base : List (Datum × Datum)) (plan : List RuleSet)
    (h : ∀ round ∈ rounds base plan, t.board.Carries round) (samples : List Sample) :
    Course engine t (turns (rounds base plan) samples) (samples.countP Sample.isReadable)
      (t.run engine base plan samples) := by
  have hstart : Course engine t [] 0 (.ok (t.note (.trialStarted plan.length))) :=
    course_nil rfl rfl rfl rfl
  have hrun := hstart.bind (k := samples.foldlM (lintSample engine (rounds base plan)))
    fun t₁ h₁ _ => by
      rw [← Except.ok.inj h₁]
      exact lintSamples_course samples h
  rw [List.nil_append, Nat.zero_add] at hrun
  exact hrun

/-- A trial comes to its end exactly when no reply has a fault. -/
theorem Course.isOk_iff {t : Trial σ} {ts : List Turn} {files : Nat}
    {r : Except (TrialFault × Trial σ) (Trial σ)} (h : Course engine t ts files r) :
    (∃ t', r = .ok t') ↔ ∀ p ∈ engine.transcript t.state ts, p.2.fault? = none := by
  constructor
  · rintro ⟨t', rfl⟩
    exact h.settled
  · intro hsettled
    cases r with
    | ok t' => exact ⟨t', rfl⟩
    | error e =>
      obtain ⟨before, turn, rest, rfl, hstop⟩ := h
      have hmem : (turn, (engine.verify (engine.after t.state before) turn.call).1) ∈
          engine.transcript t.state (before ++ turn :: rest) := by
        rw [Engine.transcript_append]
        exact List.mem_append_right _ List.mem_cons_self
      have hfault := hstop.fault
      rw [hsettled _ hmem] at hfault
      cases hfault

end Trial

end RuleFit
