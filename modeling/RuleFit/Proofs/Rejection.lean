import RuleFit.Proofs.Partition

/-!
# Candidates that are rejected

Where a catalog stands beside the candidates that are given, a candidate of a rule in the catalog
has to fit the schema of that rule. This is looked at before all else: also for a denied rule, and
before a sample is pulled or the engine is called.

**Theorem (`infer_refuses`).** An inference is refused exactly if a schema rejects one of the given
candidates. The first one decides, in the order of the rules and then of the candidates of the rule:
the fault is its misfit, unless a number in its native form is too long for the message that quotes
it, when the fault is that (`infer_unwritable`). No sample was pulled by then, no call made, and the
engine is as it was.

Misfits are looked for while the board is set up, and nothing behind that has a fault of the same
kind: such a fault of an inference is one of its board (`result_eq_error_iff_board`). A trial notes
every sample that it pulls and an inference with a finding has pulled all of them
(`pulled_of_infer`), so the log tells how far the samples were looked at.
-/

namespace RuleFit

/-! ## The first misfit -/

/-- The rule is in the catalog, with a schema that the candidate does not fit. -/
def Catalog.Rejects (catalog : Catalog) (rule : Text) (c : Candidate) : Prop :=
  ∃ schema, catalog.schemas.get? rule = some schema ∧ schema.fits c = false

/-- The candidate is rejected, and none is that was given for the rule before it or for a rule that
comes before. -/
def IsFirstMisfit (given : RuleTable (List Candidate)) (catalog : Catalog) (rule : Text)
    (c : Candidate) : Prop :=
  ∃ before earlier later after,
    given.rows = before ++ (rule, earlier ++ c :: later) :: after ∧
    catalog.Rejects rule c ∧
    (∀ c' ∈ earlier, ¬catalog.Rejects rule c') ∧
    ∀ r ∈ before, ∀ c' ∈ r.2, ¬catalog.Rejects r.1 c'

/-- The first of some candidates that the schema of their rule rejects. -/
def Catalog.rejected? (catalog : Catalog) (rule : Text) (cs : List Candidate) :
    Option Candidate :=
  (catalog.schemas.get? rule).bind fun schema => cs.find? fun c => !schema.fits c

namespace Catalog

variable {catalog : Catalog} {rule : Text} {cs : List Candidate} {c : Candidate}

theorem rejects_iff {schema : Schema} (h : catalog.schemas.get? rule = some schema) :
    catalog.Rejects rule c ↔ schema.fits c = false := by
  constructor
  · rintro ⟨schema', h', hfits⟩
    obtain rfl := Option.some.inj (h.symm.trans h')
    exact hfits
  · exact fun hfits => ⟨schema, h, hfits⟩

theorem not_rejects (h : catalog.schemas.get? rule = none) : ¬catalog.Rejects rule c := by
  rintro ⟨schema, h', -⟩
  rw [h] at h'
  cases h'

theorem rejected?_eq_none_iff :
    catalog.rejected? rule cs = none ↔ ∀ c ∈ cs, ¬catalog.Rejects rule c := by
  cases hschema : catalog.schemas.get? rule with
  | none =>
    rw [rejected?, hschema, Option.bind_none]
    exact iff_of_true rfl fun c _ => not_rejects hschema
  | some schema =>
    simp [rejected?, hschema, rejects_iff hschema]

theorem rejected?_eq_some_iff :
    catalog.rejected? rule cs = some c ↔ ∃ earlier later, cs = earlier ++ c :: later ∧
      catalog.Rejects rule c ∧ ∀ c' ∈ earlier, ¬catalog.Rejects rule c' := by
  cases hschema : catalog.schemas.get? rule with
  | none =>
    rw [rejected?, hschema, Option.bind_none]
    refine iff_of_false (by simp) ?_
    rintro ⟨_, _, _, hc, _⟩
    exact not_rejects hschema hc
  | some schema =>
    simp only [rejected?, hschema, Option.bind_some, List.find?_eq_some_iff_append,
      rejects_iff hschema, Bool.not_eq_true', Bool.not_not, Bool.not_eq_false]
    constructor
    · rintro ⟨hc, earlier, later, hcs, hearlier⟩
      exact ⟨earlier, later, hcs, hc, hearlier⟩
    · rintro ⟨earlier, later, hcs, hc, hearlier⟩
      exact ⟨hc, earlier, later, hcs, hearlier⟩

end Catalog

section Misfit

variable {given : RuleTable (List Candidate)} {catalog : Catalog} {rule : Text} {c : Candidate}

theorem misfit?_eq : misfit? given catalog =
    given.rows.findSome? fun r => (catalog.rejected? r.1 r.2).map (r.1, ·) := by
  refine congrArg (List.findSome? · given.rows) (funext fun r => ?_)
  rw [Catalog.rejected?]
  cases catalog.schemas.get? r.1 <;> rfl

/-- What is found is the first misfit. -/
theorem misfit?_eq_some_iff :
    misfit? given catalog = some (rule, c) ↔ IsFirstMisfit given catalog rule c := by
  simp only [misfit?_eq, List.findSome?_eq_some_iff, Option.map_eq_some_iff, Option.map_eq_none_iff,
    Catalog.rejected?_eq_none_iff]
  constructor
  · rintro ⟨before, ⟨id, cs⟩, after, hrows, ⟨c', hc', heq⟩, hbefore⟩
    obtain ⟨rfl, rfl⟩ := Prod.mk.inj heq
    obtain ⟨earlier, later, rfl, hc, hearlier⟩ := Catalog.rejected?_eq_some_iff.1 hc'
    exact ⟨before, earlier, later, after, hrows, hc, hearlier, hbefore⟩
  · rintro ⟨before, earlier, later, after, hrows, hc, hearlier, hbefore⟩
    have hfirst : catalog.rejected? rule (earlier ++ c :: later) = some c :=
      Catalog.rejected?_eq_some_iff.2 ⟨earlier, later, rfl, hc, hearlier⟩
    exact ⟨before, _, after, hrows, ⟨c, hfirst, rfl⟩, hbefore⟩

theorem misfit?_eq_none_iff : misfit? given catalog = none ↔
    ∀ id cs, given.get? id = some cs → ∀ c ∈ cs, ¬catalog.Rejects id c := by
  simp only [misfit?_eq, List.findSome?_eq_none_iff, Option.map_eq_none_iff,
    Catalog.rejected?_eq_none_iff, RuleTable.get?_eq_some_iff, Prod.forall]

/-- There is a first misfit where there is one at all. -/
theorem exists_isFirstMisfit_iff : (∃ rule c, IsFirstMisfit given catalog rule c) ↔
    ∃ id cs, given.get? id = some cs ∧ ∃ c ∈ cs, catalog.Rejects id c := by
  have hsome : (∃ rule c, IsFirstMisfit given catalog rule c) ↔ misfit? given catalog ≠ none := by
    simp only [← misfit?_eq_some_iff, ne_eq, Option.ne_none_iff_exists', Prod.exists]
  rw [hsome, ne_eq, misfit?_eq_none_iff]
  push Not
  rfl

end Misfit

/-! ## Faults -/

/-- The fault of a candidate that is rejected. Its message quotes the native form; where a number in
it is too long to be written out, the message says only that. -/
def refusal (rule : Text) (c : Candidate) : InferenceFault :=
  if c.toNative.writable then .misfit rule c else .unwritable ⟨⟩

theorem misfit_eq_refusal_iff {rule rule' : Text} {c c' : Candidate} :
    InferenceFault.misfit rule c = refusal rule' c' ↔
      rule = rule' ∧ c = c' ∧ c'.toNative.writable = true := by
  cases hwritable : c'.toNative.writable <;> simp [refusal, hwritable]

theorem unwritable_eq_refusal_iff {f : NumberTooLong} {rule : Text} {c : Candidate} :
    InferenceFault.unwritable f = refusal rule c ↔ c.toNative.writable = false := by
  cases hwritable : c.toNative.writable <;> simp [refusal, hwritable]

theorem noRules_ne_refusal (rule : Text) (c : Candidate) : .noRules ≠ refusal rule c := by
  cases hwritable : c.toNative.writable <;> simp [refusal, hwritable]

/-- Whether a fault is one that keeps the board from being set up. -/
def InferenceFault.isOfBoard : InferenceFault → Bool
  | .noRules | .misfit .. | .unwritable _ => true
  | _ => false

theorem setAside_fault {b : Scoreboard} {cap : Cap} {f : InferenceFault}
    (h : setAside b cap = .error f) : f.isOfBoard = false := by
  unfold setAside at h
  cases habove : b.aboveCap cap with
  | error k =>
    rw [habove] at h
    cases h
    rfl
  | ok untested =>
    simp only [habove, Except.mapError, bind, Except.bind] at h
    split_ifs at h
    · cases h
    · cases hcap : cap.truncated? with
      | none =>
        rw [hcap] at h
        cases h
        rfl
      | some n =>
        rw [hcap] at h
        cases h

theorem prepare_fault {full : Scoreboard} {s : Settings} {f : InferenceFault}
    {events : List Event} (h : prepare full s = .error (f, events)) : f.isOfBoard = false := by
  unfold prepare at h
  cases haside : setAside full s.cap with
  | error k =>
    rw [haside] at h
    cases h
    exact setAside_fault haside
  | ok r =>
    obtain ⟨board, untested, noted⟩ := r
    simp only [haside, Except.mapError, bind, Except.bind] at h
    cases hplan : board.planUnder s.cap with
    | error k =>
      rw [hplan] at h
      cases h
      rfl
    | ok plan =>
      simp only [hplan] at h
      split_ifs at h
      · cases h
      · cases hbase : s.base.toEntries with
        | error k =>
          rw [hbase] at h
          cases h
          rfl
        | ok base =>
          rw [hbase] at h
          cases h

/-! ## Samples pulled -/

/-- Whether an event tells of a sample: that it was begun, or could not be read. -/
def Event.isOfSample : Event → Bool
  | .fileStarted _ | .fileUnreadable .. => true
  | _ => false

/-- The number of samples that a log tells of. -/
def Log.pulled (log : Log) : Nat := log.toList.countP Event.isOfSample

theorem countP_isOfSample_eq_zero {events : List Event} (h : ∀ e ∈ events, e.isOfSample = false) :
    events.countP Event.isOfSample = 0 :=
  List.countP_eq_zero.2 fun e he => by simp [h e he]

namespace Trial

variable {σ : Type} {engine : Engine σ}

theorem pulled_note (t : Trial σ) (e : Event) :
    (t.note e).log.pulled = t.log.pulled + e.isOfSample.toNat := by
  rw [note, Log.pulled, Array.toList_push, List.countP_append, List.countP_singleton]
  cases e.isOfSample <;> rfl

theorem pulled_foldlM {α : Type} {f : Trial σ → α → Attempt σ (Trial σ)} {n : Nat}
    (hf : ∀ t a t', f t a = .ok t' → t'.log.pulled = t.log.pulled + n) (as : List α)
    {t t' : Trial σ} (h : as.foldlM f t = .ok t') :
    t'.log.pulled = t.log.pulled + n * as.length := by
  induction as generalizing t with
  | nil =>
    cases h
    rfl
  | cons a as ih =>
    rw [List.foldlM_cons, bind_eq_ok] at h
    obtain ⟨t₁, h₁, h⟩ := h
    rw [ih h, hf t a t₁ h₁, List.length_cons, Nat.mul_succ]
    omega

theorem pulled_chargeOne (round : Round) (file : Text) (t : Trial σ) (d : Diagnostic) {t' : Trial σ}
    (h : chargeOne round file t d = .ok t') : t'.log.pulled = t.log.pulled := by
  have hignore : (t.ignore round file d).log.pulled = t.log.pulled := pulled_note _ _
  unfold chargeOne at h
  split at h
  · cases h
    exact hignore
  · split_ifs at h
    · split at h
      · cases h
        rfl
      · cases h
    · cases h
      exact hignore

theorem pulled_lintRound (file source : Text) (t : Trial σ) (round : Round) {t' : Trial σ}
    (h : lintRound engine file source t round = .ok t') : t'.log.pulled = t.log.pulled := by
  have hcharged : ∀ (t₁ : Trial σ) ds t₂, t₁.chargeAll round file ds = .ok t₂ →
      t₂.log.pulled = t₁.log.pulled := fun t₁ ds t₂ h₁ => by
    have hfold := pulled_foldlM (n := 0) (fun t d t' => pulled_chargeOne round file t d) ds h₁
    rwa [Nat.zero_mul] at hfold
  have hcall : (t.call engine ⟨source, round.config⟩).2.log = t.log := rfl
  unfold lintRound at h
  generalize t.call engine ⟨source, round.config⟩ = r at h hcall
  obtain ⟨reply, t₁⟩ := r
  rw [← hcall]
  cases reply with
  | diagnostics ds => exact hcharged t₁ ds t' h
  | failed message =>
    cases h
    exact pulled_note _ _
  | missing => cases h
  | broken ds message =>
    obtain ⟨t₂, -, h⟩ := bind_eq_ok.1 h
    cases h

theorem pulled_lintSample (rounds : List Round) (t : Trial σ) (sample : Sample) {t' : Trial σ}
    (h : lintSample engine rounds t sample = .ok t') : t'.log.pulled = t.log.pulled + 1 := by
  cases sample with
  | unreadable file cause =>
    cases h
    exact pulled_note _ _
  | readable file source =>
    obtain ⟨t₁, h₁, h⟩ := bind_eq_ok.1 h
    cases h
    have hfold := pulled_foldlM (n := 0) (fun t round t' => pulled_lintRound file source t round)
      rounds h₁
    rw [Nat.zero_mul, pulled_note] at hfold
    exact hfold

/-- A trial that comes to its end has pulled every sample. -/
theorem pulled_run (base : List (Datum × Datum)) (plan : List RuleSet) (samples : List Sample)
    {t t' : Trial σ} (h : t.run engine base plan samples = .ok t') :
    t'.log.pulled = t.log.pulled + samples.length := by
  have hfold := pulled_foldlM (pulled_lintSample (rounds base plan)) samples h
  rw [Nat.one_mul, pulled_note] at hfold
  exact hfold

end Trial

/-! ## The inference -/

/-- The events of setting up tell of no sample. -/
theorem Proposal.board_events {p : Proposal} {s : Settings} {b : Scoreboard} {events : List Event}
    (h : p.board s = .ok (b, events)) : ∀ e ∈ events, e.isOfSample = false := by
  obtain ⟨catalog, given⟩ := p
  cases given with
  | some given =>
    simp only [board] at h
    split at h
    · cases h
    · cases h
      exact List.forall_mem_nil _
  | none =>
    cases catalog with
    | none => cases h
    | some catalog =>
      cases h
      intro e he
      obtain ⟨r, -, he⟩ := List.mem_flatMap.1 he
      split_ifs at he
      · rw [List.mem_singleton.1 he]
        rfl
      · obtain ⟨reason, -, rfl⟩ := List.mem_map.1 he
        rfl

/-- Nor do those of a preparation. -/
theorem prepare_events {full : Scoreboard} {s : Settings} {ready : Preparation}
    (h : prepare full s = .ok ready) : ∀ e ∈ ready.events, e.isOfSample = false := by
  simp only [prepare, bind_eq_ok, mapError_eq_ok] at h
  obtain ⟨⟨board, untested, events⟩, haside, plan, -, h⟩ := h
  have hevents : ready.events = events := by
    split_ifs at h <;> obtain ⟨base, -, h⟩ := bind_eq_ok.1 h <;> cases h <;> rfl
  rw [hevents]
  rw [setAside, bind_eq_ok] at haside
  obtain ⟨above, -, haside⟩ := haside
  split_ifs at haside
  · cases haside
    exact List.forall_mem_nil _
  · cases hcap : s.cap.truncated? with
    | none =>
      rw [hcap] at haside
      cases haside
    | some n =>
      rw [hcap] at haside
      cases haside
      intro e he
      rw [List.mem_singleton.1 he]
      rfl

theorem stripEvents_isOfSample (b : Scoreboard) : ∀ e ∈ b.stripEvents, e.isOfSample = false := by
  intro e he
  obtain ⟨rule, -, rfl⟩ := List.mem_map.1 he
  rfl

section Run

variable {σ : Type} {engine : Engine σ} {state : σ} {p : Proposal} {s : Settings}
  {samples : List Sample} {clock : Clock}

theorem infer_of_board_error {f : InferenceFault} (h : p.board s = .error f) :
    infer engine state p s samples clock = ⟨.error f, #[], #[], state⟩ := by
  unfold infer
  rw [h]

/-- With a board to start from nothing is refused any more. -/
theorem isOfBoard_of_board {r : Scoreboard × List Event} (hboard : p.board s = .ok r)
    {f : InferenceFault} (h : (infer engine state p s samples clock).result = .error f) :
    f.isOfBoard = false := by
  obtain ⟨b, setUp⟩ := r
  unfold infer at h
  simp only [hboard] at h
  cases hready : prepare b s with
  | error r =>
    simp only [hready] at h
    cases h
    exact prepare_fault hready
  | ok ready =>
    simp only [hready] at h
    split at h
    · cases h
      rfl
    · split at h
      · cases h
        rfl
      · cases h

/-- A fault of the kind that a board has is that of the board. -/
theorem result_eq_error_iff_board {f : InferenceFault} (hf : f.isOfBoard = true) :
    (infer engine state p s samples clock).result = .error f ↔ p.board s = .error f := by
  constructor
  · intro h
    cases hboard : p.board s with
    | error f' =>
      rw [infer_of_board_error hboard] at h
      cases h
      rfl
    | ok r =>
      cases hf.symm.trans (isOfBoard_of_board hboard h)
  · intro h
    rw [infer_of_board_error h]

/-- Beside a catalog, the board of given candidates has the fault of the first misfit. -/
theorem Proposal.board_eq_error_iff {given : RuleTable (List Candidate)} {catalog : Catalog}
    {f : InferenceFault} : Proposal.board ⟨some catalog, some given⟩ s = .error f ↔
      ∃ rule c, IsFirstMisfit given catalog rule c ∧ f = refusal rule c := by
  simp only [board, Option.bind_some, ← misfit?_eq_some_iff]
  cases misfit? given catalog with
  | none => simp
  | some r =>
    obtain ⟨rule, c⟩ := r
    constructor
    · intro h
      cases h
      exact ⟨rule, c, rfl, rfl⟩
    · rintro ⟨rule', c', hc, rfl⟩
      cases hc
      rfl

/-- An inference with a finding has pulled every sample. -/
theorem pulled_of_infer {finding : Finding}
    (h : (infer engine state p s samples clock).result = .ok finding) :
    (infer engine state p s samples clock).log.pulled = samples.length := by
  obtain ⟨setUp, ready, t, elapsed, hready, hrun, -, -, hboard, seconds, hlog⟩ := infer_steps h
  have hstart : Log.pulled (setUp ++ ready.events).toArray = 0 := by
    rw [Log.pulled, List.countP_append, countP_isOfSample_eq_zero (Proposal.board_events hboard),
      countP_isOfSample_eq_zero (prepare_events hready)]
  have htrial : t.log.pulled = Log.pulled (setUp ++ ready.events).toArray + samples.length :=
    Trial.pulled_run ready.base ready.plan samples hrun
  rw [hlog, Log.pulled, Array.toList_push, Array.toList_appendList, List.countP_append,
    List.countP_append, countP_isOfSample_eq_zero (stripEvents_isOfSample t.board)]
  rw [hstart, Nat.zero_add] at htrial
  exact htrial

/-- **An inference is refused exactly if a schema in the catalog rejects one of the candidates that
are given, and then by the first of them, before a sample is pulled or the engine is called.** -/
theorem infer_refuses (engine : Engine σ) (state : σ) (given : RuleTable (List Candidate))
    (catalog : Catalog) (s : Settings) (samples : List Sample) (clock : Clock) :
    let outcome := infer engine state ⟨some catalog, some given⟩ s samples clock
    ((∃ rule c, IsFirstMisfit given catalog rule c) ↔
      ∃ rule cs, given.get? rule = some cs ∧ ∃ c ∈ cs, catalog.Rejects rule c) ∧
    (∀ rule c, outcome.result = .error (.misfit rule c) ↔
      IsFirstMisfit given catalog rule c ∧ c.toNative.writable = true) ∧
    (∀ f, outcome.result = .error (.unwritable f) ↔
      ∃ rule c, IsFirstMisfit given catalog rule c ∧ c.toNative.writable = false) ∧
    outcome.result ≠ .error .noRules ∧
    (∀ rule c, IsFirstMisfit given catalog rule c →
      (∃ f, outcome = ⟨.error f, #[], #[], state⟩) ∧ outcome.log.pulled = 0) ∧
    (∀ rule c, outcome.result = .error (.misfit rule c) →
      (InferenceFault.misfit rule c).message = "Config " ++ c.toNative.literal ++ " for rule '" ++
        rule ++ "' does not fit its schema") ∧
    (∀ rule c, catalog.schemas.get? rule = none → ¬IsFirstMisfit given catalog rule c) ∧
    ∀ finding, outcome.result = .ok finding → outcome.log.pulled = samples.length := by
  intro outcome
  have hresult : ∀ f : InferenceFault, f.isOfBoard = true → (outcome.result = .error f ↔
      ∃ rule c, IsFirstMisfit given catalog rule c ∧ f = refusal rule c) :=
    fun f hf => (result_eq_error_iff_board hf).trans Proposal.board_eq_error_iff
  refine ⟨exists_isFirstMisfit_iff, fun rule c => ?_, fun f => ?_, ?_, fun rule c hc => ?_,
    fun _ _ _ => rfl, fun rule c hnone => ?_, fun finding => pulled_of_infer⟩
  · rw [hresult _ rfl]
    constructor
    · rintro ⟨rule', c', hc, hf⟩
      obtain ⟨rfl, rfl, hwritable⟩ := misfit_eq_refusal_iff.1 hf
      exact ⟨hc, hwritable⟩
    · rintro ⟨hc, hwritable⟩
      exact ⟨rule, c, hc, misfit_eq_refusal_iff.2 ⟨rfl, rfl, hwritable⟩⟩
  · rw [hresult _ rfl]
    simp only [unwritable_eq_refusal_iff]
  · rw [ne_eq, hresult _ rfl]
    rintro ⟨rule, c, -, hf⟩
    exact noRules_ne_refusal rule c hf
  · have houtcome : outcome = ⟨.error (refusal rule c), #[], #[], state⟩ :=
      infer_of_board_error (Proposal.board_eq_error_iff.2 ⟨rule, c, hc, rfl⟩)
    refine ⟨⟨_, houtcome⟩, ?_⟩
    rw [houtcome]
    rfl
  · rintro ⟨_, _, _, _, -, hc, -⟩
    exact Catalog.not_rejects hnone hc

/-- A denied rule with three candidates, of which two do not fit; the rule before it is not in the
catalog. -/
theorem infer_refuses_semi :
    let given : RuleTable (List Candidate) := ⟨[("eqeqeq", [⟨.error, [.text "smart"]⟩]),
      ("semi", [⟨.error, [.text "always"]⟩, ⟨.error, [.text "sometimes"]⟩, ⟨.warn, [.null]⟩])],
      by decide⟩
    let catalog : Catalog := ⟨⟨[("quotes", []),
      ("semi", [.plain (.enum [.text "always", .text "never"])])], by decide⟩⟩
    IsFirstMisfit given catalog "semi" ⟨.error, [.text "sometimes"]⟩ ∧
      infer lateStarter 0 ⟨some catalog, some given⟩ { deny := ["semi"] } [.readable "a.js" "x"]
        .stopped = ⟨.error (.misfit "semi" ⟨.error, [.text "sometimes"]⟩), #[], #[], 0⟩ := by
  intro given catalog
  have hfirst : IsFirstMisfit given catalog "semi" ⟨.error, [.text "sometimes"]⟩ :=
    misfit?_eq_some_iff.1 (by decide)
  obtain ⟨-, hmisfit, -, -, hrefused, -⟩ := infer_refuses lateStarter 0 given catalog
    { deny := ["semi"] } [.readable "a.js" "x"] .stopped
  refine ⟨hfirst, ?_⟩
  obtain ⟨⟨f, houtcome⟩, -⟩ := hrefused _ _ hfirst
  have hresult := (hmisfit _ _).2 ⟨hfirst, by decide +kernel⟩
  rw [houtcome] at hresult ⊢
  cases hresult
  rfl

/-- A rule without options has a number too long to be written out as its option. -/
theorem board_numbered {n : Int} (h : isWritable n = false) : Proposal.board
    ⟨some ⟨.single "semi" []⟩, some (.single "semi" [⟨.error, [.int n]⟩])⟩ s =
      .error (.unwritable ⟨⟩) := by
  have hwritable : (Candidate.toNative ⟨.error, [.int n]⟩).writable = false := by
    show (isWritable 2 && (isWritable n && true)) = false
    rw [h, Bool.false_and, Bool.and_false]
  refine Proposal.board_eq_error_iff.2 ⟨"semi", ⟨.error, [.int n]⟩, ?_, ?_⟩
  · exact misfit?_eq_some_iff.1 rfl
  · exact unwritable_eq_refusal_iff.2 hwritable

/-- The least such number is rejected, but the fault is no misfit. -/
theorem infer_unwritable :
    let c : Candidate := ⟨.error, [.int (posPow 10 digitLimit)]⟩
    let given : RuleTable (List Candidate) := .single "semi" [c]
    let catalog : Catalog := ⟨.single "semi" []⟩
    let outcome := infer lateStarter 0 ⟨some catalog, some given⟩ {} [.readable "a.js" "x"] .stopped
    given.get? "semi" = some [c] ∧ catalog.Rejects "semi" c ∧
      outcome.result = .error (.unwritable ⟨⟩) ∧ outcome.result ≠ .error .noRules ∧
      ∀ rule c, outcome.result ≠ .error (.misfit rule c) := by
  intro c given catalog outcome
  have hresult : outcome.result = .error (.unwritable ⟨⟩) :=
    (result_eq_error_iff_board rfl).2 (board_numbered isWritable_posPow)
  refine ⟨rfl, ⟨[], rfl, rfl⟩, hresult, ?_, ?_⟩
  · rw [hresult]
    simp
  · rw [hresult]
    simp

end Run

end RuleFit
