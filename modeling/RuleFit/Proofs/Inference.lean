import RuleFit.Proofs.Choice
import RuleFit.Proofs.Setup

/-!
# What an inference finds

Where every call is answered or fails, an inference always ends with a finding, and the finding is
decided rule by rule by what the engine said. Candidate `i` of a rule is tried in round `i`, so it
is *clean* when no diagnostic for its rule came in that round; `cleanOf` keeps these candidates.

**Theorem (`infer_verdict`).** The verdict of a rule is the one that its clean candidates lead to
(`Verdict.ofClean`) if the rule is neither denied nor above the cap. Rules above the cap are
untested, and of all other rules nothing is said.

**Theorem (`infer_decides`).** The same, written out: a rule is dropped when it has no clean
candidate, and settled when it has only one, or only one of some specificity from one to three.
-/

namespace RuleFit

/-! ## Clean candidates -/

/-- The candidates of which none was found at fault; `n i` counts the errors of candidate `i`. -/
def cleanOf (cs : List Candidate) (n : Nat → Nat) : List Candidate :=
  (cs.zipIdx.filter fun p => n p.2 = 0).map Prod.fst

theorem mem_cleanOf {cs : List Candidate} {n : Nat → Nat} {c : Candidate} :
    c ∈ cleanOf cs n ↔ ∃ i, cs[i]? = some c ∧ n i = 0 := by
  simp [cleanOf, List.mem_zipIdx_iff_getElem?]

theorem cleanOf_congr {cs : List Candidate} {m n : Nat → Nat} (h : ∀ i < cs.length, m i = n i) :
    cleanOf cs m = cleanOf cs n := by
  refine congrArg (List.map Prod.fst) (List.filter_congr fun p hp => ?_)
  have hi := List.snd_lt_of_mem_zipIdx hp
  rw [Nat.add_zero] at hi
  rw [h p.2 hi]

theorem cleanOf_zero (cs : List Candidate) : cleanOf cs (fun _ => 0) = cs := by
  simp [cleanOf]

/-- Of more errors fewer candidates are clean, in the same order. -/
theorem cleanOf_sublist {m n : Nat → Nat} (h : ∀ i, m i ≤ n i) (cs : List Candidate) :
    (cleanOf cs n).Sublist (cleanOf cs m) := by
  refine (List.monotone_filter_right _ fun p hp => ?_).map Prod.fst
  have hle := h p.2
  simp only [decide_eq_true_eq] at hp ⊢
  omega

/-- Candidates are clean on a board when nothing was charged to them. -/
theorem cleanCandidates_charged (cs : List Candidate) (n : Nat → Nat) :
    Scoreboard.cleanCandidates ((cs.map Entry.ofCandidate).mapIdx fun i e => e.charge (n i)) =
      cleanOf cs n := by
  have hclean : ∀ p : Candidate × Nat, ((Entry.ofCandidate p.1).charge (n p.2)).isClean =
      decide (n p.2 = 0) := fun p => by
    rw [Bool.eq_iff_iff]
    simp [Entry.isClean, Entry.ofCandidate]
  rw [Scoreboard.cleanCandidates, cleanOf, List.mapIdx_eq_zipIdx_map, List.zipIdx_map,
    List.map_map, List.filter_map, List.map_map]
  refine congrArg _ (List.filter_congr fun p _ => ?_)
  exact hclean p

/-- Charges leave the noted specificities as they are. -/
theorem isRated_charged (cs : List Candidate) (n : Nat → Nat) :
    ∀ e ∈ (cs.map Entry.ofCandidate).mapIdx fun i e => e.charge (n i), e.IsRated := by
  intro e he
  obtain ⟨i, hi, rfl⟩ := List.mem_mapIdx.1 he
  rw [List.getElem_map]
  exact (Entry.isRated_ofCandidate _).charge _

/-! ## Verdicts -/

/-- What a finding says about a rule. -/
structure Verdict where
  config : Option Candidate := none
  dropped : Bool := false
  unresolved : Bool := false
  untested : Bool := false
  deriving DecidableEq

/-- The verdict that clean candidates lead to. -/
def Verdict.ofClean (clean : List Candidate) : Verdict where
  config := favourite clean
  dropped := clean.isEmpty
  unresolved := !clean.isEmpty && (favourite clean).isNone

/-- The verdict that clean entries lead to. -/
def Verdict.ofEntries (clean : List Entry) : Verdict where
  config := pick? clean
  dropped := clean.isEmpty
  unresolved := !clean.isEmpty && (pick? clean).isNone

theorem Verdict.ofEntries_eq {es : List Entry} (h : ∀ e ∈ es, e.IsRated) :
    ofEntries (es.filter Entry.isClean) = ofClean (Scoreboard.cleanCandidates es) := by
  simp only [ofEntries, ofClean, Scoreboard.pick?_filter_isClean h, Scoreboard.cleanCandidates,
    List.isEmpty_map]

def Finding.verdict (f : Finding) (id : Text) : Verdict where
  config := f.rules.get? id
  dropped := f.dropped.contains id
  unresolved := f.unresolved.contains id
  untested := f.untested.contains id

/-! ## The finding on a board -/

section Board

variable {b : Scoreboard} (tally : Tally) (untested : List Text) (ruleSets : Nat) (elapsed : Datum)
  {id : Text}

/-- The verdict of a rule on the board, where no rule was dropped before. -/
theorem verdict_ofBoard {es : List Entry} (hd : b.dropped = []) (h : b.rules.get? id = some es) :
    (Finding.ofBoard b tally untested ruleSets elapsed).verdict id =
      { Verdict.ofEntries (es.filter Entry.isClean) with untested := untested.contains id } := by
  have hdropped : b.strip.dropped.contains id = (es.filter Entry.isClean).isEmpty := by
    rw [Bool.eq_iff_iff, List.contains_iff_mem, Scoreboard.mem_dropped_strip h, hd,
      List.isEmpty_iff]
    simp
  have hunresolved : (b.strip.unresolved b.strip.choose).contains id =
      (!(es.filter Entry.isClean).isEmpty && (pick? (es.filter Entry.isClean)).isNone) := by
    rw [Bool.eq_iff_iff, List.contains_iff_mem, Scoreboard.mem_unresolved_strip h,
      Bool.and_eq_true, Bool.not_eq_true', List.isEmpty_eq_false_iff, Option.isNone_iff_eq_none]
  simp only [Finding.verdict, Finding.ofBoard, Verdict.ofEntries,
    Scoreboard.get?_choose_strip h, hdropped, hunresolved]

/-- Of a rule that is not on the board nothing is found. -/
theorem verdict_ofBoard_none (hd : b.dropped = []) (h : b.rules.get? id = none) :
    (Finding.ofBoard b tally untested ruleSets elapsed).verdict id =
      { untested := untested.contains id } := by
  have hstrip : b.strip.rules.get? id = none := by
    rw [Scoreboard.get?_strip, h]
    rfl
  have hconfig : b.strip.choose.get? id = none := by
    rw [Scoreboard.get?_choose, hstrip]
    rfl
  have hdropped : b.strip.dropped.contains id = false := by
    simp [Scoreboard.strip, Scoreboard.failing, hd, RuleTable.mem_ids_filter, h]
  have hunresolved : (b.strip.unresolved b.strip.choose).contains id = false := by
    simp [Scoreboard.mem_unresolved, RuleTable.mem_ids_iff, hstrip]
  simp only [Finding.verdict, Finding.ofBoard, hconfig, hdropped, hunresolved]

end Board

/-! ## The run -/

/-- Every call is answered with a finite list of diagnostics, or fails. -/
def Engine.AnswersOrFails {σ : Type} (engine : Engine σ) : Prop :=
  ∀ s c, (engine.verify s c).1.fault? = none

theorem Engine.AnswersOrFails.settled {σ : Type} {engine : Engine σ} (h : engine.AnswersOrFails)
    (state : σ) (ts : List Turn) : ∀ q ∈ engine.transcript state ts, q.2.fault? = none := by
  intro q hq
  have hmem := List.mem_map_of_mem (f := fun q => q.2.fault?) hq
  rw [engine.map_transcript (k := fun _ => none) fun s turn => h s turn.call] at hmem
  obtain ⟨-, -, hnone⟩ := List.mem_map.1 hmem
  exact hnone.symm

namespace Proposal

/-- The turns of an inference: every sample with every column of the candidates that are tested. -/
def turns (p : Proposal) (s : Settings) (samples : List Sample) : List Turn :=
  RuleFit.turns (rounds s.baseEntries (p.tested s).columns) samples

/-- The verdict of every rule, after the replies to the turns. -/
def verdict (p : Proposal) (s : Settings) (ps : List (Turn × Reply)) (id : Text) : Verdict :=
  match (p.candidates s.severity).get? id with
  | none => {}
  | some cs =>
    if s.deny.contains id then {}
    else if s.cap.admits cs.length then .ofClean (cleanOf cs fun i => diagnosed ps i id)
    else { untested := true }

theorem verdict_of_tested {p : Proposal} (s : Settings) {ps : List (Turn × Reply)} {id : Text}
    {cs : List Candidate} (h : (p.tested s).get? id = some cs) :
    p.verdict s ps id = .ofClean (cleanOf cs fun i => diagnosed ps i id) := by
  obtain ⟨hcs, hdeny, hcap⟩ := (p.get?_tested s).1 h
  simp [verdict, hcs, hdeny, hcap]

/-- A rule that is not tested is too big to be, or nothing is said about it. -/
theorem verdict_of_not_tested {p : Proposal} (s : Settings) {ps : List (Turn × Reply)} {id : Text}
    (h : (p.tested s).get? id = none) : p.verdict s ps id =
      { untested := ((p.undenied s).untestable fun count => !s.cap.admits count).contains id } := by
  rw [verdict]
  cases hcs : (p.candidates s.severity).get? id with
  | none => simp [mem_untestable_undenied, hcs]
  | some cs =>
    by_cases hdeny : id ∈ s.deny
    · simp [mem_untestable_undenied, hcs, hdeny]
    · have hcap : s.cap.admits cs.length = false := by
        simpa [tested, hcs, hdeny] using h
      simp [mem_untestable_undenied, hcs, hdeny, hcap]

end Proposal

variable {σ : Type} {engine : Engine σ}

theorem Clock.elapsed_float (start finish : Binary64) :
    ∃ elapsed, (Clock.mk (.float start) (.float finish)).elapsed = .ok elapsed :=
  ⟨_, rfl⟩

/-- A trial completes its turns where no reply ends it. -/
theorem Trial.run_of_settled {t : Trial σ} (base : List (Datum × Datum)) (plan : List RuleSet)
    (ht : ∀ round ∈ rounds base plan, t.board.Carries round) (samples : List Sample)
    (h : ∀ q ∈ engine.transcript t.state (RuleFit.turns (rounds base plan) samples),
      q.2.fault? = none) :
    ∃ t', t.run engine base plan samples = .ok t' ∧
      Completed engine t t' (RuleFit.turns (rounds base plan) samples)
        (samples.countP Sample.isReadable) := by
  have hcourse : Course engine t (RuleFit.turns (rounds base plan) samples)
      (samples.countP Sample.isReadable) (t.run engine base plan samples) :=
    run_course base plan ht samples
  obtain ⟨t', hrun⟩ := hcourse.isOk_iff.2 h
  rw [hrun] at hcourse
  exact ⟨t', hrun, hcourse⟩

theorem Trial.run_completed (h : engine.AnswersOrFails) {t : Trial σ}
    (base : List (Datum × Datum)) (plan : List RuleSet)
    (ht : ∀ round ∈ rounds base plan, t.board.Carries round) (samples : List Sample) :
    ∃ t', t.run engine base plan samples = .ok t' ∧
      Completed engine t t' (RuleFit.turns (rounds base plan) samples)
        (samples.countP Sample.isReadable) :=
  run_of_settled base plan ht samples (h.settled _ _)

/-- The trial that an inference makes. -/
def Proposal.trial (p : Proposal) (s : Settings) (engine : Engine σ) (state : σ)
    (samples : List Sample) : Except InferenceFault (Trial σ) := do
  let board ← p.board s
  let ready ← (prepare board.1 s).mapError Prod.fst
  let start : Trial σ := { board := ready.board, state, log := (board.2 ++ ready.events).toArray }
  (start.run engine ready.base ready.plan samples).mapError fun e => .trial e.1

/-- An inference ends with the finding on the board of its trial. -/
theorem infer_of_run {p : Proposal} {s : Settings} {full : Scoreboard} {setUp : List Event}
    {ready : Preparation} {state : σ} {samples : List Sample} {t : Trial σ}
    (start finish : Binary64) (hboard : p.board s = .ok (full, setUp))
    (hready : prepare full s = .ok ready)
    (hrun : Trial.run engine ready.base ready.plan samples
      { board := ready.board, state, log := (setUp ++ ready.events).toArray } = .ok t) :
    p.trial s engine state samples = .ok t ∧ ∃ elapsed,
      (infer engine state p s samples ⟨.float start, .float finish⟩).result =
        .ok (.ofBoard t.board t.tally ready.untested ready.plan.length elapsed) ∧
      (infer engine state p s samples ⟨.float start, .float finish⟩).calls = t.calls := by
  constructor
  · simp only [Proposal.trial, hboard, hready, hrun, Except.mapError, bind, Except.bind]
  · obtain ⟨⟨elapsed, seconds⟩, hclock⟩ := Clock.elapsed_float start finish
    refine ⟨elapsed, ?_⟩
    simp only [infer, hboard, hready, hrun, hclock, and_self]

/-- Where no reply ends the trial, an inference ends with the finding on the board of the candidates
that are tested, each of them charged what the engine found. -/
theorem infer_eq (state : σ) {p : Proposal} (hp : p.IsSingle) {s : Settings} (hs : s.IsProper)
    (samples : List Sample)
    (h : ∀ q ∈ engine.transcript state (p.turns s samples), q.2.fault? = none)
    (start finish : Binary64) :
    ∃ t elapsed,
      p.trial s engine state samples = .ok t ∧
      t.board = (Scoreboard.ofCandidates (p.tested s)).chargeBy
        (charges (engine.transcript state (p.turns s samples))) ∧
      t.tally.files = samples.countP Sample.isReadable ∧
      t.tally.failures =
        (engine.transcript state (p.turns s samples)).countP (fun q => q.2.isFailed) ∧
      (infer engine state p s samples ⟨.float start, .float finish⟩).result =
        .ok (.ofBoard t.board t.tally
          ((p.undenied s).untestable fun count => !s.cap.admits count)
          (p.tested s).columns.length elapsed) ∧
      (infer engine state p s samples ⟨.float start, .float finish⟩).calls.toList =
        (p.turns s samples).map Turn.call := by
  obtain ⟨setUp, hboard⟩ := p.board_eq hp s
  obtain ⟨ready, hready, huntested, hleft, hplan, hcolumns, hrounds⟩ := p.prepare_undenied hs
  have hturns : RuleFit.turns (rounds ready.base ready.plan) samples = p.turns s samples := by
    rw [hrounds]
    rfl
  rw [← hturns] at h
  obtain ⟨t, hrun, ht⟩ := Trial.run_of_settled
    (t := { board := ready.board, state, log := (setUp ++ ready.events).toArray })
    ready.base ready.plan (fun round hr => Scoreboard.carries_of_mem_rounds (hplan ▸ hr)) samples h
  rw [hturns] at ht
  obtain ⟨htrial, elapsed, hresult, hcalls⟩ := infer_of_run start finish hboard hready hrun
  refine ⟨t, elapsed, htrial, ?_, ?_, ?_, ?_, ?_⟩
  · rw [ht.advanced.board, hleft]
  · rw [ht.files, Nat.zero_add]
  · rw [ht.advanced.failures, Nat.zero_add]
  · rw [hresult, huntested, hcolumns]
  · rw [hcalls, ht.advanced.calls, Engine.map_call_transcript]
    rfl

/-- What stands on the board of a table after charges. -/
theorem get?_charged (t : RuleTable (List Candidate)) (n : Text → Nat → Nat) (id : Text) :
    ((Scoreboard.ofCandidates t).chargeBy n).rules.get? id =
      (t.get? id).map fun cs =>
        (cs.map Entry.ofCandidate).mapIdx fun i e => e.charge (n id i) := by
  simp [Scoreboard.ofCandidates, Function.comp_def]

/-- What a finding says when the turns of an inference got the replies of a transcript. -/
structure Finding.Reflects (f : Finding) (p : Proposal) (s : Settings) (samples : List Sample)
    (ps : List (Turn × Reply)) : Prop where
  verdict : ∀ id, f.verdict id = p.verdict s ps id
  filesLinted : f.filesLinted = samples.countP Sample.isReadable
  ruleSets : f.ruleSets = (p.tested s).columns.length
  failures : f.failures = ps.countP fun q => q.2.isFailed

namespace Finding.Reflects

variable {f : Finding} {p : Proposal} {s : Settings} {samples : List Sample}
  {ps : List (Turn × Reply)} (h : f.Reflects p s samples ps) {id : Text}

include h

/-- Dropped are the rules that were tested and have no clean candidate. -/
theorem mem_dropped : id ∈ f.dropped ↔
    ∃ cs, (p.tested s).get? id = some cs ∧ cleanOf cs (fun i => diagnosed ps i id) = [] := by
  have hdropped : f.dropped.contains id = (p.verdict s ps id).dropped :=
    congrArg Verdict.dropped (h.verdict id)
  rw [← List.contains_iff_mem, hdropped]
  cases htested : (p.tested s).get? id with
  | none => simp [p.verdict_of_not_tested s htested]
  | some cs => simp [p.verdict_of_tested s htested, Verdict.ofClean]

/-- Unresolved are the rules that were tested and have clean candidates, but no favourite. -/
theorem mem_unresolved : id ∈ f.unresolved ↔
    ∃ cs, (p.tested s).get? id = some cs ∧ cleanOf cs (fun i => diagnosed ps i id) ≠ [] ∧
      favourite (cleanOf cs fun i => diagnosed ps i id) = none := by
  have hunresolved : f.unresolved.contains id = (p.verdict s ps id).unresolved :=
    congrArg Verdict.unresolved (h.verdict id)
  rw [← List.contains_iff_mem, hunresolved]
  cases htested : (p.tested s).get? id with
  | none => simp [p.verdict_of_not_tested s htested]
  | some cs => simp [p.verdict_of_tested s htested, Verdict.ofClean]

/-- Settled are the rules that were tested and have a favourite among their clean candidates. -/
theorem get?_rules : f.rules.get? id =
    ((p.tested s).get? id).bind fun cs => favourite (cleanOf cs fun i => diagnosed ps i id) := by
  have hconfig : f.rules.get? id = (p.verdict s ps id).config :=
    congrArg Verdict.config (h.verdict id)
  rw [hconfig]
  cases htested : (p.tested s).get? id with
  | none => rw [p.verdict_of_not_tested s htested, Option.bind_none]
  | some cs => rw [p.verdict_of_tested s htested, Option.bind_some, Verdict.ofClean]

/-- Live are the rules that were tested and have clean candidates. -/
theorem live_iff : f.rules.contains id = true ∨ id ∈ f.unresolved ↔
    ∃ cs, (p.tested s).get? id = some cs ∧ cleanOf cs (fun i => diagnosed ps i id) ≠ [] := by
  rw [h.mem_unresolved, RuleTable.contains_eq_isSome, h.get?_rules]
  cases (p.tested s).get? id with
  | none => simp
  | some cs =>
    cases hfavourite : favourite (cleanOf cs fun i => diagnosed ps i id) with
    | none => simp [hfavourite]
    | some c =>
      have hclean : cleanOf cs (fun i => diagnosed ps i id) ≠ [] :=
        List.ne_nil_of_mem (mem_of_favourite hfavourite)
      simpa [hfavourite] using hclean

end Finding.Reflects

/-- Where no reply ends the trial, an inference ends with a finding that reflects the replies to its
turns. -/
theorem infer_reflects_of_settled (state : σ) {p : Proposal} (hp : p.IsSingle) {s : Settings}
    (hs : s.IsProper) (samples : List Sample)
    (h : ∀ q ∈ engine.transcript state (p.turns s samples), q.2.fault? = none)
    (start finish : Binary64) :
    ∃ finding,
      (infer engine state p s samples ⟨.float start, .float finish⟩).result = .ok finding ∧
      (infer engine state p s samples ⟨.float start, .float finish⟩).calls.toList =
        (p.turns s samples).map Turn.call ∧
      finding.Reflects p s samples (engine.transcript state (p.turns s samples)) := by
  obtain ⟨t, elapsed, -, hboard, hfiles, hfailures, hresult, hcalls⟩ :=
    infer_eq state hp hs samples h start finish
  refine ⟨_, hresult, hcalls, fun id => ?_, hfiles, rfl, hfailures⟩
  rw [hboard]
  have hrounds : ∀ q ∈ engine.transcript state (p.turns s samples),
      q.1.round ∈ rounds s.baseEntries (p.tested s).columns :=
    fun q hq => engine.round_mem_of_mem_transcript hq
  generalize engine.transcript state (p.turns s samples) = ps at hrounds
  cases hcs : (p.tested s).get? id with
  | none =>
    have hentries : ((Scoreboard.ofCandidates (p.tested s)).chargeBy (charges ps)).rules.get? id =
        none := by
      rw [get?_charged, hcs, Option.map_none]
    rw [verdict_ofBoard_none _ _ _ _ rfl hentries, p.verdict_of_not_tested s hcs]
  | some cs =>
    have hentries : ((Scoreboard.ofCandidates (p.tested s)).chargeBy (charges ps)).rules.get? id =
        some ((cs.map Entry.ofCandidate).mapIdx fun i e => e.charge (charges ps id i)) := by
      rw [get?_charged, hcs, Option.map_some]
    have hclean : cleanOf cs (charges ps id) = cleanOf cs fun i => diagnosed ps i id :=
      cleanOf_congr fun i hi => charges_eq_diagnosed_of_get? hrounds hcs hi
    rw [verdict_ofBoard _ _ _ _ rfl hentries, Verdict.ofEntries_eq (isRated_charged cs _),
      cleanCandidates_charged, hclean, p.verdict_of_tested s hcs]
    obtain ⟨hproposed, -, hcap⟩ := (p.get?_tested s).1 hcs
    simp [Proposal.mem_untestable_undenied, hproposed, hcap, Verdict.ofClean]

theorem infer_reflects (h : engine.AnswersOrFails) (state : σ) {p : Proposal} (hp : p.IsSingle)
    {s : Settings} (hs : s.IsProper) (samples : List Sample) (start finish : Binary64) :
    ∃ finding,
      (infer engine state p s samples ⟨.float start, .float finish⟩).result = .ok finding ∧
      (infer engine state p s samples ⟨.float start, .float finish⟩).calls.toList =
        (p.turns s samples).map Turn.call ∧
      finding.Reflects p s samples (engine.transcript state (p.turns s samples)) :=
  infer_reflects_of_settled state hp hs samples (h.settled _ _) start finish

/-- **The engine's answers decide the verdict on every rule.** -/
theorem infer_verdict (h : engine.AnswersOrFails) (state : σ) {p : Proposal} (hp : p.IsSingle)
    {s : Settings} (hs : s.IsProper) (samples : List Sample) (start finish : Binary64) :
    ∃ finding,
      (infer engine state p s samples ⟨.float start, .float finish⟩).result = .ok finding ∧
      (infer engine state p s samples ⟨.float start, .float finish⟩).calls.toList =
        (p.turns s samples).map Turn.call ∧
      ∀ id, finding.verdict id =
        p.verdict s (engine.transcript state (p.turns s samples)) id := by
  obtain ⟨finding, hresult, hcalls, hreflects⟩ := infer_reflects h state hp hs samples start finish
  exact ⟨finding, hresult, hcalls, hreflects.verdict⟩

/-- **A rule is dropped without clean candidates, and settled on the only one, of all of them or of
some specificity; the engine's answers decide which candidates are clean.** -/
theorem infer_decides (h : engine.AnswersOrFails) (state : σ) {p : Proposal} (hp : p.IsSingle)
    {s : Settings} (hs : s.IsProper) (samples : List Sample) (start finish : Binary64) :
    ∃ finding,
      (infer engine state p s samples ⟨.float start, .float finish⟩).result = .ok finding ∧
      (infer engine state p s samples ⟨.float start, .float finish⟩).calls.toList =
        (p.turns s samples).map Turn.call ∧
      ∀ id cs, (p.candidates s.severity).get? id = some cs → id ∉ s.deny →
        s.cap.admits cs.length = true →
        let ps := engine.transcript state (p.turns s samples)
        let clean := cleanOf cs fun i => diagnosed ps i id
        (id ∈ finding.dropped ↔ clean = []) ∧
        (finding.rules.contains id = true ↔
          clean.length = 1 ∨ ∃ n ∈ [1, 2, 3], (ofSpecificity n clean).length = 1) ∧
        finding.rules.get? id = favourite clean ∧
        (id ∈ finding.unresolved ↔ clean ≠ [] ∧ finding.rules.contains id = false) ∧
        id ∉ finding.untested := by
  obtain ⟨finding, hresult, hcalls, hverdict⟩ := infer_verdict h state hp hs samples start finish
  refine ⟨finding, hresult, hcalls, fun id cs hcs hdeny hcap => ?_⟩
  have hv := hverdict id
  rw [p.verdict_of_tested s ((p.get?_tested s).2 ⟨hcs, hdeny, hcap⟩)] at hv
  intro ps clean
  have hconfig : finding.rules.get? id = favourite clean := congrArg Verdict.config hv
  have hdropped : finding.dropped.contains id = clean.isEmpty := congrArg Verdict.dropped hv
  have hunresolved : finding.unresolved.contains id =
      (!clean.isEmpty && (favourite clean).isNone) := congrArg Verdict.unresolved hv
  have huntested : finding.untested.contains id = false := congrArg Verdict.untested hv
  refine ⟨?_, ?_, hconfig, ?_, ?_⟩
  · rw [← List.contains_iff_mem, hdropped, List.isEmpty_iff]
  · rw [RuleTable.contains_eq_isSome, hconfig, isSome_favourite]
  · rw [← List.contains_iff_mem, hunresolved, RuleTable.contains_eq_isSome, hconfig]
    simp
  · intro hmem
    rw [← List.contains_iff_mem, huntested] at hmem
    cases hmem

/-- An engine whose first call fails, and which then always finds fault with `semi`. -/
def lateStarter : Engine Nat :=
  ⟨fun n _ => (if n = 0 then .failed "not ready" else .diagnostics [some "semi"], n + 1)⟩

/-- The failed call of round zero leaves the first candidate clean. -/
theorem infer_decides_semi : ∃ finding,
    (infer lateStarter 0
      ⟨none, some (.single "semi" [⟨.error, []⟩, ⟨.error, [.text "always"]⟩])⟩ {}
      [.readable "a.js" "x"] .stopped).result = .ok finding ∧
    finding.rules.get? "semi" = some ⟨.error, []⟩ := by
  have hengine : lateStarter.AnswersOrFails := by
    intro n c
    by_cases hn : n = 0 <;> simp [lateStarter, hn, Reply.fault?]
  obtain ⟨finding, hresult, -, hrules⟩ := infer_decides hengine 0
    (p := ⟨none, some (.single "semi" [⟨.error, []⟩, ⟨.error, [.text "always"]⟩])⟩) rfl
    (s := {}) ⟨rfl, rfl⟩ [.readable "a.js" "x"] (.zero false) (.zero false)
  obtain ⟨-, -, hconfig, -⟩ := hrules "semi" [⟨.error, []⟩, ⟨.error, [.text "always"]⟩] rfl
    (by decide) (by decide)
  exact ⟨finding, hresult, hconfig.trans (by decide)⟩

end RuleFit
