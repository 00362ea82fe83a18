import RuleFit.Inference
import RuleFit.Proofs.Plan

/-!
# Setting an inference up

Before anything is tried, a proposal is turned into a board, the rules with too many candidates are
set aside, and the rule sets are planned. With proper settings this never fails, and it comes to one
table: the candidates of the rules that are neither denied nor above the cap (`Proposal.tested`).
The board to start from holds these candidates without errors and the plan is the columns of the
table (`prepare_eq`).
-/

namespace RuleFit

/-! ## Settings -/

/-- Whether a rule with so many candidates is within the cap. -/
def Cap.admits (cap : Cap) (count : Nat) : Bool :=
  match cap.within with
  | .ok test => test count
  | .error _ => false

theorem Cap.admits_eq {cap : Cap} {within : Nat → Bool} (h : cap.within = .ok within) :
    cap.admits = within := by
  funext count
  rw [admits, h]

/-- The cap is a number with a whole part, and the base configuration is a mapping. -/
structure Settings.IsProper (s : Settings) : Prop where
  cap : s.cap.truncated?.isSome = true
  base : s.base.isMap = true

/-- The entries of the base configuration. -/
def Settings.baseEntries (s : Settings) : List (Datum × Datum) :=
  match s.base.opened with
  | .map entries => entries
  | _ => []

/-- A number caps every count: it lies below the count or the count is within it. -/
theorem Cap.tests_of_truncated? {cap : Cap} (h : cap.truncated?.isSome = true) :
    cap.within = .ok cap.admits ∧ cap.below = .ok fun count => !cap.admits count := by
  have hvalue : ∀ {q : Quantity} {d : Datum}, (∀ sign, (value d).quantity sign = .ok (some q)) →
      (value d).within = .ok (value d).admits ∧
        (value d).below = .ok fun count => !(value d).admits count := by
    intro q d hq
    have hwithin : (value d).within =
        .ok fun count : Nat => !q.less (.finite (Dyadic.ofInt count)) := by
      simp [within, hq, Except.map]
    have hadmits : (value d).admits = fun count : Nat => !q.less (.finite (Dyadic.ofInt count)) :=
      admits_eq hwithin
    exact ⟨hadmits ▸ hwithin, by simp [hadmits, below, hq, Except.map]⟩
  cases cap with
  | whole n =>
    refine ⟨rfl, congrArg Except.ok (funext fun count => ?_)⟩
    by_cases hc : (count : Int) ≤ n <;> simp [admits, within, hc]
    omega
  | value d =>
    cases d with
    | bool b => exact hvalue fun _ => rfl
    | float x =>
      cases x with
      | finite v => exact hvalue fun _ => rfl
      | negativeZero => exact hvalue fun _ => rfl
      | _ => cases h
    | _ => cases h

theorem Settings.IsProper.toEntries {s : Settings} (h : s.IsProper) :
    s.base.toEntries = .ok s.baseEntries := by
  have hmap := h.base
  simp only [Datum.isMap, Datum.toEntries, baseEntries] at hmap ⊢
  cases hd : s.base.opened with
  | map entries => rfl
  | _ => rw [hd] at hmap; cases hmap

/-! ## Proposals -/

namespace Proposal

/-- The candidates of every rule. -/
def candidates (p : Proposal) (severity : Severity) : RuleTable (List Candidate) :=
  match p.given, p.catalog with
  | some given, _ => given
  | none, some catalog => catalog.schemas.map fun _ schema => schema.candidates severity
  | none, none => .empty

/-- The candidates of the rules that are neither denied nor above the cap. -/
def tested (p : Proposal) (s : Settings) : RuleTable (List Candidate) :=
  (p.candidates s.severity).filter fun id cs => !s.deny.contains id && s.cap.admits cs.length

/-- The board of the candidates that are not denied. -/
def undenied (p : Proposal) (s : Settings) : Scoreboard :=
  .ofCandidates ((p.candidates s.severity).filter fun id _ => !s.deny.contains id)

/-- Either a catalog or candidates are given. -/
def IsSingle (p : Proposal) : Prop := p.given.isSome = !p.catalog.isSome

theorem candidates_catalog (c : Catalog) (deny : List Text) (severity : Severity) :
    c.candidates deny severity =
      (c.schemas.map fun _ schema => schema.candidates severity).filter
        fun id _ => !deny.contains id := by
  rw [RuleTable.filter, RuleTable.map, RuleTable.filterMap_filterMap, Catalog.candidates]
  refine congrArg (RuleTable.filterMap · c.schemas) (funext fun id => funext fun schema => ?_)
  cases h : deny.contains id <;> simp

theorem board_eq {p : Proposal} (h : p.IsSingle) (s : Settings) :
    ∃ events, p.board s = .ok (p.undenied s, events) := by
  obtain ⟨catalog, given⟩ := p
  cases given with
  | some given =>
    cases catalog with
    | some catalog => cases h
    | none => exact ⟨[], rfl⟩
  | none =>
    cases catalog with
    | some catalog =>
      exact ⟨catalog.expansionEvents s.deny, by
        simp only [board, undenied, candidates, candidates_catalog]⟩
    | none => cases h

end Proposal

/-! ## The board to start from -/

namespace Scoreboard

theorem candidates_ofCandidates (t : RuleTable (List Candidate)) :
    (ofCandidates t).candidates = t := by
  refine RuleTable.ext ?_
  simp [candidates, ofCandidates, RuleTable.rows_map, Function.comp_def, Entry.ofCandidate]

/-- Taking the rules off that fail a test of their number of candidates keeps the others. -/
theorem rules_discard_untestable (b : Scoreboard) (tooMany : Nat → Bool) :
    (b.discard (b.untestable tooMany)).rules = b.rules.filter fun _ es => !tooMany es.length := by
  refine RuleTable.ext ?_
  rw [discard, RuleTable.rows_filter, RuleTable.rows_filter]
  refine List.filter_congr fun r hr => ?_
  have hget := RuleTable.get?_eq_some_iff.2 hr
  have hmem : r.1 ∈ b.untestable tooMany ↔ tooMany r.2.length = true := by
    simp [untestable, RuleTable.mem_ids_filter, hget]
  rw [Bool.eq_iff_iff]
  simp [hmem]

theorem untestable_eq_nil {b : Scoreboard} (h : b.rules.isEmpty = true) (tooMany : Nat → Bool) :
    b.untestable tooMany = [] := by
  rw [untestable, RuleTable.ids, RuleTable.rows_filter, List.isEmpty_iff.1 h]
  rfl

/-- Above a cap that counts can be held against are the rules that it lies below. -/
theorem aboveCap_eq (b : Scoreboard) {cap : Cap} {tooMany : Nat → Bool}
    (h : cap.below = .ok tooMany) : b.aboveCap cap = .ok (b.untestable tooMany) := by
  rw [aboveCap, h]
  split_ifs with hb
  · rw [untestable_eq_nil hb]
  · rfl

theorem discard_nil (b : Scoreboard) : b.discard [] = b := by
  refine Scoreboard.ext (RuleTable.ext ?_) rfl
  simp [discard, RuleTable.rows_filter]

end Scoreboard

/-! ## Preparing a trial -/

theorem setAside_eq (b : Scoreboard) {cap : Cap} (h : cap.truncated?.isSome = true) :
    ∃ events, setAside b cap =
      .ok (b.discard (b.untestable fun count => !cap.admits count),
        b.untestable fun count => !cap.admits count, events) := by
  have habove : b.aboveCap cap = .ok (b.untestable fun count => !cap.admits count) :=
    b.aboveCap_eq (Cap.tests_of_truncated? h).2
  obtain ⟨n, hn⟩ := Option.isSome_iff_exists.1 h
  rw [setAside, habove, hn]
  by_cases hu : (b.untestable fun count => !cap.admits count).isEmpty = true
  · refine ⟨[], ?_⟩
    have hnil := List.isEmpty_iff.1 hu
    simp only [hnil, Scoreboard.discard_nil]
    rfl
  · refine ⟨[.rulesUntested n (b.untestable fun count => !cap.admits count)], ?_⟩
    simp only [Except.mapError, bind, Except.bind, hu]
    rfl

/-- The entries of the base configuration for a plan; for no rule set it is not looked at. -/
def Settings.entriesFor (s : Settings) (plan : List RuleSet) :
    Except Datum.EntriesFault (List (Datum × Datum)) :=
  if plan.isEmpty then .ok [] else s.base.toEntries

/-- Under a cap that is a number, only the base configuration can be at fault in a preparation. -/
theorem prepare_of_truncated? (b : Scoreboard) {s : Settings}
    (h : s.cap.truncated?.isSome = true) :
    let untested := b.untestable fun count => !s.cap.admits count
    let plan := (b.discard untested).plan s.cap.admits
    ∃ events, prepare b s =
      ((s.entriesFor plan).mapError fun f => (.base f, events)).map fun base =>
        ⟨b.discard untested, untested, plan, base, events⟩ := by
  intro untested plan
  have haside : ∃ events, setAside b s.cap = .ok (b.discard untested, untested, events) :=
    setAside_eq b h
  have hplan : (b.discard untested).planUnder s.cap = .ok plan :=
    (b.discard untested).planUnder_eq (Cap.tests_of_truncated? h).1
  obtain ⟨events, haside⟩ := haside
  refine ⟨events, ?_⟩
  simp only [prepare, haside, hplan, Settings.entriesFor, Except.mapError, bind, Except.bind]
  split_ifs
  · rfl
  · cases s.base.toEntries <;> rfl

/-- **With proper settings the preparation of a trial does not fail.** -/
theorem prepare_eq (b : Scoreboard) {s : Settings} (h : s.IsProper) : ∃ ready,
    prepare b s = .ok ready ∧
    ready.untested = b.untestable (fun count => !s.cap.admits count) ∧
    ready.board = b.discard ready.untested ∧
    ready.plan = ready.board.plan s.cap.admits ∧
    rounds ready.base ready.plan = rounds s.baseEntries ready.plan := by
  obtain ⟨events, hprepare⟩ := prepare_of_truncated? b h.cap
  rw [hprepare, Settings.entriesFor, h.toEntries]
  split_ifs with hempty
  · refine ⟨_, rfl, rfl, rfl, rfl, ?_⟩
    simp [List.isEmpty_iff.1 hempty, rounds]
  · exact ⟨_, rfl, rfl, rfl, rfl, rfl⟩

/-! ## The table that is tested -/

namespace Proposal

variable (p : Proposal) (s : Settings)

theorem get?_undenied (id : Text) : (p.undenied s).rules.get? id =
    (((p.candidates s.severity).get? id).filter fun _ => !s.deny.contains id).map
      (·.map Entry.ofCandidate) := by
  simp [undenied, Scoreboard.ofCandidates]

theorem mem_untestable_undenied {id : Text} {tooMany : Nat → Bool} :
    id ∈ (p.undenied s).untestable tooMany ↔
      ∃ cs, (p.candidates s.severity).get? id = some cs ∧ id ∉ s.deny ∧
        tooMany cs.length = true := by
  simp only [Scoreboard.untestable, RuleTable.mem_ids_filter, get?_undenied,
    Option.map_eq_some_iff, Option.filter_eq_some_iff]
  constructor
  · rintro ⟨es, ⟨cs, ⟨hcs, hdeny⟩, rfl⟩, hmany⟩
    exact ⟨cs, hcs, by simpa using hdeny, by simpa using hmany⟩
  · rintro ⟨cs, hcs, hdeny, hmany⟩
    exact ⟨cs.map .ofCandidate, ⟨cs, ⟨hcs, by simpa using hdeny⟩, rfl⟩, by simpa using hmany⟩

/-- What is left on the board are the candidates that are tested. -/
theorem discard_undenied :
    (p.undenied s).discard ((p.undenied s).untestable fun count => !s.cap.admits count) =
      .ofCandidates (p.tested s) := by
  refine Scoreboard.ext ?_ rfl
  rw [Scoreboard.rules_discard_untestable, undenied, Scoreboard.ofCandidates,
    Scoreboard.ofCandidates, RuleTable.filter_map, RuleTable.filter_filter, tested]
  simp

/-- The plan is the columns of the candidates that are tested. -/
theorem plan_tested :
    (Scoreboard.ofCandidates (p.tested s)).plan s.cap.admits = (p.tested s).columns := by
  rw [Scoreboard.plan_eq_columns, Scoreboard.candidates_ofCandidates, tested,
    RuleTable.filter_filter]
  congr 2
  funext id cs
  simp

variable {s} in
/-- With proper settings, what is prepared is a trial of the candidates that are tested. -/
theorem prepare_undenied (h : s.IsProper) : ∃ ready,
    prepare (p.undenied s) s = .ok ready ∧
    ready.untested = (p.undenied s).untestable (fun count => !s.cap.admits count) ∧
    ready.board = .ofCandidates (p.tested s) ∧
    ready.plan = ready.board.plan s.cap.admits ∧
    ready.plan = (p.tested s).columns ∧
    rounds ready.base ready.plan = rounds s.baseEntries (p.tested s).columns := by
  obtain ⟨ready, hready, huntested, hleft, hplan, hrounds⟩ := prepare_eq (p.undenied s) h
  rw [huntested, p.discard_undenied] at hleft
  have hcolumns : ready.plan = (p.tested s).columns := by
    rw [hplan, hleft, p.plan_tested]
  rw [hcolumns] at hrounds
  exact ⟨ready, hready, huntested, hleft, hplan, hcolumns, hcolumns ▸ hrounds⟩

theorem get?_tested {id : Text} {cs : List Candidate} :
    (p.tested s).get? id = some cs ↔
      (p.candidates s.severity).get? id = some cs ∧ id ∉ s.deny ∧
        s.cap.admits cs.length = true := by
  simp [tested, Option.filter_eq_some_iff]

end Proposal

end RuleFit
