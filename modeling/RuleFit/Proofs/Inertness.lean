import RuleFit.Proofs.Log
import RuleFit.Proofs.Partition

/-!
# Rules that are never tried

A denied rule does not get on the board, and a rule above the cap is taken off it before the rule
sets are planned. So a proposal could as well have been made without them (`Proposal.trim`).

**Theorem (`infer_trim`).** From the trimmed proposal an inference makes the same calls, leaves the
engine in the same state, and comes to the same result, but for the time it took and the untested
rules, of which there are none. The engine may do anything: where a reply ends one of the trials, it
ends the other one as well.

The board of the trimmed proposal is the other one's without the rules above the cap
(`undenied_trim`). Taking these off once more changes nothing, so the same trial is prepared from
both boards (`prepare_discard`).
-/

namespace RuleFit

/-! ## Proposals -/

/-- Whether a rule with so many candidates is neither denied nor above the cap. -/
def Settings.tries (s : Settings) (id : Text) (count : Nat) : Bool :=
  !s.deny.contains id && !s.cap.excludes count

namespace Proposal

/-- The proposal without the rules that are denied or above the cap. -/
def trim (p : Proposal) (s : Settings) : Proposal where
  catalog := p.catalog.map fun c =>
    ⟨c.schemas.filter fun id schema => s.tries id (schema.candidates s.severity).length⟩
  given := p.given.map fun t => t.filter fun id cs => s.tries id cs.length

variable (p : Proposal) (s : Settings)

theorem IsSingle.trim {p : Proposal} (h : p.IsSingle) (s : Settings) : (p.trim s).IsSingle := by
  simpa [IsSingle, Proposal.trim] using h

theorem candidates_trim : (p.trim s).candidates s.severity =
    (p.candidates s.severity).filter fun id cs => s.tries id cs.length := by
  obtain ⟨catalog, given⟩ := p
  cases given with
  | some given => rfl
  | none =>
    cases catalog with
    | some catalog =>
      exact (RuleTable.filter_map (fun _ schema => schema.candidates s.severity)
        (fun id cs => s.tries id cs.length) catalog.schemas).symm
    | none => rfl

/-- The rules that are not denied and left in a trimmed proposal are those not above the cap. -/
theorem undenied_trim : (p.trim s).undenied s =
    (p.undenied s).discard ((p.undenied s).untestable s.cap.excludes) := by
  refine Scoreboard.ext ?_ rfl
  rw [Scoreboard.rules_discard_untestable, undenied, undenied, candidates_trim,
    Scoreboard.ofCandidates, Scoreboard.ofCandidates, RuleTable.filter_map,
    RuleTable.filter_filter, RuleTable.filter_filter]
  dsimp only
  congr 2
  funext id cs
  rw [Settings.tries, List.length_map]
  cases s.deny.contains id <;> simp

end Proposal

/-! ## Preparing a trial -/

/-- No rule is above the cap once those are taken off. -/
theorem Scoreboard.untestable_discard (b : Scoreboard) (tooMany : Nat → Bool) :
    (b.discard (b.untestable tooMany)).untestable tooMany = [] := by
  rw [List.eq_nil_iff_forall_not_mem]
  intro id hid
  rw [untestable, rules_discard_untestable, RuleTable.mem_ids_filter] at hid
  obtain ⟨es, hes, hmany⟩ := hid
  rw [RuleTable.get?_filter, Option.filter_eq_some_iff] at hes
  simp [hmany] at hes

/-- Without the rules above the cap the same trial is prepared, or the same fault found. -/
theorem prepare_discard (b : Scoreboard) {s : Settings} (h : s.cap.truncated?.isSome = true) :
    (∃ ready ready', prepare b s = .ok ready ∧
      prepare (b.discard (b.untestable s.cap.excludes)) s = .ok ready' ∧
      ready.Agrees ready' ∧ ready'.untested = []) ∨
    ∃ fault events events', prepare b s = .error (fault, events) ∧
      prepare (b.discard (b.untestable s.cap.excludes)) s = .error (fault, events') := by
  have hexcludes : s.cap.excludes = fun count => !s.cap.admits count :=
    Cap.excludes_eq (Cap.tests_of_truncated? h).2
  have hnone := b.untestable_discard s.cap.excludes
  obtain ⟨events, hfull⟩ := prepare_of_truncated? b h
  rw [← hexcludes] at hfull
  -- From here on both preparations are about what is left.
  generalize b.discard (b.untestable s.cap.excludes) = left at hnone hfull ⊢
  obtain ⟨events', hleft⟩ := prepare_of_truncated? left h
  rw [← hexcludes, hnone, left.discard_nil] at hleft
  rw [hfull, hleft]
  cases s.entriesFor (left.plan s.cap.admits) with
  | ok base => exact .inl ⟨_, _, rfl, rfl, ⟨rfl, rfl, rfl⟩, rfl⟩
  | error fault => exact .inr ⟨_, _, _, rfl, rfl⟩

/-! ## Inferences -/

/-- **Rules that are denied or above the cap make no difference, but that the latter are named
untested.** -/
theorem infer_trim {σ : Type} (engine : Engine σ) (state : σ) {p : Proposal} (hp : p.IsSingle)
    {s : Settings} (hs : s.cap.truncated?.isSome = true) (samples : List Sample)
    (start finish start' finish' : Binary64) :
    let full := infer engine state p s samples ⟨.float start, .float finish⟩
    let trimmed := infer engine state (p.trim s) s samples ⟨.float start', .float finish'⟩
    trimmed.calls = full.calls ∧ trimmed.state = full.state ∧
    trimmed.result.map Finding.untimed =
      full.result.map fun f => { f.untimed with untested := [] } := by
  obtain ⟨setUp, hboard⟩ := p.board_eq hp s
  obtain ⟨setUp', hboard'⟩ := (p.trim s).board_eq (hp.trim s) s
  rw [p.undenied_trim s] at hboard'
  obtain ⟨ready, ready', hready, hready', hsame, huntested⟩ | ⟨fault, _, _, hfault, hfault'⟩ :=
    prepare_discard (p.undenied s) hs
  · obtain ⟨hcalls, hstate, trial, elapsed, elapsed', hresult, hresult'⟩ :=
      infer_of_prepared engine state hboard hboard' hready hready' hsame samples start finish
        start' finish'
    refine ⟨hcalls.symm, hstate.symm, ?_⟩
    rw [hresult, hresult', huntested, hsame.plan]
    cases trial <;> rfl
  · simp only [infer, hboard, hboard', hfault, hfault', true_and]
    rfl

/-- A rule with one candidate, one with three and one with two. -/
def threeRules : Proposal where
  given := some ⟨[("eqeqeq", [⟨.error, []⟩]),
    ("quotes", [⟨.error, []⟩, ⟨.error, [.text "single"]⟩, ⟨.error, [.text "double"]⟩]),
    ("semi", [⟨.error, []⟩, ⟨.error, [.text "always"]⟩])], by decide⟩

/-- The first of the three rules is denied and the second above the cap. -/
def semiOnly : Settings := { deny := ["eqeqeq"], cap := .whole 2 }

/-- With `eqeqeq` and `quotes` trimmed away `semi` is settled as before, and `quotes` is not
untested any more. -/
theorem infer_trim_semi :
    ((threeRules.trim semiOnly).candidates .error).ids = ["semi"] ∧
    (infer lateStarter 0 (threeRules.trim semiOnly) semiOnly [.readable "a.js" "x"]
        .stopped).calls =
      (infer lateStarter 0 threeRules semiOnly [.readable "a.js" "x"] .stopped).calls ∧
    ∃ f g,
      (infer lateStarter 0 threeRules semiOnly [.readable "a.js" "x"] .stopped).result = .ok f ∧
      (infer lateStarter 0 (threeRules.trim semiOnly) semiOnly [.readable "a.js" "x"]
        .stopped).result = .ok g ∧
      f.untested = ["quotes"] ∧ g.untested = [] ∧ g.rules = f.rules ∧
      f.rules.get? "semi" = some ⟨.error, []⟩ := by
  obtain ⟨hcalls, -, hresult⟩ := infer_trim lateStarter 0 (p := threeRules) rfl (s := semiOnly) rfl
    [.readable "a.js" "x"] (.zero false) (.zero false) (.zero false) (.zero false)
  have hfull : ∃ f,
      (infer lateStarter 0 threeRules semiOnly [.readable "a.js" "x"] .stopped).result = .ok f ∧
      f.untested = ["quotes"] ∧ f.rules.get? "semi" = some ⟨.error, []⟩ :=
    ⟨_, rfl, by decide, by decide⟩
  have htrimmed : ∃ g, (infer lateStarter 0 (threeRules.trim semiOnly) semiOnly
      [.readable "a.js" "x"] .stopped).result = .ok g := ⟨_, rfl⟩
  obtain ⟨f, hf, hquotes, hsemi⟩ := hfull
  obtain ⟨g, hg⟩ := htrimmed
  have hsame : g.untimed = { f.untimed with untested := [] } := by
    change (infer lateStarter 0 _ semiOnly _ .stopped).result.map Finding.untimed =
      (infer lateStarter 0 threeRules semiOnly _ .stopped).result.map _ at hresult
    rw [hf, hg] at hresult
    exact Except.ok.inj hresult
  have huntested : g.untimed.untested = [] := by rw [hsame]
  have hrules : g.untimed.rules = f.untimed.rules := by rw [hsame]
  exact ⟨by decide, hcalls, f, g, hf, hg, hquotes, huntested, hrules, hsemi⟩

end RuleFit
