import RuleFit.Engine.Basic
import RuleFit.Plan

/-!
# Trials

A trial calls the engine for every sample with every rule set of a plan. The configuration of a call
is the base configuration with its rules replaced by the rule set in native form. A diagnostic for a
rule of the rule set is charged to that rule's candidate at the position of the rule set; any other
diagnostic is ignored. A failed call is counted and the trial goes on; an answer that is missing or
breaks off ends it, as does a diagnostic for a candidate that has left the board, and what was
charged until then stays.
-/

namespace RuleFit

/-- A file to be linted, or the word that it could not be read. -/
inductive Sample where
  | readable (file source : Text)
  | unreadable (file cause : Text)
  deriving DecidableEq

/-- What a trial counts. -/
structure Tally where
  files : Nat := 0
  calls : Nat := 0
  failures : Nat := 0
  charged : Nat := 0
  ignored : Nat := 0
  deriving DecidableEq

/-- Why a trial ends before its time. -/
inductive TrialFault where
  | missing
  | broken (message : Text)
  | board (fault : BoardFault)
  deriving DecidableEq

def TrialFault.message : TrialFault → Text
  | .missing => "'NoneType' object is not iterable"
  | .broken message => message
  | .board f => f.message

/-- A trial under way: the board, the engine's state, the counts, the log and the calls made. -/
structure Trial (σ : Type) where
  board : Scoreboard
  state : σ
  tally : Tally := {}
  log : Log := #[]
  calls : Array Call := #[]

/-- A part of a trial gives its result, or ends with a fault and the trial as it was then. -/
abbrev Attempt (σ : Type) : Type → Type := Except (TrialFault × Trial σ)

/-- A rule set of a plan, with its position and the configuration of its calls. -/
structure Round where
  position : Nat
  rules : RuleSet
  config : Datum

/-- The configuration with the rules of a rule set. -/
def lintConfig (base : List (Datum × Datum)) (rules : RuleSet) : Datum :=
  .map (Datum.put base (.text "rules")
    (.map (rules.rows.map fun r => (.text r.1, r.2.toNative))))

/-- The rounds of a plan. -/
def rounds (base : List (Datum × Datum)) (plan : List RuleSet) : List Round :=
  plan.zipIdx.map fun p => ⟨p.2, p.1, lintConfig base p.1⟩

namespace Trial

variable {σ : Type}

/-- Notes an event. -/
def note (t : Trial σ) (e : Event) : Trial σ :=
  { t with log := t.log.push e }

/-- Leaves a diagnostic out of account. -/
def ignore (t : Trial σ) (round : Round) (file : Text) (d : Diagnostic) : Trial σ :=
  { t with tally := { t.tally with ignored := t.tally.ignored + 1 } }.note
    (.diagnosticIgnored round.position file d)

/-- Charges a diagnostic to its candidate, or ignores it. -/
def chargeOne (round : Round) (file : Text) (t : Trial σ) (d : Diagnostic) :
    Attempt σ (Trial σ) :=
  match d with
  | none => .ok (t.ignore round file d)
  | some id =>
    if round.rules.contains id then
      match t.board.charge id round.position 1 with
      | .ok board =>
        .ok { t with board, tally := { t.tally with charged := t.tally.charged + 1 } }
      | .error (f, board) => .error (.board f, { t with board })
    else .ok (t.ignore round file d)

/-- Charges diagnostics one after the other. -/
def chargeAll (round : Round) (file : Text) (t : Trial σ) (ds : List Diagnostic) :
    Attempt σ (Trial σ) :=
  ds.foldlM (chargeOne round file) t

/-- Makes a call and keeps the reply apart. -/
def call (engine : Engine σ) (t : Trial σ) (c : Call) : Reply × Trial σ :=
  let (reply, state) := engine.verify t.state c
  (reply, { t with state, calls := t.calls.push c,
                   tally := { t.tally with calls := t.tally.calls + 1 } })

/-- Notes that a call failed. -/
def fail (t : Trial σ) (round : Round) (file message : Text) : Trial σ :=
  { t with tally := { t.tally with failures := t.tally.failures + 1 } }.note
    (.callFailed file round.position message)

/-- Lints a source text with one rule set. -/
def lintRound (engine : Engine σ) (file source : Text) (t : Trial σ) (round : Round) :
    Attempt σ (Trial σ) :=
  let (reply, t) := t.call engine ⟨source, round.config⟩
  match reply with
  | .diagnostics ds => t.chargeAll round file ds
  | .failed message => .ok (t.fail round file message)
  | .missing => .error (.missing, t)
  | .broken ds message => do
    let t ← t.chargeAll round file ds
    .error (.broken message, t)

/-- Lints a sample with every rule set. -/
def lintSample (engine : Engine σ) (rounds : List Round) (t : Trial σ) :
    Sample → Attempt σ (Trial σ)
  | .unreadable file cause => .ok (t.note (.fileUnreadable file cause))
  | .readable file source => do
    let t ← rounds.foldlM (lintRound engine file source) (t.note (.fileStarted file))
    return { t with tally := { t.tally with files := t.tally.files + 1 } }

/-- Lints every sample with every rule set of a plan. -/
def run (engine : Engine σ) (base : List (Datum × Datum)) (plan : List RuleSet)
    (samples : List Sample) (t : Trial σ) : Attempt σ (Trial σ) :=
  samples.foldlM (lintSample engine (rounds base plan)) (t.note (.trialStarted plan.length))

end Trial

end RuleFit
