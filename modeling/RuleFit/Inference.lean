import RuleFit.Catalog.Basic
import RuleFit.Choice
import RuleFit.Numeral
import RuleFit.Schema.Fit
import RuleFit.Settings.Basic
import RuleFit.Trial

/-!
# Inference

From sample code to a configuration. The candidates come from a catalog or are given; given ones of
rules in the catalog must fit their schemas. Denied rules are left out, rules with too many
candidates are set aside untested, the rest is tried on the samples, and every rule whose clean
candidates allow an unambiguous choice is configured. So each rule that is not denied ends up
configured, dropped, unresolved or untested.
-/

namespace RuleFit

/-- What an inference found. -/
structure Finding where
  rules : RuleTable Candidate := .empty
  dropped : List Text := []
  unresolved : List Text := []
  untested : List Text := []
  filesLinted : Nat := 0
  ruleSets : Nat := 0
  failures : Nat := 0
  elapsed : Datum := .float (.zero false)

/-- Why there is no finding. -/
inductive InferenceFault where
  | noRules
  | misfit (rule : Text) (candidate : Candidate)
  | unwritable (fault : NumberTooLong)
  | kind (fault : KindFault)
  | endlessCap
  | base (fault : Datum.EntriesFault)
  | trial (fault : TrialFault)
  | clock (fault : ArithmeticFault)
  deriving DecidableEq

def InferenceFault.message : InferenceFault → Text
  | .noRules => "Either a rule catalog or explicit rule configs are required"
  | .misfit rule c =>
    "Config " ++ c.toNative.literal ++ " for rule '" ++ rule ++ "' does not fit its schema"
  | .unwritable f => f.message
  | .kind f => f.message
  | .endlessCap => "cannot convert float infinity to integer"
  | .base f => f.message
  | .trial f => f.message
  | .clock f => f.message

/-- Whether a fault is one of what the inference was set up with, and not one that it ran into. -/
def InferenceFault.isOfSetup : InferenceFault → Bool
  | .noRules | .misfit .. | .unwritable _ | .base (.length ..) => true
  | .kind _ | .endlessCap | .base (.kind _) | .trial _ | .clock _ => false

/-- The candidates to try. -/
structure Proposal where
  catalog : Option Catalog := none
  given : Option (RuleTable (List Candidate)) := none

/-- The time on the clock at the beginning and at the end, in seconds. -/
structure Clock where
  start : Datum
  finish : Datum

/-- The clock that stands still. -/
def Clock.stopped : Clock := ⟨.float (.zero false), .float (.zero false)⟩

/-- The milliseconds between beginning and end, and the seconds. -/
def Clock.elapsed (c : Clock) : Except ArithmeticFault (Datum × Binary64) := do
  let elapsed := (← c.finish.minus c.start).thousandfold
  return (elapsed.toDatum, ← elapsed.thousandth)

/-! ## The board -/

/-- The first given candidate that does not fit its schema, with its rule. -/
def misfit? (given : RuleTable (List Candidate)) (catalog : Catalog) :
    Option (Text × Candidate) :=
  given.rows.findSome? fun r =>
    match catalog.schemas.get? r.1 with
    | none => none
    | some schema => (r.2.find? fun c => !schema.fits c).map (r.1, ·)

/-- The board to start from, and the events of setting it up. -/
def Proposal.board (p : Proposal) (s : Settings) :
    Except InferenceFault (Scoreboard × List Event) :=
  match p.given, p.catalog with
  | some given, catalog =>
    match catalog.bind (misfit? given) with
    | some (rule, c) =>
      .error (if c.toNative.writable then .misfit rule c else .unwritable ⟨⟩)
    | none => .ok (.ofCandidates (given.filter fun id _ => !s.deny.contains id), [])
  | none, some catalog =>
    .ok (.ofCandidates (catalog.candidates s.deny s.severity), catalog.expansionEvents s.deny)
  | none, none => .error .noRules

/-! ## The run -/

/-- What is left of an inference: what it found, the log and the calls made. -/
structure Inference (σ : Type) where
  result : Except InferenceFault Finding
  log : Log
  calls : Array Call
  state : σ

/-- Sets aside the rules with too many candidates. -/
def setAside (b : Scoreboard) (cap : Cap) :
    Except InferenceFault (Scoreboard × List Text × List Event) := do
  let untested ← (b.aboveCap cap).mapError .kind
  if untested.isEmpty then return (b, [], [])
  match cap.truncated? with
  | none => throw .endlessCap
  | some n => return (b.discard untested, untested, [.rulesUntested n untested])

/-- What a trial starts from: a board, the rules set aside, the rule sets to try, the entries of the
base configuration, and the events of setting aside. -/
structure Preparation where
  board : Scoreboard
  untested : List Text
  plan : List RuleSet
  base : List (Datum × Datum)
  events : List Event

/-- Prepares a trial. The base configuration is looked at only if there is a rule set. -/
def prepare (full : Scoreboard) (s : Settings) :
    Except (InferenceFault × List Event) Preparation := do
  let (board, untested, events) ← (setAside full s.cap).mapError (·, [])
  let plan ← (board.planUnder s.cap).mapError fun f => (.kind f, events)
  let base ←
    if plan.isEmpty then pure []
    else s.base.toEntries.mapError fun f => (.base f, events)
  return { board, untested, plan, base, events }

/-- The finding on a board after the trial. -/
def Finding.ofBoard (b : Scoreboard) (tally : Tally) (untested : List Text) (ruleSets : Nat)
    (elapsed : Datum) : Finding :=
  let stripped := b.strip
  let chosen := stripped.choose
  { rules := chosen
    dropped := stripped.dropped
    unresolved := stripped.unresolved chosen
    untested
    filesLinted := tally.files
    ruleSets
    failures := tally.failures
    elapsed }

/-- Infers a configuration from samples. -/
def infer {σ : Type} (engine : Engine σ) (state : σ) (p : Proposal) (s : Settings)
    (samples : List Sample) (clock : Clock) : Inference σ :=
  match p.board s with
  | .error f => ⟨.error f, #[], #[], state⟩
  | .ok (full, setUp) =>
    match prepare full s with
    | .error (f, events) => ⟨.error f, (setUp ++ events).toArray, #[], state⟩
    | .ok ready =>
      let t : Trial σ := { board := ready.board, state, log := (setUp ++ ready.events).toArray }
      match t.run engine ready.base ready.plan samples with
      | .error (f, t) => ⟨.error (.trial f), t.log, t.calls, t.state⟩
      | .ok t =>
        let log := t.log ++ t.board.stripEvents
        match clock.elapsed with
        | .error f => ⟨.error (.clock f), log, t.calls, t.state⟩
        | .ok (elapsed, seconds) =>
          let finding :=
            Finding.ofBoard t.board t.tally ready.untested ready.plan.length elapsed
          ⟨.ok finding, log.push (.finished seconds), t.calls, t.state⟩

end RuleFit
