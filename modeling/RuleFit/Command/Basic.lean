import RuleFit.Catalog.File
import RuleFit.Command.Help
import RuleFit.Command.Request
import RuleFit.Corpus
import RuleFit.Engine.Lookup
import RuleFit.Inference
import RuleFit.Report.Json
import RuleFit.Report.Porcelain
import RuleFit.Report.Table
import RuleFit.Settings.File

/-!
# The command

Two subcommands: `infer` configures the rules of a catalog by sample files, `expand` lists the
candidates of one rule. A run is a function of the arguments and the world around it. It gives an
exit code and the two output texts, unless the arguments are no use or the run breaks off at
something that it does not answer for.
-/

namespace RuleFit

/-- What a run sees of the world: the files, the name of the directory it works in, the modules it
can take engines from, the clock, the width of the terminal, and the name it was called by. -/
structure World (σ : Type) where
  files : FileSystem
  directory : Text
  modules : List (EngineModule (Engine σ × σ))
  clock : Clock
  columns : Nat := 80
  program : Text := "lintseed"

/-- A fault that a run breaks off at. -/
inductive Crash where
  | path (fault : FileFault)
  | settings (fault : SettingsFileFault)
  | catalog (fault : CatalogFileFault)
  | lookup (fault : LookupFault)
  | inference (fault : InferenceFault)
  | report (fault : ReportFault)
  | encoding (fault : Text.EncodeFault)
  | display (fault : Text.EncodeFault)
  deriving DecidableEq

def Crash.message : Crash → Text
  | .path f => f.message ""
  | .settings f => f.message
  | .catalog f => f.message
  | .lookup f => f.message
  | .inference f => f.message
  | .report f => f.message
  | .encoding f => f.message
  | .display f => f.message
      ++ "\n*** You may need to add PYTHONIOENCODING=utf-8 to your environment ***"

/-- How a run ends. -/
inductive Ending where
  | exit (code : Nat)
  | usage (fault : UsageFault)
  | crash (crash : Crash)
  deriving DecidableEq

/-- What a run leaves behind. -/
structure Outcome where
  ending : Ending
  out : Text := ""
  err : Text := ""

namespace Command

/-- The version of the program. -/
def version : Text := "lintseed, version 0.1.0"

/-! ## Messages -/

/-- What comes behind a control sequence of a terminal, from behind its first character on: after a
bracket, parameters, intermediate characters and a final one. -/
def behindControl? : List CodePoint → Option (List CodePoint)
  | .char '[' :: ps =>
    let within (low high : Nat) (p : CodePoint) : Bool := decide (low ≤ p.number ∧ p.number ≤ high)
    match (ps.dropWhile (within 0x30 0x3f)).dropWhile (within 0x20 0x2f) with
    | p :: rest => if within 0x40 0x7e p then some rest else none
    | [] => none
  | _ => none

/-- The code points of a text without control sequences. -/
def plainFrom (fuel : Nat) (ps : List CodePoint) : List CodePoint :=
  match fuel, ps with
  | 0, ps => ps
  | _, [] => []
  | fuel + 1, p :: ps =>
    match if p = .char '\x1b' then behindControl? ps else none with
    | some rest => plainFrom fuel rest
    | none => p :: plainFrom fuel ps

/-- A text as a line. No terminal is written to, so nothing controls one. -/
def echo (t : Text) : Text := ⟨plainFrom t.length t.points⟩ ++ "\n"

/-- A line for the second output. -/
def errorLine (message : Text) : Text := (echo ("Error: " ++ message)).withoutSurrogates

/-- The lines of those events that are as important as `level`. -/
def logText (level : Level) (events : List Event) : Text :=
  let shown := events.filter fun e => decide (level.rank ≤ e.level.rank)
  (Text.join (shown.map (·.line ++ "\n"))).withoutSurrogates

/-! ## Listing candidates -/

/-- The lines of candidates, and the fault of the first one that has none, where they end. -/
def candidateLines : List Candidate → Text × Option Datum.JsonFault
  | [] => ("", none)
  | c :: cs =>
    match c.toNative.toJson .oneLine with
    | .error f => ("", some f)
    | .ok line =>
      let (lines, fault) := candidateLines cs
      (line ++ "\n" ++ lines, fault)

/-- Lists the candidates of a rule, one a line. -/
def expandRule {σ : Type} (w : World σ) (level : Level) (r : ExpandRequest) : Outcome :=
  let unknown (err : Text) : Outcome :=
    { ending := .exit 1, err := err ++ errorLine ("unknown rule '" ++ r.rule ++ "'") }
  match Catalog.load w.files r.catalog with
  | .error (.scalar (.truth _)) => unknown ""
  | .error f =>
    if f.isOfCatalog then { ending := .exit 2, err := errorLine f.message }
    else { ending := .crash (.catalog f) }
  | .ok catalog =>
    let loaded := logText level [catalog.loaded (showPath r.catalog)]
    match catalog.schemas.get? r.rule with
    | none => unknown loaded
    | some schema =>
      let warnings := schema.unsupported.map fun reason =>
        (echo ("Warning: option skipped (" ++ reason ++ ")")).withoutSurrogates
      let err := loaded ++ Text.join warnings ++ logText level (schema.expansionEvents r.rule)
      match candidateLines (schema.candidates .error) with
      | (out, none) => { ending := .exit 0, out, err }
      | (out, some f) => { ending := .crash (.report (.json f)), out, err }

/-! ## Inferring -/

/-- The name of the settings file that is read if there is one and no other is asked for. -/
def settingsName : Text := "lintseed.yml"

/-- Reads the settings file asked for, or the one in the directory, if there is one. -/
def loadSettings {σ : Type} (w : World σ) (r : InferRequest) :
    Except SettingsFileFault (Settings × Option Event) :=
  match r.settings, isFile w.files settingsName with
  | some path, _ => Settings.load w.files (some path)
  | none, .ok true => Settings.loadAs (w.directory ++ "/" ++ settingsName) w.files settingsName
  | none, _ => Settings.load w.files none

/-- Writes texts one after the other, up to the first one with surrogates. -/
def written (texts : List Text) : Text × Option Text.EncodeFault :=
  match texts with
  | [] => (.empty, none)
  | t :: ts =>
    match t.encodeFault? with
    | some f => (.empty, some f)
    | none =>
      let (out, fault) := written ts
      (t ++ out, fault)

/-- Prints a report in the form asked for. -/
def present (format : Format) (columns : Nat) (r : Report) (err : Text) : Outcome :=
  match format with
  | .rich =>
    let (parts, fault) := r.parts columns
    match written parts, fault with
    | (out, some f), _ => { ending := .crash (.display f), out, err }
    | (out, none), some f => { ending := .crash (.report f), out, err }
    | (out, none), none => { ending := .exit 0, out, err }
  | .json =>
    match r.json with
    | .ok text => { ending := .exit 0, out := text ++ "\n", err }
    | .error f => { ending := .crash (.report (.json f)), err }
  | .porcelain =>
    let text := r.porcelain
    match written (if text.isEmpty then [] else [echo text]) with
    | (out, some f) => { ending := .crash (.encoding f), out, err }
    | (out, none) => { ending := .exit 0, out, err }

/-- Refuses to go on. -/
def refuse (err message : Text) : Outcome :=
  { ending := .exit 2, err := err ++ errorLine message }

/-- Infers with everything read. -/
def inferWith {σ : Type} (w : World σ) (level : Level) (r : InferRequest) (settings : Settings)
    (catalog : Catalog) (engine : Engine σ × σ) (err : Text) : Outcome :=
  match corpusOf w.files r.files with
  | .error f => { ending := .crash (.path f), err }
  | .ok samples =>
    let run := infer engine.1 engine.2 { catalog := some catalog } settings samples w.clock
    let err := err ++ logText level run.log.toList
    match run.result with
    | .ok finding => present r.format w.columns finding.report err
    | .error f =>
      if f.isOfSetup then refuse err f.message else { ending := .crash (.inference f), err }

/-- Infers a configuration: settings, catalog and engine are read in this order. -/
def inferRules {σ : Type} (w : World σ) (level : Level) (r : InferRequest) : Outcome :=
  match loadSettings w r with
  | .error f => if f.isAnswered then refuse "" f.message else { ending := .crash (.settings f) }
  | .ok (settings, warning) =>
    let err := logText level warning.toList
    match Catalog.load w.files r.catalog with
    | .error f =>
      if f.isAnswered then refuse err f.message else { ending := .crash (.catalog f), err }
    | .ok catalog =>
      let err := err ++ logText level [catalog.loaded (showPath r.catalog)]
      match EngineModule.resolve w.modules r.engine with
      | .error (.relative m) => { ending := .crash (.lookup (.relative m)), err }
      | .error f => refuse err f.message
      | .ok engine =>
        inferWith w level r (settings.override r.deny r.cap) catalog engine err

/-! ## The whole -/

def mainOptions : List OptionSpec :=
  [⟨["--version"], false⟩, ⟨["--verbose", "-v"], false⟩, ⟨["--quiet", "-q"], false⟩, helpOption]

/-- The least important level that is shown: verbose wins over quiet. -/
def levelOf (a : Arguments) : Level :=
  if a.has "--verbose" then .debug else if a.has "--quiet" then .error else .warning

/-- How a run ends whose arguments make no request. -/
def RequestFault.outcome : RequestFault → Outcome
  | .usage f => { ending := .usage f }
  | .path f => { ending := .crash (.path f) }

/-- Runs a subcommand on its arguments. -/
def dispatch {σ : Type} (w : World σ) (level : Level) (name : Text) (args : List Text) :
    Outcome :=
  match name.string? with
  | some "infer" =>
    if asksHelp inferOptions args then { ending := .exit 0, out := inferHelp w.program }
    else
      match InferRequest.read w.files args with
      | .ok r => inferRules w level r
      | .error f => f.outcome
  | some "expand" =>
    if asksHelp expandOptions args then { ending := .exit 0, out := expandHelp w.program }
    else
      match ExpandRequest.read w.files args with
      | .ok r => expandRule w level r
      | .error f => f.outcome
  | _ => { ending := .usage (.unknownCommand name) }

/-- What the program says of itself if its options ask for it, the first such option counting. -/
def selfText? {σ : Type} (w : World σ) (a : Arguments) : Option Text :=
  a.names.findSome? fun name =>
    match name.string? with
    | some "--version" => some (version ++ "\n")
    | some "--help" => some (mainHelp w.program)
    | _ => none

/-- The same where a subcommand should stand: behind two dashes too, an option is read as one. -/
def lateSelfText? {σ : Type} (w : World σ) (args : List Text) : Option Text :=
  match Arguments.read mainOptions false args with
  | .error _ => none
  | .ok a => selfText? w a

/-- Runs the program on its arguments. -/
def run {σ : Type} (w : World σ) (args : List Text) : Outcome :=
  match Arguments.read mainOptions false args with
  | .error f => { ending := .usage f }
  | .ok a =>
    match (selfText? w a).or (lateSelfText? w a.positional) with
    | some out => { ending := .exit 0, out }
    | none =>
      match a.positional with
      | [] => { ending := .usage .commandMissing }
      | name :: rest => dispatch w (levelOf a) name rest

end Command

end RuleFit
