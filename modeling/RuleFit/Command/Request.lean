import RuleFit.Cap
import RuleFit.Command.Arguments
import RuleFit.Files
import RuleFit.Text.Whole

/-!
# Requests

What the arguments of a subcommand ask for. The options that were given are looked at first, in the
order in which each first came, then the positional arguments, and then whether a required option is
missing; the first fault counts. A path has to be that of a file.
-/

namespace RuleFit.Command

/-- Why arguments make no request: they are no use, or hold something that should be a path and
cannot be one. -/
inductive RequestFault where
  | usage (fault : UsageFault)
  | path (fault : FileFault)
  deriving DecidableEq

/-! ## Values of options -/

/-- Reads a number from one on. -/
def positive (name value : Text) : Except RequestFault Cap :=
  match Text.readWhole 10 value with
  | .ok n => if 1 ≤ n then .ok (.whole n) else .error (.usage (.notAPositiveNumber name value))
  | .error _ => .error (.usage (.notAPositiveNumber name value))

/-- Checks that there is a file at a path. -/
def existing (fs : FileSystem) (name path : Text) : Except RequestFault Text :=
  match look fs path with
  | .ok (.file _) | .ok .device => .ok path
  | .ok .directory => .error (.usage (.notAFile name path))
  | .error (.notAPath f) => .error (.path (.notAPath f))
  | .error _ => .error (.usage (.noSuchFile name path))

/-- The value of an option that must be given. -/
def required (a : Arguments) (name : Text) : Except RequestFault Text :=
  match a.value? name with
  | some v => .ok v
  | none => .error (.usage (.optionMissing name))

/-- The forms of a report. -/
inductive Format where
  | rich
  | json
  | porcelain
  deriving DecidableEq

/-- Reads the form of a report. -/
def Format.read (name value : Text) : Except RequestFault Format :=
  match value.string? with
  | some "rich" => .ok .rich
  | some "json" => .ok .json
  | some "porcelain" => .ok .porcelain
  | _ => .error (.usage (.notAChoice name value))

/-- Applies a reader to an option that may be missing. -/
def given {α : Type} (a : Arguments) (name : Text)
    (read : Text → Text → Except RequestFault α) : Except RequestFault (Option α) :=
  match a.value? name with
  | none => .ok none
  | some v => (read name v).map some

/-- Checks the value of an option. -/
def checkOption (fs : FileSystem) (a : Arguments) (name : Text) : Except RequestFault Unit := do
  match name.string? with
  | some "--catalog" | some "--config" => let _ ← given a name (existing fs)
  | some "--max-combinations" => let _ ← given a name positive
  | some "--format" => let _ ← given a name Format.read
  | _ => return

/-- Reads arguments and checks the options that were given. -/
def readChecked (fs : FileSystem) (specs : List OptionSpec) (args : List Text) :
    Except RequestFault Arguments := do
  let a ← (Arguments.read specs true args).mapError .usage
  a.names.forM (checkOption fs a)
  return a

/-- Whether the arguments of a subcommand ask for help, which is given whatever else they say. -/
def asksHelp (specs : List OptionSpec) (args : List Text) : Bool :=
  match Arguments.read specs true args with
  | .error _ => false
  | .ok a => a.has "--help"

/-! ## Listing candidates -/

/-- The arguments of `expand`. -/
structure ExpandRequest where
  rule : Text
  catalog : Text

/-- The option that asks for help. -/
def helpOption : OptionSpec := ⟨["--help"], false⟩

def expandOptions : List OptionSpec := [⟨["--catalog"], true⟩, helpOption]

/-- Reads the arguments of `expand`. -/
def ExpandRequest.read (fs : FileSystem) (args : List Text) :
    Except RequestFault ExpandRequest := do
  let a ← readChecked fs expandOptions args
  match a.positional with
  | [] => throw (.usage (.argumentMissing "RULE_ID"))
  | rule :: extra =>
    let catalog ← required a "--catalog"
    match extra with
    | [] => return { rule, catalog }
    | value :: _ => throw (.usage (.argumentUnexpected value))

/-! ## Inferring -/

/-- The arguments of `infer`. -/
structure InferRequest where
  files : List Text
  catalog : Text
  engine : Text
  settings : Option Text
  deny : List Text
  cap : Option Cap
  format : Format

def inferOptions : List OptionSpec :=
  let names : List Text :=
    ["--catalog", "--engine", "--config", "--deny", "--max-combinations", "--format"]
  helpOption :: names.map fun name => ⟨[name], true⟩

/-- Reads the arguments of `infer`. Without a form the report is the porcelain one. -/
def InferRequest.read (fs : FileSystem) (args : List Text) :
    Except RequestFault InferRequest := do
  let a ← readChecked fs inferOptions args
  let files ← a.positional.mapM (existing fs "FILES...")
  if files.isEmpty then throw (.usage (.argumentMissing "FILES..."))
  let catalog ← required a "--catalog"
  let engine ← required a "--engine"
  let cap ← given a "--max-combinations" positive
  let format ← given a "--format" Format.read
  return { files, catalog, engine, settings := a.value? "--config", deny := a.values "--deny", cap,
           format := format.getD .porcelain }

end RuleFit.Command
