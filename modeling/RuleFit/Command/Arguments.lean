import RuleFit.Text.Basic

/-!
# Command line arguments

Options start with a dash. A long option takes its value from behind an equals sign or from the next
argument; short options may share a dash, and one with a value takes the rest of its argument or the
next one. Two dashes end the options. What is left is positional, and where options and positional
arguments may not mix, the first positional argument ends the options too.
-/

namespace RuleFit

/-- Why a command line is refused. -/
inductive UsageFault where
  | unknownOption (name : Text)
  | valueMissing (name : Text)
  | valueUnexpected (name : Text)
  | commandMissing
  | unknownCommand (name : Text)
  | optionMissing (name : Text)
  | argumentMissing (name : Text)
  | argumentUnexpected (value : Text)
  | notAChoice (name value : Text)
  | notAPositiveNumber (name value : Text)
  | noSuchFile (name path : Text)
  | notAFile (name path : Text)
  deriving DecidableEq

def UsageFault.message : UsageFault → Text
  | .unknownOption name => "No such option: " ++ name
  | .valueMissing name => "Option '" ++ name ++ "' requires an argument."
  | .valueUnexpected name => "Option '" ++ name ++ "' does not take a value."
  | .commandMissing => "Missing command."
  | .unknownCommand name => "No such command '" ++ name ++ "'."
  | .optionMissing name => "Missing option '" ++ name ++ "'."
  | .argumentMissing name => "Missing argument '" ++ name ++ "'."
  | .argumentUnexpected value => "Got unexpected extra argument (" ++ value ++ ")"
  | .notAChoice name value => "Invalid value for '" ++ name ++ "': '" ++ value ++ "' is no choice."
  | .notAPositiveNumber name value =>
    "Invalid value for '" ++ name ++ "': '" ++ value ++ "' is no positive whole number."
  | .noSuchFile name path =>
    "Invalid value for '" ++ name ++ "': File '" ++ path ++ "' does not exist."
  | .notAFile name path =>
    "Invalid value for '" ++ name ++ "': File '" ++ path ++ "' is a directory."

/-- An option: its spellings, the longest one first, and whether it takes a value. -/
structure OptionSpec where
  spellings : List Text
  takesValue : Bool

/-- The name that an option goes by. -/
def OptionSpec.name (o : OptionSpec) : Text := o.spellings.headD .empty

/-- What was read off a command line: options with their values, in order, and the arguments left.
-/
structure Arguments where
  options : List (Text × Text) := []
  positional : List Text := []

namespace Arguments

/-- Whether an option was given. -/
def has (a : Arguments) (name : Text) : Bool := a.options.any fun o => o.1 == name

/-- The options that were given, in the order in which each first came. -/
def names (a : Arguments) : List Text := (a.options.map Prod.fst).eraseDups

/-- Every value of an option, in order. -/
def values (a : Arguments) (name : Text) : List Text :=
  (a.options.filter fun o => o.1 == name).map Prod.snd

/-- The value of an option, the last one if it was given more than once. -/
def value? (a : Arguments) (name : Text) : Option Text := (a.values name).getLast?

/-- Puts an option in front. -/
def consOption (name value : Text) (a : Arguments) : Arguments :=
  { a with options := (name, value) :: a.options }

/-- Puts a positional argument in front. -/
def consPositional (arg : Text) (a : Arguments) : Arguments :=
  { a with positional := arg :: a.positional }

/-- What an argument that starts with a dash asks for: options that are complete, and then perhaps
one that still needs its value. -/
structure Demand where
  given : List (Text × Text)
  pending : Option Text

/-- Reads short options that share a dash. -/
def short (specs : List OptionSpec) : List CodePoint → Except UsageFault Demand
  | [] => .ok ⟨[], none⟩
  | p :: ps =>
    let spelling : Text := ⟨[.char '-', p]⟩
    match specs.find? fun o => o.spellings.contains spelling with
    | none => .error (.unknownOption spelling)
    | some o =>
      if o.takesValue then
        if ps.isEmpty then .ok ⟨[], some o.name⟩ else .ok ⟨[(o.name, ⟨ps⟩)], none⟩
      else
        (short specs ps).map fun d => { d with given := (o.name, .empty) :: d.given }

/-- Reads an argument that starts with a dash. -/
def demand (specs : List OptionSpec) (arg : Text) : Except UsageFault Demand :=
  let name : Text := ⟨arg.points.takeWhile (· ≠ .char '=')⟩
  let value? := if name.length < arg.length then some (arg.drop (name.length + 1)) else none
  match specs.find? fun o => o.spellings.contains name with
  | some o =>
    match value?, o.takesValue with
    | some v, true => .ok ⟨[(o.name, v)], none⟩
    | some _, false => .error (.valueUnexpected name)
    | none, true => .ok ⟨[], some o.name⟩
    | none, false => .ok ⟨[(o.name, .empty)], none⟩
  | none =>
    if arg.startsWith "--" then .error (.unknownOption name) else short specs arg.points.tail

/-- Whether an argument is read as options. -/
def isOption (arg : Text) : Bool := arg.startsWith "-" && arg != "-"

/-- Reads a command line; `mixed` says whether options may follow positional arguments. -/
def read (specs : List OptionSpec) (mixed : Bool) : List Text → Except UsageFault Arguments
  | [] => .ok {}
  | arg :: rest =>
    if arg == "--" then .ok { positional := rest }
    else if isOption arg then
      match demand specs arg, rest with
      | .error f, _ => .error f
      | .ok ⟨given, none⟩, rest =>
        (read specs mixed rest).map fun a => { a with options := given ++ a.options }
      | .ok ⟨_, some name⟩, [] => .error (.valueMissing name)
      | .ok ⟨given, some name⟩, value :: rest =>
        (read specs mixed rest).map fun a =>
          { a with options := given ++ (name, value) :: a.options }
    else if mixed then (read specs mixed rest).map (consPositional arg)
    else .ok { positional := arg :: rest }

end Arguments

end RuleFit
