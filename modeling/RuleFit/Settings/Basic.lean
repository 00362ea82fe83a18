import RuleFit.Cap
import RuleFit.Severity
import RuleFit.Text.Lower

/-!
# Settings

A run has a list of denied rules, a cap on the number of candidates that a rule may have, the
severity that candidates are given and the part of the linter's configuration that is not about
rules. They are read from a mapping in which every one of them may be missing; the first invalid one
is reported, in the order just given. A value that is no mapping has none of them, or cannot even be
asked for them.
-/

namespace RuleFit

/-- The settings of a run. -/
structure Settings where
  deny : List Text := []
  cap : Cap := .whole 16
  severity : Severity := .error
  base : Datum := .map []
  deriving DecidableEq

instance : Inhabited Settings := ⟨{}⟩

/-- What is wrong with written settings. -/
inductive SettingsFault where
  | kind (fault : KindFault)
  | unwritable (fault : NumberTooLong)
  | denyNotList
  | badCap (value : Datum)
  | severityBool (value : Datum)
  | severityLevel (value : Datum)
  | severityName (value : Datum)
  | baseNotMapping
  deriving DecidableEq

def SettingsFault.message : SettingsFault → Text
  | .kind f => f.message
  | .unwritable f => f.message
  | .denyNotList => "autoconfig.deny_list must be a list of rule ids"
  | .badCap d =>
    d.quotedIn ("autoconfig.max_config_combinations must be a positive integer, got " ++ ·)
  | .severityBool d => "Invalid default_severity: " ++ d.literal
  | .severityLevel d =>
    d.quotedIn fun s => "Invalid default_severity: " ++ s ++ ", must be 0, 1 or 2"
  | .severityName d =>
    d.quotedIn fun s =>
      "Invalid default_severity: " ++ s ++ ", must be one of ['error', 'off', 'warn']"
  | .baseNotMapping => "autoconfig.base_config must be a mapping"

/-- The severity of a name, in letters of either case. -/
def Severity.ofName? (name : Text) : Option Severity :=
  match name.lower.string? with
  | some "off" => some .off
  | some "warn" => some .warn
  | some "error" => some .error
  | _ => none

namespace Settings

/-- Reads the denied rules; an empty value of any kind denies none. -/
def readDeny (d : Datum) : Except SettingsFault (List Text) :=
  match d.opened with
  | .list items => (items.mapM Datum.shown).mapError .unwritable
  | _ => if d.isEmpty then .ok [] else .error .denyNotList

/-- Reads the cap, a whole number from one on. -/
def readCap (d : Datum) : Except SettingsFault Cap :=
  match d with
  | .int n => if 1 ≤ n then .ok (.whole n) else .error (.badCap d)
  | d => .error (.badCap d)

/-- Reads the severity, a level or a name. -/
def readSeverity (d : Datum) : Except SettingsFault Severity :=
  match d with
  | .bool _ => .error (.severityBool d)
  | .int _ =>
    match Severity.ofDatum? d with
    | some s => .ok s
    | none => .error (.severityLevel d)
  | .text name =>
    match Severity.ofName? name with
    | some s => .ok s
    | none => .error (.severityName d)
  | d => .error (.severityName d)

/-- Reads the base configuration; an empty value of any kind is an empty one. -/
def readBase (d : Datum) : Except SettingsFault Datum :=
  if d.isMap then .ok d
  else if d.isEmpty then .ok (.map [])
  else .error .baseNotMapping

/-- Reads the value under a key, which may be missing. -/
def readOr {α : Type} (d : Datum) (key : Text) (default : α)
    (read : Datum → Except SettingsFault α) : Except SettingsFault α := do
  match ← (d.member? key).mapError .kind with
  | none => return default
  | some v => read v

/-- Reads settings from a mapping. -/
def read (d : Datum) : Except SettingsFault Settings := do
  let deny ← readOr d "deny_list" [] readDeny
  let cap ← readOr d "max_config_combinations" (.whole 16) readCap
  let severity ← readOr d "default_severity" .error readSeverity
  let base ← readOr d "base_config" (.map []) readBase
  return { deny, cap, severity, base }

/-- The rules that a value denies which is not read but taken as it is. Only texts name rules. -/
def deniedBy (d : Datum) : Except KindFault (List Text) := do
  let items ← (← d.elements).mapM Datum.asKey
  return items.filterMap fun
    | .text id => some id
    | _ => none

/-- The settings with more rules denied and, where one is given, another cap. -/
def override (s : Settings) (deny : List Text) (cap : Option Cap) : Settings :=
  { s with deny := s.deny ++ deny, cap := cap.getD s.cap }

/-- The denied rules in order, each once. -/
def denied (s : Settings) : List Text :=
  (s.deny.mergeSort Text.notAfter).eraseReps

end Settings

end RuleFit
