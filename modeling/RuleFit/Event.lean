import RuleFit.Binary64.Decimal
import RuleFit.Text.Basic

/-!
# Events

What a run has to say while it works. An event has a level, a channel named for the part of the
program that speaks, and a message; `Event.line` puts the three on one line.
-/

namespace RuleFit

/-- How important an event is. -/
inductive Level where
  | debug
  | info
  | warning
  | error
  deriving DecidableEq

namespace Level

def name : Level → String
  | .debug => "DEBUG"
  | .info => "INFO"
  | .warning => "WARNING"
  | .error => "ERROR"

def rank : Level → Nat
  | .debug => 0
  | .info => 1
  | .warning => 2
  | .error => 3

end Level

/-- Something worth a line in the log. -/
inductive Event where
  | optionSkipped (rule reason : Text)
  | ruleDenied (rule : Text)
  | ruleDropped (rule : Text)
  | catalogLoaded (count : Nat) (source : Text)
  | trialStarted (ruleSets : Nat)
  | fileStarted (file : Text)
  | callFailed (file : Text) (ruleSet : Nat) (message : Text)
  | diagnosticIgnored (ruleSet : Nat) (file : Text) (rule : Option Text)
  | rulesUntested (cap : Int) (rules : List Text)
  | finished (seconds : Binary64)
  | fileUnreadable (file cause : Text)
  | settingsMissing (file : Text)
  | settingsUnreadable (file : Text)
  | settingsNotMapping (file : Text)
  | sectionMissing (file : Text)
  deriving DecidableEq

namespace Event

def level : Event → Level
  | .optionSkipped .. | .ruleDenied .. | .ruleDropped .. | .catalogLoaded .. | .trialStarted ..
  | .fileStarted .. | .diagnosticIgnored .. => .debug
  | .rulesUntested .. | .finished .. => .info
  | .callFailed .. | .fileUnreadable .. | .settingsMissing .. | .settingsUnreadable ..
  | .settingsNotMapping .. | .sectionMissing .. => .warning

/-- The part of the program that speaks. -/
def channel : Event → String
  | .optionSkipped .. => "lintseed.autoconfig.expander"
  | .ruleDenied .. | .ruleDropped .. => "lintseed.autoconfig.registry"
  | .catalogLoaded .. => "lintseed.infrastructure.catalog"
  | .trialStarted .. | .fileStarted .. | .callFailed .. | .diagnosticIgnored .. =>
    "lintseed.autoconfig.runner"
  | .rulesUntested .. | .finished .. => "lintseed.autoconfig.session"
  | .fileUnreadable .. => "lintseed.infrastructure.corpus"
  | .settingsMissing .. | .settingsUnreadable .. | .settingsNotMapping .. | .sectionMissing .. =>
    "lintseed.infrastructure.settings"

def message : Event → Text
  | .optionSkipped rule reason => "Skipping option of " ++ rule ++ ": " ++ reason
  | .ruleDenied rule => "Rule " ++ rule ++ " is deny-listed, not generating configs"
  | .ruleDropped rule => "No error-free config for " ++ rule
  | .catalogLoaded count source =>
    "Loaded " ++ toString count ++ " rule schemas from " ++ source
  | .trialStarted ruleSets => "Linting with " ++ toString ruleSets ++ " rule sets"
  | .fileStarted file => "Linting file: " ++ file
  | .callFailed file ruleSet message =>
    "Linting " ++ file ++ " with rule set " ++ toString ruleSet ++ " failed: " ++ message
  | .diagnosticIgnored ruleSet file rule =>
    "Ignoring diagnostic outside rule set " ++ toString ruleSet ++ " in " ++ file ++ ": "
      ++ rule.getD "None"
  | .rulesUntested cap rules =>
    "Skipping " ++ toString rules.length ++ " rules with more than " ++ toString cap
      ++ " configs: " ++ Text.intercalate ", " rules
  | .finished seconds => "Finished generating config in " ++ seconds.fixed 3 ++ "s"
  | .fileUnreadable file cause => "Cannot read " ++ file ++ ", skipping: " ++ cause
  | .settingsMissing file => "Settings file " ++ file ++ " not found, using defaults"
  | .settingsUnreadable file => "Failed to read " ++ file ++ ", using default settings"
  | .settingsNotMapping file => file ++ " is not a YAML mapping, using default settings"
  | .sectionMissing file => "No autoconfig section in " ++ file ++ ", using default settings"

/-- The event on one line. -/
def line (e : Event) : Text :=
  e.level.name ++ " " ++ e.channel ++ ": " ++ e.message

end Event

/-- The events of a run, in order. -/
abbrev Log := Array Event

end RuleFit
