import RuleFit.Event
import RuleFit.Files
import RuleFit.Settings.Basic
import RuleFit.Yaml.Source

/-!
# Settings files

The settings stand in a section of a YAML file. Without a path the defaults hold; they hold too,
with a warning, where there is no file, no YAML, no mapping or no section. An invalid setting is a
fault, and so are a broken encoding, a scalar without a value and a path that cannot be looked at.
-/

namespace RuleFit

/-- Why a settings file gives no settings. -/
inductive SettingsFileFault where
  | unreachable (path : Text) (fault : FileFault)
  | undecodable (fault : Text.Utf8Fault)
  | scalar (fault : Yaml.ScalarFault)
  | settings (fault : SettingsFault)
  deriving DecidableEq

def SettingsFileFault.message : SettingsFileFault → Text
  | .unreachable path f => f.message path
  | .undecodable f => f.message
  | .scalar f => f.message
  | .settings f => f.message

/-- Whether a run answers for a fault and does not break off at it. -/
def SettingsFileFault.isAnswered : SettingsFileFault → Bool
  | .unreachable .. => false
  | .scalar f => f.saysNoValue
  | .settings (.kind _) => false
  | _ => true

namespace Settings

/-- The settings of a document, or the warning with which the defaults hold. -/
def ofDocument (path : Text) (d : Datum) :
    Except SettingsFileFault (Settings × Option Event) :=
  if !d.isMap then .ok ({}, some (.settingsNotMapping path))
  else
    match d.get? "autoconfig" with
    | some s =>
      if s.isMap then ((Settings.read s).mapError .settings).map (·, none)
      else .ok ({}, some (.sectionMissing path))
    | none => .ok ({}, some (.sectionMissing path))

/-- Reads the settings in the bytes of a file. -/
def ofBytes (path : Text) (bytes : List UInt8) :
    Except SettingsFileFault (Settings × Option Event) :=
  match Yaml.loadBytes bytes with
  | .error (.flaw _) => .ok ({}, some (.settingsUnreadable path))
  | .error (.encoding f) => .error (.undecodable f)
  | .error (.scalar f) => .error (.scalar f)
  | .ok d => ofDocument path d

/-- Reads the settings file at a path, which goes by a name. -/
def loadAs (name : Text) (fs : FileSystem) (path : Text) :
    Except SettingsFileFault (Settings × Option Event) :=
  match isFile fs path, readBytes fs path with
  | .error f, _ => .error (.unreachable name f)
  | .ok false, _ => .ok ({}, some (.settingsMissing name))
  | .ok true, .error _ => .ok ({}, some (.settingsUnreadable name))
  | .ok true, .ok bytes => ofBytes name bytes

/-- Reads the settings file at a path, if one is given. -/
def load (fs : FileSystem) : Option Text → Except SettingsFileFault (Settings × Option Event)
  | none => .ok ({}, none)
  | some path => loadAs (showPath path) fs (showPath path)

end Settings

end RuleFit
