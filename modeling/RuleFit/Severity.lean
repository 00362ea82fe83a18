import RuleFit.Datum.Equality
import RuleFit.Datum.Literal

/-!
# Severity

The level that a rule is switched on with. Every number equal to 0, 1 or 2 stands for a severity,
whatever its kind; nothing else does.
-/

namespace RuleFit

/-- How a linter treats a rule: not at all, as a warning, as an error. -/
inductive Severity where
  | off
  | warn
  | error
  deriving DecidableEq, Repr, Inhabited

namespace Severity

def level : Severity → Int
  | .off => 0
  | .warn => 1
  | .error => 2

/-- The level as a data value. -/
def toDatum (s : Severity) : Datum := .int s.level

/-- The severity of a number equal to a level. -/
def ofDatum? (d : Datum) : Option Severity :=
  [off, warn, error].find? fun s => d.sameQuantity s.toDatum

end Severity

/-- A value that stands for no severity. -/
structure SeverityFault where
  value : Datum
  deriving DecidableEq

def SeverityFault.message (f : SeverityFault) : Text :=
  f.value.quotedIn (· ++ " is not a valid Severity")

/-- The severity that a value stands for, or the fault that it stands for none. -/
def Severity.ofDatum (d : Datum) : Except SeverityFault Severity :=
  match Severity.ofDatum? d with
  | some s => .ok s
  | none => .error ⟨d⟩

end RuleFit
