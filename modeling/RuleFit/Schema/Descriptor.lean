import RuleFit.Datum.Equality

/-!
# Option schemas

A rule takes options, and its schema describes them one after the other. An option is a plain value
out of a domain, or an object whose properties each have a domain, or something that cannot be
enumerated; of that only the reason is kept.
-/

namespace RuleFit

/-- A set of values listed in order: an enumeration, or the two truth values. -/
inductive Domain where
  | enum (values : List Datum)
  | boolean
  deriving DecidableEq

/-- The values of a domain, in order. -/
def Domain.values : Domain → List Datum
  | .enum values => values
  | .boolean => [.bool true, .bool false]

/-- The description of one option. -/
inductive Descriptor where
  | plain (domain : Domain)
  | object (properties : List (Text × Domain))
  | unsupported (reason : Text)
  deriving DecidableEq

def Descriptor.isSupported : Descriptor → Bool
  | .unsupported _ => false
  | _ => true

/-- The reason why an option cannot be enumerated. -/
def Descriptor.reason? : Descriptor → Option Text
  | .unsupported reason => some reason
  | _ => none

/-- The options of a rule, in the order they are given in. -/
abbrev Schema := List Descriptor

/-- The options that expansion takes no account of, by their reasons. -/
def Schema.unsupported (schema : Schema) : List Text :=
  schema.filterMap Descriptor.reason?

end RuleFit
