import RuleFit.Candidate.Basic
import RuleFit.Schema.Descriptor

/-!
# Candidates that fit a schema

The options of a candidate must follow the descriptions of the schema in order, but may leave some
out. `Schema.fits` looks for such a way by going back over every choice; `Schema.fitsFirst` gives
each option the first description it matches.

Values are compared with their kind, so `1` does not match a listed `true`.
-/

namespace RuleFit

/-- Whether a value is listed. -/
def listed (values : List Datum) (d : Datum) : Bool :=
  values.any fun v => v.sameTyped d

/-- The domain of a property. Of properties with one name the last counts. -/
def domainOf? (properties : List (Text × Domain)) (name : Datum) : Option Domain :=
  (properties.reverse.find? fun p => (Datum.text p.1).eqv name).map Prod.snd

/-- Whether an option value matches a description. -/
def Descriptor.accepts : Descriptor → Datum → Bool
  | .plain domain, d => !d.isMap && listed domain.values d
  | .object properties, d =>
    match d.opened with
    | .map entries =>
      entries.all fun e =>
        match domainOf? properties e.1 with
        | some domain => listed domain.values e.2
        | none => false
    | _ => false
  | .unsupported _, _ => false

/-- Whether some of the descriptions, in order, match the options one by one. -/
def fitsFrom : List Descriptor → List Datum → Bool
  | _, [] => true
  | [], _ :: _ => false
  | d :: ds, o :: os => (d.accepts o && fitsFrom ds os) || fitsFrom ds (o :: os)

/-- Whether the options follow the descriptions when each takes the first one that matches. -/
def fitsFirstFrom : List Descriptor → List Datum → Bool
  | _, [] => true
  | [], _ :: _ => false
  | d :: ds, o :: os => if d.accepts o then fitsFirstFrom ds os else fitsFirstFrom ds (o :: os)

/-- The descriptions that a candidate's options are held against. -/
def Schema.supported (schema : Schema) : List Descriptor :=
  schema.filter Descriptor.isSupported

/-- Whether a candidate fits a schema. -/
def Schema.fits (schema : Schema) (c : Candidate) : Bool :=
  fitsFrom schema.supported c.options

/-- Whether a candidate fits a schema when every option takes its first match. -/
def Schema.fitsFirst (schema : Schema) (c : Candidate) : Bool :=
  fitsFirstFrom schema.supported c.options

end RuleFit
