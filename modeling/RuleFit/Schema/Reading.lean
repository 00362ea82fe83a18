import RuleFit.Schema.Descriptor
import RuleFit.Datum.Literal

/-!
# Reading option schemas

A schema is written as a list of mappings. A mapping with a key `oneOf` or `anyOf` is a disjunction
and cannot be enumerated; otherwise an `enum` that is not null decides, and must be a list;
otherwise the type `object` makes an object option of those `properties` that have an enumeration or
are boolean. Everything else cannot be enumerated either. Null and the empty mapping describe a rule
without options.

A fault carries the place it was found at, which its message starts with. Names and types that are
not texts are shown as such; one that cannot be written out is a fault too.
-/

namespace RuleFit

/-- What is wrong with a written schema. -/
inductive SchemaCause where
  | notList
  | descriptorNotMapping
  | enumNotList
  | propertiesNotMapping
  | unwritable (fault : NumberTooLong)
  deriving DecidableEq

/-- A cause and the place where it was found. -/
structure SchemaFault where
  place : Text
  cause : SchemaCause
  deriving DecidableEq

/-- The message of a fault at a place. -/
def SchemaCause.message (place : Text) : SchemaCause → Text
  | .notList => place ++ ": schema must be a list of option descriptors"
  | .descriptorNotMapping => place ++ ": option descriptor must be a mapping"
  | .enumNotList => place ++ ": 'enum' must be a list"
  | .propertiesNotMapping => place ++ ": 'properties' must be a mapping"
  | .unwritable f => f.message

def SchemaFault.message (f : SchemaFault) : Text := f.cause.message f.place

/-! ## Descriptors -/

/-- Whether a mapping has the given type. -/
def hasType (d : Datum) (type : Text) : Bool :=
  match d.get? "type" with
  | some t => t.eqv (.text type)
  | none => false

/-- The domain of an object's property, where it has one that can be enumerated. -/
def Domain.ofProperty? (d : Datum) : Option Domain :=
  match (d.get? "enum").map Datum.opened with
  | some (.list values) => some (.enum values)
  | _ => if hasType d "boolean" then some .boolean else none

/-- The properties of an object that can be enumerated, by name. -/
def readProperties : List (Datum × Datum) → Except NumberTooLong (List (Text × Domain))
  | [] => .ok []
  | (name, d) :: rest =>
    match Domain.ofProperty? d with
    | none => readProperties rest
    | some domain => do
      let name ← name.shown
      return (name, domain) :: (← readProperties rest)

/-- The disjunction that a mapping is, if it is one. -/
def disjunction? (d : Datum) : Option Text :=
  let keys : List Text := ["oneOf", "anyOf"]
  keys.find? fun key => (d.get? key).isSome

/-- The description of an option that is neither an enumeration nor a disjunction. -/
def Descriptor.ofTyped (d : Datum) : Except SchemaCause Descriptor :=
  if hasType d "object" then
    match (d.get? "properties").map Datum.opened with
    | none => .ok (.object [])
    | some (.map entries) => ((readProperties entries).mapError .unwritable).map .object
    | some _ => .error .propertiesNotMapping
  else do
    let type := (d.get? "type").getD (.text "untyped")
    return .unsupported ("type '" ++ (← type.shown.mapError .unwritable) ++ "' is not expanded")

/-- Reads the description of one option. -/
def Descriptor.ofDatum (d : Datum) : Except SchemaCause Descriptor :=
  if d.isMap then
    match disjunction? d with
    | some key => .ok (.unsupported (key ++ " is not expanded"))
    | none =>
      match (d.get? "enum").map Datum.opened with
      | none | some .null => Descriptor.ofTyped d
      | some (.list values) => .ok (.plain (.enum values))
      | some _ => .error .enumNotList
  else .error .descriptorNotMapping

/-- Reads the description of one option, found at `place`. -/
def Descriptor.read (place : Text) (d : Datum) : Except SchemaFault Descriptor :=
  (Descriptor.ofDatum d).mapError (⟨place, ·⟩)

/-! ## Schemas -/

/-- Reads descriptors that stand from `index` on in a list found at `place`. -/
def Schema.readItems (place : Text) (index : Nat) : List Datum → Except SchemaFault Schema
  | [] => .ok []
  | d :: ds => do
    let first ← Descriptor.read (place ++ "[" ++ toString index ++ "]") d
    return first :: (← Schema.readItems place (index + 1) ds)

/-- Reads the schema of a rule, found at `place`. -/
def Schema.read (place : Text) (d : Datum) : Except SchemaFault Schema :=
  match d.opened with
  | .null | .map [] => .ok []
  | .list items => Schema.readItems place 0 items
  | _ => .error ⟨place, .notList⟩

end RuleFit
