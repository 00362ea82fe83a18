import RuleFit.Event
import RuleFit.Expansion
import RuleFit.RuleTable
import RuleFit.Schema.Reading

/-!
# Rule catalogs

A catalog gives the option schema of every rule that a linter knows. It is read from a mapping with
an entry `rules`, a mapping of rule ids to schemas; a schema may also stand under a key `schema`,
and null means that the rule takes no options. Ids that are not texts count by the text they are
shown as, and where two ids are shown alike the last schema counts.
-/

namespace RuleFit

/-- The option schemas of rules. -/
structure Catalog where
  schemas : RuleTable Schema

instance : Inhabited Catalog := ⟨⟨.empty⟩⟩

/-- What is wrong with a written catalog that was named `source`. -/
inductive CatalogFault where
  | notMapping (source : Text)
  | rulesNotMapping (source : Text)
  | unwritableId (fault : NumberTooLong)
  | schema (fault : SchemaFault)
  deriving DecidableEq

def CatalogFault.message : CatalogFault → Text
  | .notMapping source => source ++ ": top level must be a mapping"
  | .rulesNotMapping source => source ++ ": 'rules' must be a mapping of rule id to schema"
  | .unwritableId f => f.message
  | .schema f => f.message

namespace Catalog

/-- The part of a rule's entry that holds its schema. -/
def rawSchema (d : Datum) : Datum :=
  if d.isMap then (d.get? "schema").getD .null else d

/-- Where the schema of a rule stands, for messages. -/
def place (source id : Text) : Text :=
  source ++ ": rule '" ++ id ++ "'"

/-- Reads the rules one after the other into a table. -/
def readRules (source : Text) (table : RuleTable Schema) :
    List (Datum × Datum) → Except CatalogFault (RuleTable Schema)
  | [] => .ok table
  | (id, d) :: rest =>
    match id.shown with
    | .error f => .error (.unwritableId f)
    | .ok id =>
      match Schema.read (place source id) (rawSchema d) with
      | .error f => .error (.schema f)
      | .ok schema => readRules source (table.set id schema) rest

/-- Reads a catalog that was named `source`. -/
def read (source : Text) (d : Datum) : Except CatalogFault Catalog :=
  if d.isMap then
    match (d.get? "rules").map Datum.opened with
    | some (.map rules) => (readRules source .empty rules).map (⟨·⟩)
    | _ => .error (.rulesNotMapping source)
  else .error (.notMapping source)

/-- The event of a catalog that was read. -/
def loaded (c : Catalog) (source : Text) : Event :=
  .catalogLoaded c.schemas.size source

/-! ## The candidates of a catalog -/

/-- The candidates of every rule that is not denied. -/
def candidates (c : Catalog) (deny : List Text) (s : Severity) : RuleTable (List Candidate) :=
  c.schemas.filterMap fun id schema =>
    if deny.contains id then none else some (schema.candidates s)

end Catalog

/-- The events of expanding a schema: one for every option that is left out. -/
def Schema.expansionEvents (schema : Schema) (rule : Text) : List Event :=
  schema.unsupported.map (.optionSkipped (if rule.isEmpty then "<rule>" else rule))

/-- The events of expanding every rule that is not denied. -/
def Catalog.expansionEvents (c : Catalog) (deny : List Text) : List Event :=
  c.schemas.rows.flatMap fun r =>
    if deny.contains r.1 then [.ruleDenied r.1] else r.2.expansionEvents r.1

end RuleFit
