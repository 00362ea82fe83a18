import RuleFit.Candidate.Basic
import RuleFit.Schema.Descriptor
import RuleFit.Splice.Values

/-!
# Expansion of a schema

The candidates of a rule are built up option by option. An expansion holds rows of option values;
each option with values keeps the rows that are there and adds every row extended by every value,
and the first such option gives the first rows. At the end the severity goes in front of every row,
and a row of the severity alone in front of all of them. An expansion takes its severity once. A
step that fails comes with the expansion as it is then.

So the first candidate is always the plain one, a longer schema starts with the candidates of the
shorter, and an option that cannot be enumerated, or has no values, changes nothing.
-/

namespace RuleFit

/-! ## Rows of a schema -/

/-- Keeps every row and adds each extended by each value. -/
def growRows (rows : List (List Datum)) (values : List Datum) : List (List Datum) :=
  if values.isEmpty then rows else rows ++ combine (rows.map .list) values

/-- The objects with one entry each that the properties allow. -/
def singleEntries (properties : List (Text × Domain)) : List Object :=
  properties.flatMap fun p => p.2.values.map fun v => [(Datum.text p.1, v)]

/-- The objects that give every property with values one of them. -/
def objectsOf (properties : List (Text × Domain)) : List Object :=
  match groupByProperty (singleEntries properties) with
  | .error _ => []
  | .ok groups => groups.foldl combineObjects []

/-- The values that an option takes its place in candidates with. A plain truth value is not
expanded. -/
def Descriptor.expanded : Descriptor → List Datum
  | .plain (.enum values) => values
  | .object properties => (objectsOf properties).map .map
  | .plain .boolean | .unsupported _ => []

/-- The option values of every candidate but the plain one. -/
def Schema.expand (schema : Schema) : List (List Datum) :=
  schema.foldl (fun rows d => growRows rows d.expanded) []

/-- Every candidate of a schema, the plain one first. -/
def Schema.candidates (schema : Schema) (s : Severity) : List Candidate :=
  ⟨s, []⟩ :: schema.expand.map (⟨s, ·⟩)

/-! ## Expansions step by step -/

/-- Rows under construction, and whether the severity is in place. The rows to start from can be
given, as a value of any kind. -/
structure Expansion where
  rows : Datum
  finished : Bool
  deriving DecidableEq

/-- Why a step fails: the rows are not what they should be, or the severity was put in place before.
-/
inductive ExpansionFault where
  | kind (fault : KindFault)
  | severityTwice
  deriving DecidableEq

def ExpansionFault.message : ExpansionFault → Text
  | .kind f => f.message
  | .severityTwice => "severity has already been added to this config set"

namespace Expansion

/-- Rows as a value. -/
def ofRows (rows : List (List Datum)) : Datum := .list (rows.map .list)

/-- An expansion that starts from a value; an empty one is no rows. -/
def start (d : Datum) : Expansion := ⟨if d.isEmpty then .list [] else d, false⟩

/-- The fault of putting a list behind a value that is none. -/
def notAList (d : Datum) : KindFault :=
  match d with
  | .text _ | .bytes _ | .tuple _ => .notJoined d.kind .list
  | d => .operands "+" d.kind .list

/-- A change gives its result, or ends with a fault and the expansion as it was then. -/
abbrev Change (ε : Type) : Type → Type := Except (ε × Expansion)

/-- Keeps every row and adds each extended by each of the values. -/
def grow (e : Expansion) (values : Datum) : Change KindFault Expansion :=
  if values.isEmpty then .ok e
  else do
    let more ← (e.rows.combine values).mapError (·, e)
    match e.rows with
    | .list rows => return { e with rows := .list (rows ++ more.map .list) }
    | rows => throw (notAList rows, e)

/-- Grows by the objects of an object option. -/
def addObject (e : Expansion) (properties : List (Text × Domain)) :
    Change KindFault Expansion :=
  e.grow (.list ((objectsOf properties).map .map))

/-- A row with the severity in front. -/
def withSeverity (s : Severity) (row : Datum) : Except KindFault Datum :=
  match row.elements? with
  | some items => .ok (.list (s.toDatum :: items))
  | none => .error (.notSpliceable row.kind)

/-- Puts the severity in front of every row, and a row of the severity alone in front of all. -/
def addSeverity (e : Expansion) (s : Severity) : Change ExpansionFault Expansion :=
  if e.finished then .error (.severityTwice, e)
  else do
    let rows ← e.rows.elements.mapError fun f => (.kind f, e)
    let rows ← (rows.mapM (withSeverity s)).mapError fun f => (.kind f, e)
    return ⟨.list (.list [s.toDatum] :: rows), true⟩

/-- Reads every row as a candidate. -/
def toCandidates (e : Expansion) : Except Candidate.RowFault (List Candidate) := do
  (← e.rows.elements.mapError .kind).mapM Candidate.ofRow

/-- Rows in a list grow by what comes of combining them with the values. -/
theorem grow_list (rows values : List Datum) (finished : Bool) :
    grow ⟨.list rows, finished⟩ (.list values) =
      .ok ⟨.list (if values.isEmpty then rows else rows ++ (combine rows values).map .list),
        finished⟩ := by
  cases values with
  | nil => rfl
  | cons x xs =>
    have hsome : ¬ (Datum.list (x :: xs)).isEmpty = true := Bool.false_ne_true
    rw [grow, if_neg hsome, Datum.combine_list _ rfl]
    rfl

/-- Rows of lists grow as the rows of a schema do. -/
theorem grow_ofRows (rows : List (List Datum)) (values : List Datum) (finished : Bool) :
    grow ⟨ofRows rows, finished⟩ (.list values) =
      .ok ⟨ofRows (growRows rows values), finished⟩ := by
  rw [ofRows, grow_list, growRows]
  split <;> simp [ofRows]

end Expansion

end RuleFit
