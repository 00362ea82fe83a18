import RuleFit.Datum.Elements
import RuleFit.Severity

/-!
# Candidates

A candidate is one concrete way to switch a rule on: a severity and the values of its options.
Linter configurations write it in native form, a bare number when there are no options and otherwise
a list that starts with the number. `Candidate.toNative` writes that form and `Candidate.ofNative`
reads it; the reader takes more than the writer gives, and says what is wrong with the rest.
-/

namespace RuleFit

/-- A severity and option values, in the order of the options. -/
structure Candidate where
  severity : Severity
  options : List Datum
  deriving DecidableEq, Inhabited

namespace Candidate

/-- The shape of a candidate: no options, or by the last option. -/
inductive Shape where
  | severity
  | value
  | object
  deriving DecidableEq

def Shape.name : Shape → String
  | .severity => "severity"
  | .value => "value"
  | .object => "object"

def shape (c : Candidate) : Shape :=
  match c.options.getLast? with
  | none => .severity
  | some d => if d.isMap then .object else .value

/-- How many elements the candidate has: the severity and each option. -/
def specificity (c : Candidate) : Nat := 1 + c.options.length

/-! ## Native form -/

/-- The form that linter configurations use. -/
def toNative (c : Candidate) : Datum :=
  if c.options.isEmpty then c.severity.toDatum else .list (c.severity.toDatum :: c.options)

/-! ## Rows -/

/-- What keeps a value from being read as a severity and options. -/
inductive RowFault where
  | kind (fault : KindFault)
  | outOfRange (kind : Datum.Kind)
  | noFirst
  | severity (fault : SeverityFault)
  deriving DecidableEq

def RowFault.message : RowFault → Text
  | .kind f => f.message
  | .outOfRange .text => "string index out of range"
  | .outOfRange .bytes => "index out of range"
  | .outOfRange k => k.name ++ " index out of range"
  | .noFirst => "0"
  | .severity f => f.message

/-- The first element of a value: of a mapping, the value under zero. -/
def firstOf (d : Datum) : Except RowFault Datum :=
  match d.opened with
  | .map entries =>
    match Datum.find? entries (.int 0) with
    | some v => .ok v
    | none => .error .noFirst
  | .list _ | .tuple _ | .text _ | .bytes _ =>
    match d.elements? with
    | some (x :: _) => .ok x
    | _ => .error (.outOfRange d.kind)
  | d => .error (.kind (.notSubscriptable d.kind))

/-- The elements of a value behind the first one. A mapping has no such part. -/
def othersOf (d : Datum) : Except RowFault (List Datum) :=
  match d.opened with
  | .list _ | .tuple _ | .text _ | .bytes _ => .ok (d.elements?.getD []).tail
  | _ => .error (.kind .notSliceable)

/-- Reads the first element as a severity and the others as options. -/
def ofRow (d : Datum) : Except RowFault Candidate := do
  let severity ← (Severity.ofDatum (← firstOf d)).mapError .severity
  return ⟨severity, ← othersOf d⟩

/-! ## Reading the native form -/

/-- What keeps a value from being read as a candidate. -/
inductive NativeFault where
  | empty
  | row (fault : RowFault)
  deriving DecidableEq

def NativeFault.message : NativeFault → Text
  | .empty => "native rule config must not be empty"
  | .row f => f.message

/-- Reads a candidate from its native form. Whole numbers and booleans are severities; of the other
values the empty ones are refused as such, and the rest are rows. -/
def ofNative (d : Datum) : Except NativeFault Candidate :=
  match d with
  | .int _ | .bool _ =>
    ((Severity.ofDatum d).mapError fun f => NativeFault.row (.severity f)).map (⟨·, []⟩)
  | d => if d.isEmpty then .error .empty else (ofRow d).mapError .row

end Candidate

end RuleFit
