import RuleFit.Inference

/-!
# Reports

A report says what an inference found, in one of several forms. Its counts and its time come from an
inference as numbers, but a report can be made up of any values.
-/

namespace RuleFit

/-- What a report is about. -/
structure Report where
  rules : RuleTable Candidate := .empty
  dropped : List Text := []
  unresolved : List Text := []
  untested : List Text := []
  filesLinted : Datum := .int 0
  ruleSets : Datum := .int 0
  failures : Datum := .int 0
  elapsed : Datum := .float (.zero false)

/-- The report of a finding. -/
def Finding.report (f : Finding) : Report where
  rules := f.rules
  dropped := f.dropped
  unresolved := f.unresolved
  untested := f.untested
  filesLinted := .int f.filesLinted
  ruleSets := .int f.ruleSets
  failures := .int f.failures
  elapsed := f.elapsed

/-- Texts in ascending order of their code points. -/
def ascending (ids : List Text) : List Text :=
  ids.mergeSort Text.notAfter

/-- The rows of a table in ascending order of their ids. -/
def RuleTable.sortedRows {α : Type} (t : RuleTable α) : List (Text × α) :=
  t.rows.mergeSort fun a b => a.1.notAfter b.1

end RuleFit
