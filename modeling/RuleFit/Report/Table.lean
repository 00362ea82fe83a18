import RuleFit.Datum.Json
import RuleFit.Report.Basic
import RuleFit.Report.Layout
import RuleFit.Report.Markup

/-!
# The report for readers

A heading, a table of the configured rules, a line for the unresolved and one for the dropped rules,
and a summary. What the report quotes is escaped in its markup, and the text here is what the markup
shows without colours, set out for a terminal of so many columns.
-/

namespace RuleFit

/-- Why there is no report for readers: something has no JSON form, or no length in time. -/
inductive ReportFault where
  | json (fault : Datum.JsonFault)
  | time (fault : ArithmeticFault)
  deriving DecidableEq

def ReportFault.message : ReportFault → Text
  | .json f => f.message
  | .time f => f.message

namespace Report

/-- The end of a line, and so a blank line behind another. -/
def lineFeed : Text := "\n"

/-- A text as a cell. -/
def cellText (t : Text) : Text := Markup.shown (Markup.escape t)

/-- The cells of a rule's row. -/
def ruleCells (row : Text × Candidate) : Except Datum.JsonFault (List Text) := do
  let config ← row.2.toNative.toJson .oneLine
  return [cellText row.1, cellText config, toString row.2.specificity]

/-- The table of rules, and the blank line behind it. -/
def ruleTable (columns : Nat) (r : Report) : Except Datum.JsonFault (List Text) := do
  if r.rules.isEmpty then return []
  let rows ← r.rules.sortedRows.mapM ruleCells
  return [Layout.table columns [.left, .left, .right] (["rule", "config", "specificity"] :: rows),
    lineFeed]

/-- A marked-up line. -/
def markedLine (columns : Nat) (t : Text) : Text :=
  Layout.paragraph columns (Markup.shown t)

/-- A line that lists rules, if there are any, between marked-up texts. -/
def listLine (columns : Nat) (before : Text) (ids : List Text) (behind : Text) : List Text :=
  if ids.isEmpty then []
  else
    let names := Markup.escape (Text.intercalate ", " (ascending ids))
    [markedLine columns (before ++ names ++ behind)]

/-- The first line. -/
def heading (columns : Nat) (r : Report) : Text :=
  markedLine columns
    ("[bold]Linted " ++ r.filesLinted.display ++ " files with " ++ r.ruleSets.display
      ++ " rule sets[/bold] (" ++ r.failures.display ++ " failed)")

/-- The lines on other rules, and the blank line behind them. -/
def otherLines (columns : Nat) (r : Report) : List Text :=
  let lines := listLine columns "[yellow]? unresolved:[/yellow] " r.unresolved ""
    ++ listLine columns "[dim]- dropped: " r.dropped "[/dim]"
  if lines.isEmpty then [] else lines ++ [lineFeed]

/-- The last line. -/
def closing (columns : Nat) (r : Report) : Except ArithmeticFault Text := do
  let seconds ← r.elapsed.thousandth
  return markedLine columns
    (toString r.rules.size ++ " rules configured, " ++ toString r.unresolved.length
      ++ " unresolved, " ++ toString r.dropped.length ++ " dropped, "
      ++ toString r.untested.length ++ " untested (" ++ seconds.fixed 1 ++ "s)")

/-- The parts of the report for readers on a terminal, up to the fault that it breaks off at, if it
does. -/
def parts (columns : Nat) (r : Report) : List Text × Option ReportFault :=
  let top := [r.heading columns, lineFeed]
  match r.ruleTable columns with
  | .error f => (top, some (.json f))
  | .ok rules =>
    let body := top ++ rules ++ r.otherLines columns
    match r.closing columns with
    | .error f => (body, some (.time f))
    | .ok line => (body ++ [line], none)

/-- The report for readers on a terminal. -/
def table (columns : Nat) (r : Report) : Except ReportFault Text :=
  match r.parts columns with
  | (parts, none) => .ok (.join parts)
  | (_, some f) => .error f

end Report

end RuleFit
