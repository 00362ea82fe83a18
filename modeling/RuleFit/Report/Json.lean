import RuleFit.Datum.Json
import RuleFit.Report.Basic

/-!
# The JSON report

One object with the chosen configurations by rule, the three lists of other rules and a summary, all
in ascending order and indented by two blanks.
-/

namespace RuleFit.Report

private def idList (ids : List Text) : Datum :=
  .list ((ascending ids).map .text)

/-- The summary of a report. -/
def summary (r : Report) : Datum :=
  .map [
    (.text "rules_configured", .int r.rules.size),
    (.text "files_linted", r.filesLinted),
    (.text "rule_sets", r.ruleSets),
    (.text "failures", r.failures),
    (.text "elapsed_ms", r.elapsed)]

/-- The report as one data value. -/
def toDatum (r : Report) : Datum :=
  .map [
    (.text "rules", .map (r.rules.sortedRows.map fun row => (.text row.1, row.2.toNative))),
    (.text "unresolved", idList r.unresolved),
    (.text "dropped", idList r.dropped),
    (.text "untested", idList r.untested),
    (.text "summary", r.summary)]

/-- The JSON report. -/
def json (r : Report) : Except Datum.JsonFault String :=
  r.toDatum.toJson (.indented 2)

end RuleFit.Report
