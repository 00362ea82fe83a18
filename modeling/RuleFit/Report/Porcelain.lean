import RuleFit.Report.Basic

/-!
# The porcelain report

One line for every configured rule, in ascending order: its id, a colon and the specificity of its
configuration. The specificity holds no colon, so the last colon of a line ends the id.
-/

namespace RuleFit.Report

/-- The line of a rule. -/
def porcelainLine (id : Text) (c : Candidate) : Text :=
  id ++ ":" ++ toString c.specificity

/-- The porcelain report; its last line has no line feed. -/
def porcelain (r : Report) : Text :=
  Text.intercalate "\n" (r.rules.sortedRows.map fun row => porcelainLine row.1 row.2)

end RuleFit.Report
