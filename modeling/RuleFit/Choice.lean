import RuleFit.Scoreboard

/-!
# The choice

After a strip, a rule is settled when its choice is unambiguous: its only candidate, or else the
only one with one option, or else the only one with two, or else the only one without any. Otherwise
it stays unresolved.

`Scoreboard.choose` merges the tables of unambiguous candidates, the least preferred first, and
`pick?` says what that means for one rule.
-/

namespace RuleFit

/-- The specificities that settle a rule, the least preferred first. -/
def preference : List Int := [1, 3, 2]

/-- The candidate that the clean entries of a rule settle on. -/
def pick? (es : List Entry) : Option Candidate :=
  let only (n : Nat) := Scoreboard.sole? (es.filter fun e => decide (e.specificity = n))
  (Scoreboard.sole? es).or ((only 2).or ((only 3).or (only 1)))

namespace Scoreboard

/-- The candidates that rules settle on, of the entries on the board. -/
def choose (b : Scoreboard) : RuleTable Candidate :=
  (preference.foldl (fun t n => RuleTable.merge t (b.withSpecificity n)) RuleTable.empty).merge
    b.soleCandidates

/-- The live rules without a choice. -/
def unresolved (b : Scoreboard) (chosen : RuleTable Candidate) : List Text :=
  b.rules.ids.filter fun id => !chosen.contains id

end Scoreboard

end RuleFit
