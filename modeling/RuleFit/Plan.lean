import RuleFit.Scoreboard

/-!
# Plans

A linter is called with one candidate per rule, so many rules are tried at once: rule set `i` holds
candidate `i` of every rule that has so many. Rules with more candidates than the cap are in no rule
set. The rule sets thin out until the longest list of candidates is used up.
-/

namespace RuleFit

/-- One candidate for each of some rules. -/
abbrev RuleSet := RuleTable Candidate

namespace Scoreboard

/-- The rules that have few enough candidates. -/
def eligible (b : Scoreboard) (within : Nat → Bool) : RuleTable (List Entry) :=
  b.rules.filter fun _ es => within es.length

/-- Candidate `i` of every rule that has so many. -/
def layer (t : RuleTable (List Entry)) (i : Nat) : RuleSet :=
  t.filterMap fun _ es => es[i]?.map Entry.candidate

/-- The length of the longest list of candidates. -/
def depth (t : RuleTable (List Entry)) : Nat :=
  t.rows.foldl (fun n r => max n r.2.length) 0

/-- The rule sets to try, one for every position of a candidate. -/
def plan (b : Scoreboard) (within : Nat → Bool) : List RuleSet :=
  let t := b.eligible within
  (List.range (depth t)).map (layer t)

/-- The rule sets to try under a cap. Without rules the cap is not looked at. -/
def planUnder (b : Scoreboard) (cap : Cap) : Except KindFault (List RuleSet) :=
  if b.rules.isEmpty then .ok [] else cap.within.map b.plan

end Scoreboard

end RuleFit
