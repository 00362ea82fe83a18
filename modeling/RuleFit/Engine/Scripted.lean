import RuleFit.Datum.Elements
import RuleFit.Engine.Basic

/-!
# Scripted engines

An engine can be given by clauses. A clause looks at the native form of one rule's configuration and
for a piece of text in the source; when both are as it wants, it adds diagnostics or ends the call.
Native forms are told apart by kind and order, but one not-a-number is like another.
-/

namespace RuleFit

/-- What a clause does when it applies. -/
inductive ClauseAction where
  | emit (found : List Diagnostic)
  | fail (message : Text)
  | giveNothing
  | breakOff (message : Text)
  deriving DecidableEq

/-- A clause: the rule it wants configured, the native form it wants there, the text it wants in the
source, each if any, and what it does. -/
structure Clause where
  rule : Option Text
  native : Option Datum
  contains : Option Text
  action : ClauseAction
  deriving DecidableEq

namespace Clause

/-- Whether the rule is configured as the clause wants. -/
def wantsRule (clause : Clause) (config : Datum) : Bool :=
  match clause.rule with
  | none => true
  | some id =>
    match (config.get? "rules").bind (·.get? id) with
    | none => false
    | some d => clause.native.all fun n => decide (d.unmarked = n.unmarked)

/-- Whether the clause applies to a call. -/
def applies (clause : Clause) (call : Call) : Bool :=
  clause.wantsRule call.config
    && clause.contains.all fun piece => piece.occursIn call.source

end Clause

/-- Goes through the clauses with the diagnostics found so far. -/
def answerFrom (call : Call) (found : List Diagnostic) : List Clause → Reply
  | [] => .diagnostics found
  | clause :: rest =>
    if clause.applies call then
      match clause.action with
      | .emit more => answerFrom call (found ++ more) rest
      | .fail message => .failed message
      | .giveNothing => .missing
      | .breakOff message => .broken found message
    else answerFrom call found rest

/-- The engine that goes through clauses in order. -/
def Engine.scripted (clauses : List Clause) : Engine Unit :=
  .stateless fun call => answerFrom call [] clauses

end RuleFit
