import RuleFit.Candidate.Basic
import RuleFit.Cap
import RuleFit.Event
import RuleFit.RuleTable

/-!
# The scoreboard

While candidates are tried, a scoreboard keeps the candidates of every rule in order and counts the
errors charged to each. A candidate is named by its rule and its position; a negative position
counts from the end. Stripping keeps the candidates without errors, and a rule left with none is
dropped. A change that fails comes with the board as it is then.
-/

namespace RuleFit

/-- A candidate with its specificity, as noted when it came on the board, and the number of errors
charged to it. -/
structure Entry where
  candidate : Candidate
  specificity : Nat
  errors : Int := 0
  deriving DecidableEq

namespace Entry

def ofCandidate (c : Candidate) : Entry where
  candidate := c
  specificity := c.specificity

def isClean (e : Entry) : Bool := e.errors == 0

def charge (e : Entry) (count : Int) : Entry := { e with errors := e.errors + count }

end Entry

/-- The candidates of the live rules, and the rules that were dropped. -/
structure Scoreboard where
  rules : RuleTable (List Entry)
  dropped : List Text

/-- A rule or a candidate that is not on the board, or a value that names none. -/
inductive BoardFault where
  | unknownRule (id : Text)
  | noRule (d : Datum)
  | noCandidate
  | farAway
  | kind (fault : KindFault)
  deriving DecidableEq

def BoardFault.message : BoardFault → Text
  | .unknownRule id => Text.quoted id
  | .noRule d => d.quotedIn id
  | .noCandidate => "list index out of range"
  | .farAway => "cannot fit 'int' into an index-sized integer"
  | .kind f => f.message

/-- The rule id that a value is. -/
def ruleIdOf (d : Datum) : Except BoardFault Text := do
  match ← d.asKey.mapError .kind with
  | .text id => return id
  | d => throw (.noRule d)

/-- Positions and counts can be given as truth values too. -/
def Datum.toInt? : Datum → Option Int
  | .int n => some n
  | .bool b => some (if b then 1 else 0)
  | _ => none

/-- The position that a value is. -/
def positionOf (d : Datum) : Except BoardFault Int :=
  match d.toInt? with
  | some n => .ok n
  | none => .error (.kind (.notIndexed .list d.kind))

/-- The count that a value is. -/
def countOf (d : Datum) : Except BoardFault Int :=
  match d.toInt? with
  | some n => .ok n
  | none => .error (.kind (.operands "+" .int d.kind))

/-- Whether a position can be that of an item at all: it fits into 64 bits with a sign. -/
def isNear (position : Int) : Bool :=
  decide (-0x8000000000000000 ≤ position ∧ position < 0x8000000000000000)

/-- The place in a list of `n` items that a position names. -/
def place? (n : Nat) (position : Int) : Option Nat :=
  let i := if position < 0 then position + n else position
  if 0 ≤ i ∧ i < n then some i.toNat else none

/-- The fault of a position that names no place. -/
def noPlace (position : Int) : BoardFault :=
  if isNear position then .noCandidate else .farAway

namespace Scoreboard

/-- The board on which no candidate has an error. -/
def ofCandidates (t : RuleTable (List Candidate)) : Scoreboard :=
  ⟨t.map fun _ cs => cs.map .ofCandidate, []⟩

/-! ## Looking up -/

/-- The entries of a rule. -/
def entries (b : Scoreboard) (id : Text) : Except BoardFault (List Entry) :=
  match b.rules.get? id with
  | some es => .ok es
  | none => .error (.unknownRule id)

/-- How many candidates a rule has. -/
def count (b : Scoreboard) (id : Text) : Except BoardFault Nat :=
  (b.entries id).map List.length

/-- The entry at a position. -/
def entry (b : Scoreboard) (id : Text) (position : Int) : Except BoardFault Entry := do
  let es ← b.entries id
  match (place? es.length position).bind (es[·]?) with
  | some e => .ok e
  | none => .error (noPlace position)

/-! ## Changing -/

/-- A change gives its result, or ends with a fault and the board as it was then. -/
abbrev Change : Type → Type := Except (BoardFault × Scoreboard)

/-- Charges errors to the candidate at a position. -/
def charge (b : Scoreboard) (id : Text) (position count : Int) : Change Scoreboard := do
  let es ← (b.entries id).mapError (·, b)
  match place? es.length position with
  | some i => .ok { b with rules := b.rules.set id (es.modify i (·.charge count)) }
  | none => .error (noPlace position, b)

/-- The entry that values name. -/
def entryAt (b : Scoreboard) (rule position : Datum) : Except BoardFault Entry := do
  let id ← ruleIdOf rule
  let _ ← b.entries id
  b.entry id (← positionOf position)

/-- Charges as many errors as a value says to the candidate that values name. -/
def chargeAt (b : Scoreboard) (rule position count : Datum) : Change Scoreboard := do
  let id ← (ruleIdOf rule).mapError (·, b)
  let _ ← (b.entryAt rule position).mapError (·, b)
  let place ← (positionOf position).mapError (·, b)
  b.charge id place (← (countOf count).mapError (·, b))

/-- Takes rules off the board. -/
def discard (b : Scoreboard) (ids : List Text) : Scoreboard :=
  { b with rules := b.rules.filter fun id _ => !ids.contains id }

/-- Takes the rules that the elements of a value name off the board, up to one that can name none.
Such a one makes no fault where no rule is left. -/
def discardIn (b : Scoreboard) (d : Datum) : Scoreboard × Except KindFault Unit :=
  match d.elements with
  | .error f => (b, .error f)
  | .ok items =>
    let named := items.takeWhile fun x => x.notKey?.isNone
    let ids := named.filterMap fun
      | .text id => some id
      | _ => none
    let left := b.discard ids
    if left.rules.isEmpty then (left, .ok ())
    else (left, (items.drop named.length).forM fun x => x.asKey.map fun _ => ())

/-- The rules without a clean candidate. -/
def failing (b : Scoreboard) : List Text :=
  (b.rules.filter fun _ es => !es.any Entry.isClean).ids

/-- Keeps the clean candidates and drops the rules without any. -/
def strip (b : Scoreboard) : Scoreboard where
  rules := b.rules.filterMap fun _ es =>
    let clean := es.filter Entry.isClean
    if clean.isEmpty then none else some clean
  dropped := b.dropped ++ b.failing

/-- The events of stripping. -/
def stripEvents (b : Scoreboard) : List Event :=
  b.failing.map .ruleDropped

/-! ## Asking -/

/-- The rules with too many candidates. -/
def untestable (b : Scoreboard) (tooMany : Nat → Bool) : List Text :=
  (b.rules.filter fun _ es => tooMany es.length).ids

/-- The rules with more candidates than the cap. Without rules the cap is not looked at. -/
def aboveCap (b : Scoreboard) (cap : Cap) : Except KindFault (List Text) :=
  if b.rules.isEmpty then .ok [] else cap.below.map b.untestable

/-- The candidate of a list that has only one. -/
def sole? : List Entry → Option Candidate
  | [e] => some e.candidate
  | _ => none

/-- The rules with a single candidate. -/
def soleCandidates (b : Scoreboard) : RuleTable Candidate :=
  b.rules.filterMap fun _ es => sole? es

/-- The rules with a single candidate of the given specificity. -/
def withSpecificity (b : Scoreboard) (n : Int) : RuleTable Candidate :=
  b.rules.filterMap fun _ es => sole? (es.filter fun e => decide ((e.specificity : Int) = n))

/-- The same where the specificity is a value, which may be a number of any kind or none. -/
def withSpecificityOf (b : Scoreboard) (d : Datum) : RuleTable Candidate :=
  b.rules.filterMap fun _ es => sole? (es.filter fun e => d.sameQuantity (.int e.specificity))

end Scoreboard

end RuleFit
