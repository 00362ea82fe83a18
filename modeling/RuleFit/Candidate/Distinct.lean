import RuleFit.Candidate.Basic
import RuleFit.Datum.Order

/-!
# Distinct candidates

Candidates are equal when their severities are and their options are equal values. A collection of
distinct candidates finds them by a key first: the severity and the options, each mapping replaced
by its sorted entries. A candidate has no key when the entries of an option cannot be sorted or when
something in it cannot be part of a key.
-/

namespace RuleFit.Candidate

/-- Equality of candidates. -/
def eqv (a b : Candidate) : Bool :=
  a.severity == b.severity && Datum.eqvItems a.options b.options

/-- Which candidates of a list are equal, row by row. -/
def equalities (cs : List Candidate) : List (List Bool) :=
  cs.map fun a => cs.map fun b => a.eqv b

/-- An option as part of a key. -/
def keyPart (d : Datum) : Except KindFault Datum :=
  match d.opened with
  | .map entries => do
    let sorted ← Datum.sortEntries entries
    return .tuple (sorted.map fun e => .tuple [e.1, e.2])
  | d => .ok d

/-- The key of a candidate. -/
def key (c : Candidate) : Except KindFault (Severity × List Datum) := do
  let parts ← c.options.mapM keyPart
  match Datum.notKeyItems? parts with
  | some k => .error (.notKey k)
  | none => .ok (c.severity, parts)

/-- Equality of keys. -/
def sameKey (a b : Severity × List Datum) : Bool :=
  a.1 == b.1 && Datum.eqvItems a.2 b.2

/-- Keeps the first candidate of every class of equal ones; `kept` holds those kept so far. -/
def distinctFrom (kept : List ((Severity × List Datum) × Candidate)) :
    List Candidate → Except KindFault (List Candidate)
  | [] => .ok (kept.map Prod.snd)
  | c :: cs => do
    let k ← c.key
    if kept.any fun e => sameKey e.1 k && e.2.eqv c then distinctFrom kept cs
    else distinctFrom (kept ++ [(k, c)]) cs

/-- The first candidate of every class of equal ones, in order. -/
def distinct (cs : List Candidate) : Except KindFault (List Candidate) :=
  distinctFrom [] cs

end RuleFit.Candidate
