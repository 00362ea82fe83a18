import RuleFit.Datum.Equality

/-!
# What values hold

Many a value can be taken apart: a text into its characters, a sequence or a set into its items, a
mapping into its keys. What a value cannot do for its kind is a `KindFault`, whose message names the
kind.

A value can serve as a key when no list, no set and no mapping stands in it; `notKey?` finds the
first one that does. `toEntries` makes a mapping of a value: of a mapping itself, and of anything
whose elements are pairs.
-/

namespace RuleFit

/-- Something asked of a value that its kind does not allow. -/
inductive KindFault where
  | notIterable (kind : Datum.Kind)
  | notSpliceable (kind : Datum.Kind)
  | notMapping (kind : Datum.Kind)
  | notContainer (kind : Datum.Kind)
  | notSubscriptable (kind : Datum.Kind)
  | notIndexed (kind key : Datum.Kind)
  | notSliceable
  | notKey (kind : Datum.Kind)
  | notAPair (position : Nat)
  | notJoined (left right : Datum.Kind)
  | operands (sign : Text) (left right : Datum.Kind)
  | unordered (sign : Text) (left right : Datum.Kind)
  deriving DecidableEq

/-- What a fault says about the two sides of an operation. -/
private def between (left right : Datum.Kind) : Text :=
  "'" ++ left.name ++ "' and '" ++ right.name ++ "'"

def KindFault.message : KindFault → Text
  | .notIterable k => "'" ++ k.name ++ "' object is not iterable"
  | .notSpliceable k => "Value after * must be an iterable, not " ++ k.name
  | .notMapping k => "'" ++ k.name ++ "' object is not a mapping"
  | .notContainer k => "argument of type '" ++ k.name ++ "' is not iterable"
  | .notSubscriptable k => "'" ++ k.name ++ "' object is not subscriptable"
  | .notIndexed .text key => "string indices must be integers, not '" ++ key.name ++ "'"
  | .notIndexed .bytes key => "byte indices must be integers or slices, not " ++ key.name
  | .notIndexed k key => k.name ++ " indices must be integers or slices, not " ++ key.name
  | .notSliceable => "unhashable type: 'slice'"
  | .notKey k => "unhashable type: '" ++ k.name ++ "'"
  | .notAPair n =>
    "cannot convert dictionary update sequence element #" ++ toString n ++ " to a sequence"
  | .notJoined l r =>
    "can only concatenate " ++ l.name ++ " (not \"" ++ r.name ++ "\") to " ++ l.name
  | .operands sign l r => "unsupported operand type(s) for " ++ sign ++ ": " ++ between l r
  | .unordered sign l r =>
    "'" ++ sign ++ "' not supported between instances of " ++ between l r

namespace Datum

/-! ## Elements -/

/-- The elements of a value that can be gone through. -/
def elements? (d : Datum) : Option (List Datum) :=
  match d.opened with
  | .text t => some (t.points.map fun p => .text (.single p))
  | .bytes bs => some (bs.map fun b => .int b.toNat)
  | .list items | .tuple items | .set items => some items
  | .map entries => some (entries.map Prod.fst)
  | _ => none

/-- The elements of a value, or the fault that it has none. -/
def elements (d : Datum) : Except KindFault (List Datum) :=
  match d.elements? with
  | some items => .ok items
  | none => .error (.notIterable d.kind)

/-- The value under a text key, if there is one. In a text or a sequence the key can occur, but has
no value. -/
def member? (d : Datum) (key : Text) : Except KindFault (Option Datum) :=
  match d.opened with
  | .map entries => .ok (find? entries (.text key))
  | .text t => if key.occursIn t then .error (.notIndexed .text .text) else .ok none
  | d =>
    match d.elements? with
    | none => .error (.notContainer d.kind)
    | some items =>
      if items.any (alike (.text key)) then .error (.notIndexed d.kind .text) else .ok none

/-! ## Keys -/

mutual

/-- The kind of the first list, set or mapping in a value, which keeps it from being a key. -/
def notKey? : Datum → Option Kind
  | .list _ => some .list
  | .set _ => some .set
  | .map _ => some .map
  | .tuple items => notKeyItems? items
  | .knot .. => some .list
  | _ => none
termination_by structural d => d

/-- The same over the items of a sequence. -/
def notKeyItems? : List Datum → Option Kind
  | [] => none
  | x :: xs => (notKey? x).or (notKeyItems? xs)
termination_by structural xs => xs

end

/-- The value, if it can be a key. -/
def asKey (d : Datum) : Except KindFault Datum :=
  match d.notKey? with
  | some k => .error (.notKey k)
  | none => .ok d

/-! ## Entries -/

/-- Why a value makes no mapping: something is of the wrong kind, or an element is no pair. -/
inductive EntriesFault where
  | kind (fault : KindFault)
  | length (position count : Nat)
  deriving DecidableEq

def EntriesFault.message : EntriesFault → Text
  | .kind f => f.message
  | .length n count =>
    "dictionary update sequence element #" ++ toString n ++ " has length " ++ toString count
      ++ "; 2 is required"

/-- Takes an element for a key and its value. -/
def asPair (position : Nat) (d : Datum) : Except EntriesFault (Datum × Datum) :=
  match d.elements? with
  | none => .error (.kind (.notAPair position))
  | some [k, v] => (k.asKey.mapError .kind).map (·, v)
  | some items => .error (.length position items.length)

/-- Sets the pairs that elements from a position on are. -/
def putPairs (entries : List (Datum × Datum)) (position : Nat) :
    List Datum → Except EntriesFault (List (Datum × Datum))
  | [] => .ok entries
  | d :: ds => do
    let (k, v) ← asPair position d
    putPairs (put entries k v) (position + 1) ds

/-- The entries of the mapping that a value makes. -/
def toEntries (d : Datum) : Except EntriesFault (List (Datum × Datum)) :=
  match d.opened with
  | .map entries => .ok entries
  | d =>
    match d.elements with
    | .error f => .error (.kind f)
    | .ok items => putPairs [] 0 items

end Datum

end RuleFit
