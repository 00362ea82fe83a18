import RuleFit.Datum.Members
import RuleFit.Yaml.Composition

/-!
# Values of YAML nodes

A construction gives every node of a document one value, however often the node is referred to. A
scalar has its value at once. A collection is only noted down, and filled in after everything that
was noted down before it, so the first fault that shows is the one that lies highest, of several at
one height the first.

A mapping can take over the entries of others by its merge keys; its own entries have precedence,
and of a list of mappings the earlier ones. Taking over changes the mapping for good, and a mapping
may even take over itself. A collection cannot be a key.

In the end, collections are settled from the innermost ones outward, each a single time. Those that
hold themselves, or something that does, are never settled that way: they are the cells of one knot.
-/

namespace RuleFit.Yaml

/-! ## Merged entries -/

namespace Graph

/-- The entries of a node, which has some if it is a mapping. -/
def entries (g : Graph) (id : Nat) : List (Nat × Nat) := ((g.node id).entries?).getD []

/-- How many entries and items there are. -/
def extent (g : Graph) : Nat :=
  g.foldl (fun n node =>
    match node with
    | .scalar .. => n
    | .sequence _ items => n + items.length
    | .mapping _ entries => n + entries.length) 0

/-- Whether a key is a sign: one for a merge, or one for a value. -/
def isSign (g : Graph) (key : Nat) : Bool := g.tag key == .merge || g.tag key == .value

/-- Replaces the merge keys of a mapping, from an entry on, by the entries that they bring, which
`merged` holds so far. The sign for a value is a text as a key. -/
def flattenFrom (fuel : Nat) (g : Graph) (id index : Nat) (merged : List (Nat × Nat)) :
    Except Fault Graph :=
  match fuel with
  | 0 => throw (.flaw .tooDeep)
  | fuel + 1 => do
    let entries := g.entries id
    let index := index + (entries.drop index).findIdx fun e => g.isSign e.1
    match entries[index]? with
    | none => return if merged.isEmpty then g else g.change id (.withEntries (merged ++ entries))
    | some (key, value) =>
      if g.tag key = .value then flattenFrom fuel (g.change key (.withTag .text)) id index merged
      else
        let g := g.change id (.withEntries (entries.eraseIdx index))
        match g.node value with
        | .scalar .. => throw (.flaw .badMerge)
        | .mapping .. =>
          let g ← flattenFrom fuel g value 0 []
          flattenFrom fuel g id index (merged ++ g.entries value)
        | .sequence _ items =>
          let (g, brought) ← items.foldlM (fun (g, brought) item => do
            match g.node item with
            | .mapping .. =>
              let g ← flattenFrom fuel g item 0 []
              return (g, g.entries item ++ brought)
            | _ => throw (.flaw .badMerge)) (g, [])
          flattenFrom fuel g id index (merged ++ brought)

/-! ## Scalars -/

/-- The text of a node that should be a scalar. A mapping with a value sign for a key has the text
under that key. Who never comes to a text goes round in circles. -/
def scalarText (g : Graph) (fuel id : Nat) : Except Fault Text :=
  match fuel with
  | 0 => throw (.scalar .endless)
  | fuel + 1 =>
    match g.node id with
    | .scalar _ text => return text
    | .sequence .. => throw (.flaw .wrongShape)
    | .mapping _ entries =>
      match entries.find? fun e => g.tag e.1 == .value with
      | some e => scalarText g fuel e.2
      | none => throw (.flaw .wrongShape)

/-- The value of a node that is not made of other nodes. Its not-a-number is its own. -/
def scalar (g : Graph) (id : Nat) : Except Fault Datum := do
  let n := g.node id
  match n.tag, n with
  | .merge, _ | .value, _ | .unknown, _ => throw (.flaw .unknownTag)
  | .moment, .mapping .. =>
    let _ ← g.scalarText (g.size + 1) id
    throw (.scalar .momentOfMapping)
  | tag, _ => scalarValue (id + 1) tag (← g.scalarText (g.size + 1) id)

end Graph

/-! ## Constructions -/

/-- A part of a collection: a value, or a collection by its number. -/
inductive Part where
  | value (d : Datum)
  | collection (id : Nat)
  deriving Inhabited

/-- A collection as it is filled in. -/
inductive Filling where
  | list (items : List Part)
  | tuple (items : List Part)
  | set (members : List Datum)
  | map (entries : List (Datum × Part))
  deriving Inhabited

/-- The parts of a collection. -/
def Filling.parts : Filling → List Part
  | .list items | .tuple items => items
  | .set _ => []
  | .map entries => entries.map Prod.snd

/-- The state of a construction: the graph, a bound on its entries and items, the values of the
nodes come to so far, the collections by number, and those noted down last, the last one first. The
collections of nodes have the numbers of the nodes, and pairs have numbers of their own. -/
structure Construction where
  graph : Graph
  extent : Nat
  parts : Array (Option Part)
  fillings : Array Filling
  noted : List Nat

/-- A step of a construction. -/
abbrev Construct : Type → Type := StateT Construction (Except Fault)

namespace Construct

/-- The value of a node as a part. A collection is noted down when it comes for the first time. -/
def part (id : Nat) : Construct Part := do
  let s ← get
  match s.parts[id]?.join with
  | some p => return p
  | none =>
    let isCollection := (s.graph.tag id).isCollection
    let p ← if isCollection then pure (.collection id) else Part.value <$> s.graph.scalar id
    modify fun s => { s with
      parts := s.parts.setIfInBounds id (some p)
      noted := if isCollection then id :: s.noted else s.noted }
    return p

/-- The value of a node as a key. -/
def key (id : Nat) : Construct Datum := do
  match ← part id with
  | .value d => return d
  | .collection _ => throw (.flaw .notKey)

/-- A mapping of a single entry as a pair. -/
def pair (id : Nat) : Construct Part := do
  match (← get).graph.node id with
  | .mapping _ [(key, value)] =>
    let key ← part key
    let value ← part value
    let number := (← get).fillings.size
    modify fun s => { s with fillings := s.fillings.push (.tuple [key, value]) }
    return .collection number
  | _ => throw (.flaw .wrongShape)

/-- The entries of a mapping, with those that it takes over. Of like keys the first stays and the
last value counts. -/
def entries (id : Nat) : Construct (List (Datum × Part)) := do
  let s ← get
  let graph ← s.graph.flattenFrom (s.extent + 2) id 0 []
  set { s with graph }
  (graph.entries id).foldlM (fun done e => do
    let k ← key e.1
    let v ← part e.2
    return Datum.put done k v) []

/-- Fills in the collection of a node. -/
def fill (id : Nat) : Construct Unit := do
  let n := (← get).graph.node id
  let filling ← match n.tag, n with
    | .sequence, .sequence _ items => Filling.list <$> items.mapM part
    | .orderedMap, .sequence _ items | .pairs, .sequence _ items =>
      Filling.list <$> items.mapM pair
    | .mapping, .mapping .. => Filling.map <$> entries id
    | .set, .mapping .. => (Filling.set <| ·.map Prod.fst) <$> entries id
    | _, _ => throw (.flaw .wrongShape)
  modify fun s => { s with fillings := s.fillings.setIfInBounds id filling }

/-- Fills in the collections that are noted down, and those noted down meanwhile. -/
def fillAll (rounds : Nat) : Construct Unit :=
  match rounds with
  | 0 => throw (.flaw .tooDeep)
  | rounds + 1 => do
    let noted := (← get).noted
    unless noted.isEmpty do
      modify fun s => { s with noted := [] }
      noted.reverse.forM fill
      fillAll rounds

end Construct

/-! ## Settled values -/

/-- The values of the collections that are settled, and the collections that were looked at. -/
structure Settlement where
  values : Array (Option Datum)
  seen : Array Bool

namespace Settlement

/-- The value of a collection, if it is settled. -/
def value? (s : Settlement) (id : Nat) : Option Datum := s.values[id]?.join

/-- The value of a part, with something else for a collection that is not settled. -/
def part (s : Settlement) (unsettled : Nat → Datum) : Part → Datum
  | .value d => d
  | .collection id => (s.value? id).getD (unsettled id)

/-- The value of a collection, with something else for what is in it and not settled. -/
def collection (s : Settlement) (unsettled : Nat → Datum) : Filling → Datum
  | .list items => .list (items.map (s.part unsettled))
  | .tuple items => .tuple (items.map (s.part unsettled))
  | .set members => .ofMembers members
  | .map entries => .map (entries.map fun e => (e.1, s.part unsettled e.2))

/-- Settles a collection, after the collections in it. It stays as it is where one of these does,
and one of these does if it is the collection itself or lies around it. -/
def visit (fillings : Array Filling) (fuel : Nat) (s : Settlement) (id : Nat) : Settlement :=
  match fuel with
  | 0 => s
  | fuel + 1 =>
    if s.seen.getD id true then s
    else
      let filling := fillings.getD id default
      let inside := filling.parts.filterMap fun
        | .value _ => none
        | .collection id => some id
      let s := inside.foldl (visit fillings fuel) { s with seen := s.seen.setIfInBounds id true }
      if inside.all fun id => (s.value? id).isSome then
        { s with
          values := s.values.setIfInBounds id (some (s.collection (fun _ => .null) filling)) }
      else s

/-- Settles all collections that can be settled. -/
def ofFillings (fillings : Array Filling) : Settlement :=
  let n := fillings.size
  (List.range n).foldl (visit fillings (n + 1)) ⟨.replicate n none, .replicate n false⟩

end Settlement

/-- The value of a part of filled collections. -/
def Part.datum (p : Part) (fillings : Array Filling) : Datum :=
  let s := Settlement.ofFillings fillings
  let cells := (List.range fillings.size).filter fun id => (s.value? id).isNone
  let knot (id : Nat) : Datum :=
    .knot (cells.idxOf id) (cells.map fun id =>
      s.collection (fun id => .cell (cells.idxOf id)) (fillings.getD id default))
  s.part knot p

/-- The value of a node. -/
def Graph.value (g : Graph) (root : Nat) : Except Fault Datum := do
  let start : Construction :=
    { graph := g
      extent := g.extent
      parts := .replicate g.size none
      fillings := .replicate g.size (.list [])
      noted := [] }
  let steps : Construct Part := do
    let p ← Construct.part root
    Construct.fillAll (g.size + 1)
    return p
  let (p, s) ← steps.run start
  return p.datum s.fillings

/-- The value of a text that breaks off at a fault, or not. A text without a document is null. -/
def load (text : List Char) (fault : Option Fault) : Except Fault Datum := do
  match fault, text with
  | some f, [] => throw f
  | _, _ =>
    match ← compose text fault with
    | none => return .null
    | some (g, root) => g.value root

end RuleFit.Yaml
