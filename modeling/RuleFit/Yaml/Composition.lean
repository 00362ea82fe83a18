import RuleFit.Yaml.Scalar

/-!
# From tokens to nodes

A composition goes through the tokens of a text once and numbers the nodes as it comes to them. It
keeps the handles that the directives of the document give and the nodes that its anchors name. An
anchor is known from the beginning of its node on, so a node can stand inside of itself.

An item, a key or a value can be missing, and is the empty scalar then. Between brackets, a pair is
an item of its own, and a key can stand alone. A sequence that is the value of a key may be indented
no further than the key.
-/

namespace RuleFit.Yaml

/-- The state of a composition: besides the text, the number of collections that are open, handles
by name, nodes by number, and the numbers of nodes by anchor. -/
structure Composition where
  lexer : Lexer
  depth : Nat := 0
  handles : List (String × String) := []
  graph : Graph := #[]
  anchors : List (String × Nat) := []

/-- A step of a composition. -/
abbrev Compose : Type → Type := StateT Composition (Except Fault)

namespace Compose

/-- Ends with a flaw. -/
def refuse {α : Type} (flaw : Flaw) : Compose α := throw (.flaw flaw)

/-- The next token. -/
def peek : Compose Token := do
  let s ← get
  let (t, lexer) ← s.lexer.peek
  set { s with lexer }
  return t

/-- Takes the token that was looked at. -/
def take : Compose Unit := modify fun s => { s with lexer := s.lexer.take }

/-- Whether the next token is this one. -/
def sees (t : Token) : Compose Bool := do return (← peek) == t

/-- Whether the next token is one of these. -/
def seesAny (ts : List Token) : Compose Bool := do return ts.contains (← peek)

/-- Takes the next token, which has to be this one. -/
def expect (t : Token) : Compose Unit := do
  if ← sees t then take else refuse .unexpected

/-! ## Anchors and tags -/

/-- What stands in front of a node: an anchor and a tag, by its handle and the rest. -/
structure Properties where
  anchor : Option String := none
  tag : Option (Option String × String) := none

def Properties.isEmpty (p : Properties) : Bool := p.anchor.isNone && p.tag.isNone

/-- Reads an anchor, if there is one. -/
def anchor : Compose (Option String) := do
  match ← peek with
  | .anchor name => take; return some name
  | _ => return none

/-- Reads a tag, if there is one. -/
def tag : Compose (Option (Option String × String)) := do
  match ← peek with
  | .tag handle name => take; return some (handle, name)
  | _ => return none

/-- Reads an anchor and a tag, in either order. -/
def properties : Compose Properties := do
  match ← anchor with
  | some name => return { anchor := some name, tag := ← tag }
  | none =>
    match ← tag with
    | none => return {}
    | some tag => return { anchor := ← anchor, tag := some tag }

/-- The name of a tag. That of a lone exclamation mark is no name. -/
def tagName (p : Properties) : Compose (Option String) := do
  match p.tag with
  | none => return none
  | some (none, name) => return if name == "!" then none else some name
  | some (some handle, name) =>
    match (← get).handles.lookup handle with
    | some meaning => return if meaning ++ name == "!" then none else some (meaning ++ name)
    | none => refuse .unknownHandle

/-- Adds a node, and gives its number. -/
def add (n : Node) : Compose Nat := do
  let id := (← get).graph.size
  modify fun s => { s with graph := s.graph.push n }
  return id

/-- Adds a node that what it is follows for, with its anchor, if there is one. -/
def enter (anchor : Option String) : Compose Nat := do
  let id ← add .nothing
  match anchor with
  | none => return id
  | some name =>
    if ((← get).anchors.lookup name).isSome then refuse .anchorTwice
    else
      modify fun s => { s with anchors := (name, id) :: s.anchors }
      return id

/-- Says what a node is that was added. -/
def settle (id : Nat) (n : Node) : Compose Nat := do
  modify fun s => { s with graph := s.graph.change id fun _ => n }
  return id

/-- As many collections can be open at a time: each takes about two of the thousand calls that can
be open. -/
def depthLimit : Nat := 490

/-- Reads what is in a collection, unless that goes too deep. -/
def inside {α : Type} (read : Compose α) : Compose α := do
  if (← get).depth ≥ depthLimit then throw (.scalar .endless)
  modify fun s => { s with depth := s.depth + 1 }
  let a ← read
  modify fun s => { s with depth := s.depth - 1 }
  return a

/-- The node that an alias names. -/
def named (name : String) : Compose Nat := do
  match (← get).anchors.lookup name with
  | some id => return id
  | none => refuse .unknownAlias

/-- The tag of a scalar: one that has none takes it from its spelling if it is plain, and a lone
exclamation mark asks for that too. -/
def scalarTag (name : Option String) (asPlain : Bool) (text : Text) : Tag :=
  match name with
  | some name => .ofName name
  | none => if asPlain then .ofPlain text else .text

/-! ## Nodes -/

/-- The tokens that a missing key or value of an indented mapping stands in front of. -/
def behindPair : List Token := [.key, .value, .blockEnd]

mutual

/-- Reads a node. `block` says whether it can be an indented collection, and `loose` whether it can
be a sequence that is indented no further than what it stands in. -/
def node (fuel : Nat) (block loose : Bool) : Compose Nat :=
  match fuel with
  | 0 => refuse .tooDeep
  | fuel + 1 => do
    match ← peek with
    | .alias name => take; named name
    | _ =>
      let p ← properties
      let name ← tagName p
      let collection (default : Tag) : Tag := (name.map Tag.ofName).getD default
      let sequence (items : Compose (List Nat)) : Compose Nat := do
        let id ← enter p.anchor
        settle id (.sequence (collection .sequence) (← inside items))
      let mapping (entries : Compose (List (Nat × Nat))) : Compose Nat := do
        let id ← enter p.anchor
        settle id (.mapping (collection .mapping) (← inside entries))
      let scalar (text : Text) (asPlain : Bool) : Compose Nat := do
        let id ← enter p.anchor
        settle id (.scalar (scalarTag name asPlain text) text)
      match ← peek with
      | .dash =>
        if loose then sequence (looseItems fuel [])
        else if p.isEmpty then refuse .unexpected
        else scalar "" true
      | .scalar text plain => take; scalar text (plain || p.tag.isSome)
      | .bracketOpen => sequence (do take; flowItems fuel true [])
      | .braceOpen => mapping (do take; flowEntries fuel true [])
      | .sequenceStart =>
        if block then sequence (do take; blockItems fuel [])
        else if p.isEmpty then refuse .unexpected
        else scalar "" true
      | .mappingStart =>
        if block then mapping (do take; blockEntries fuel [])
        else if p.isEmpty then refuse .unexpected
        else scalar "" true
      | _ => if p.isEmpty then refuse .unexpected else scalar "" true

/-- Reads a node, or that it is missing where one of some tokens comes. -/
def nodeOr (fuel : Nat) (ends : List Token) (block loose : Bool) : Compose Nat :=
  match fuel with
  | 0 => refuse .tooDeep
  | fuel + 1 => do
    if ← seesAny ends then add .nothing else node fuel block loose

/-- Reads the items of an indented sequence. -/
def blockItems (fuel : Nat) (done : List Nat) : Compose (List Nat) :=
  match fuel with
  | 0 => refuse .tooDeep
  | fuel + 1 => do
    if ← sees .dash then
      take
      let item ← nodeOr fuel [.dash, .blockEnd] true false
      blockItems fuel (item :: done)
    else
      expect .blockEnd
      return done.reverse

/-- Reads the items of a sequence that is indented no further than what it stands in. -/
def looseItems (fuel : Nat) (done : List Nat) : Compose (List Nat) :=
  match fuel with
  | 0 => refuse .tooDeep
  | fuel + 1 => do
    if ← sees .dash then
      take
      let item ← nodeOr fuel (.dash :: behindPair) true false
      looseItems fuel (item :: done)
    else return done.reverse

/-- Reads the entries of an indented mapping. -/
def blockEntries (fuel : Nat) (done : List (Nat × Nat)) : Compose (List (Nat × Nat)) :=
  match fuel with
  | 0 => refuse .tooDeep
  | fuel + 1 => do
    if ← sees .key then
      take
      let key ← nodeOr fuel behindPair true true
      let value ← valueOr fuel behindPair true
      blockEntries fuel ((key, value) :: done)
    else
      expect .blockEnd
      return done.reverse

/-- Reads the value behind a key, where there is one. -/
def valueOr (fuel : Nat) (ends : List Token) (block : Bool) : Compose Nat :=
  match fuel with
  | 0 => refuse .tooDeep
  | fuel + 1 => do
    if ← sees .value then
      take
      nodeOr fuel ends block block
    else add .nothing

/-- Reads the items of a sequence between brackets. -/
def flowItems (fuel : Nat) (first : Bool) (done : List Nat) : Compose (List Nat) :=
  match fuel with
  | 0 => refuse .tooDeep
  | fuel + 1 => do
    if ← sees .bracketClose then take; return done.reverse
    if !first then expect .comma
    if ← sees .key then
      take
      let entry ← inside do
        let key ← nodeOr fuel [.value, .comma, .bracketClose] false false
        return (key, ← valueOr fuel [.comma, .bracketClose] false)
      let pair ← add (.mapping .mapping [entry])
      flowItems fuel false (pair :: done)
    else if ← sees .bracketClose then take; return done.reverse
    else
      let item ← node fuel false false
      flowItems fuel false (item :: done)

/-- Reads the entries of a mapping between brackets. -/
def flowEntries (fuel : Nat) (first : Bool) (done : List (Nat × Nat)) :
    Compose (List (Nat × Nat)) :=
  match fuel with
  | 0 => refuse .tooDeep
  | fuel + 1 => do
    if ← sees .braceClose then take; return done.reverse
    if !first then expect .comma
    if ← sees .key then
      take
      let key ← nodeOr fuel [.value, .comma, .braceClose] false false
      let value ← valueOr fuel [.comma, .braceClose] false
      flowEntries fuel false ((key, value) :: done)
    else if ← sees .braceClose then take; return done.reverse
    else
      let key ← node fuel false false
      flowEntries fuel false ((key, ← add .nothing) :: done)

end

/-! ## Documents -/

/-- What handles stand for where no directive says so. -/
def defaultHandles : List (String × String) := [("!", "!"), ("!!", Tag.home)]

/-- Reads the directives in front of a document; `version` says whether one for the version has
come, and `handles` holds those read so far. -/
def directives (fuel : Nat) (version : Bool) (handles : List (String × String)) :
    Compose (List (String × String)) :=
  match fuel with
  | 0 => refuse .tooDeep
  | fuel + 1 => do
    match ← peek with
    | .directive (.version major) =>
      take
      if version || major ≠ 1 then refuse .badDirective else directives fuel true handles
    | .directive (.handle name meaning) =>
      take
      if (handles.lookup name).isSome then refuse .badDirective
      else directives fuel version ((name, meaning) :: handles)
    | .directive .other => take; directives fuel version handles
    | _ => return handles

/-- Skips the marks behind a document. -/
def skipEnds (fuel : Nat) : Compose Unit :=
  match fuel with
  | 0 => refuse .tooDeep
  | fuel + 1 => do
    if ← sees .documentEnd then take; skipEnds fuel

/-- Whether a token is a directive, a mark between documents or the end of the text. -/
def endsDocument : Token → Bool
  | .directive _ | .documentStart | .documentEnd | .textEnd => true
  | _ => false

/-- Reads the mark that starts a document, with the directives in front of it. -/
def documentStart (fuel : Nat) : Compose Unit := do
  let handles ← directives fuel false []
  modify fun s => { s with handles := handles ++ defaultHandles }
  expect .documentStart

/-- Reads the first document of a text, if there is one. -/
def firstDocument (fuel : Nat) : Compose (Option Nat) := do
  match ← peek with
  | .textEnd => return none
  | .directive _ | .documentStart =>
    documentStart fuel
    if endsDocument (← peek) then return some (← add .nothing)
    else return some (← node fuel true false)
  | _ =>
    modify fun s => { s with handles := defaultHandles }
    return some (← node fuel true false)

/-- Reads the only document of a text, if there is one. -/
def onlyDocument (fuel : Nat) : Compose (Option Nat) := do
  match ← firstDocument fuel with
  | none => return none
  | some n =>
    skipEnds fuel
    if ← sees .textEnd then return some n
    documentStart fuel
    refuse .severalDocuments

end Compose

/-- The graph of a text that breaks off at a fault, or not, and the number of its root; none where
there is no document. -/
def compose (text : List Char) (fault : Option Fault) : Except Fault (Option (Graph × Nat)) := do
  let start : Composition := { lexer := .start text fault }
  let (root, s) ← (Compose.onlyDocument (16 * text.length + 64)).run start
  return root.map (s.graph, ·)

end RuleFit.Yaml
