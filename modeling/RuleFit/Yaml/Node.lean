import RuleFit.Yaml.Token

/-!
# YAML nodes

A node is a scalar, a sequence or a mapping, and its tag says what it stands for. Where a document
gives no tag, a scalar without quotes takes the one that its spelling asks for, and every other node
the one of its shape. An alias is the node that it names, and may stand inside of it, so the nodes
of a document make up a graph, in which they refer to each other by number.
-/

namespace RuleFit.Yaml

/-- What a node stands for. -/
inductive Tag where
  | null
  | truth
  | whole
  | number
  | moment
  | bytes
  | text
  | merge
  | value
  | sequence
  | mapping
  | set
  | orderedMap
  | pairs
  | unknown
  deriving DecidableEq

namespace Tag

/-- What the names of tags start with that every document knows. -/
def home : String := "tag:yaml.org,2002:"

/-- The tag of a name. -/
def ofName (name : String) : Tag :=
  let known := [("null", Tag.null), ("bool", .truth), ("int", .whole), ("float", .number),
    ("timestamp", .moment), ("binary", .bytes), ("str", .text), ("merge", .merge),
    ("value", .value), ("seq", .sequence), ("map", .mapping), ("set", .set),
    ("omap", .orderedMap), ("pairs", .pairs)]
  ((known.map fun e => (home ++ e.1, e.2)).lookup name).getD .unknown

/-- Whether the values of a tag are made of other values. -/
def isCollection : Tag → Bool
  | .sequence | .mapping | .set | .orderedMap | .pairs => true
  | _ => false

end Tag

/-- A node, with the numbers of the nodes in it. -/
inductive Node where
  | scalar (tag : Tag) (text : Text)
  | sequence (tag : Tag) (items : List Nat)
  | mapping (tag : Tag) (entries : List (Nat × Nat))

namespace Node

/-- The node of no text. -/
def nothing : Node := .scalar .null .empty

instance : Inhabited Node := ⟨nothing⟩

def tag : Node → Tag
  | .scalar tag _ | .sequence tag _ | .mapping tag _ => tag

/-- The node with another tag. -/
def withTag (tag : Tag) : Node → Node
  | .scalar _ text => .scalar tag text
  | .sequence _ items => .sequence tag items
  | .mapping _ entries => .mapping tag entries

/-- The entries of a mapping. -/
def entries? : Node → Option (List (Nat × Nat))
  | .mapping _ entries => some entries
  | _ => none

/-- A mapping with other entries. -/
def withEntries (entries : List (Nat × Nat)) : Node → Node
  | .mapping tag _ => .mapping tag entries
  | n => n

end Node

/-- Nodes by their numbers. -/
abbrev Graph := Array Node

namespace Graph

/-- The node of a number. -/
def node (g : Graph) (id : Nat) : Node := g.getD id .nothing

def tag (g : Graph) (id : Nat) : Tag := (g.node id).tag

/-- Changes a node. -/
def change (g : Graph) (id : Nat) (f : Node → Node) : Graph := g.modify id f

end Graph

end RuleFit.Yaml
