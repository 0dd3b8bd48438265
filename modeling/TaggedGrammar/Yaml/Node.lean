import TaggedGrammar.Yaml.Token

/-!
# Nodes

A text stands for a graph of nodes. Each node has a number. A node that is given a name by an anchor can be
referred to again, also from inside itself; a reference is just the number of the node once more.
-/

namespace TaggedGrammar.Yaml

/-- What a node stands for. -/
inductive Tag where
  | null
  | truth
  | integer
  | decimal
  | text
  | instant
  | binary
  | sequence
  | pairs
  | mapping
  | orderedMapping
  | set
  /-- The key that brings in the entries of other mappings. -/
  | merge
  /-- The key whose value stands for the whole mapping. -/
  | content
  /-- A tag without meaning here. -/
  | unknown
  deriving DecidableEq, Repr

namespace Tag

/-- What the tags of the standard vocabulary begin with. -/
def standardStart : String := "tag:yaml.org,2002:"

/-- The names of the standard vocabulary. -/
def names : List (String × Tag) :=
  [("null", null), ("bool", truth), ("int", integer), ("float", decimal), ("str", text),
   ("timestamp", instant), ("binary", binary), ("seq", sequence), ("pairs", pairs), ("map", mapping),
   ("omap", orderedMapping), ("set", set), ("merge", merge), ("value", content)]

/-- The meaning of a written-out tag. -/
def ofText (s : String) : Tag :=
  ((names.find? fun e => standardStart ++ e.1 = s).map (·.2)).getD unknown

end Tag

/-- How a node says what it stands for. -/
inductive Label where
  /-- Nothing is said. -/
  | absent
  /-- The tag `!`, which asks for the usual meaning even of a quoted text. -/
  | usual
  | given (tag : Tag)

/-- The number of a node. -/
abbrev NodeId := Nat

/-- The number of an object that is made of a node. -/
abbrev ObjectId := Nat

/-- A key and its value. -/
abbrev NodeEntry := NodeId × NodeId

/-- What is written at a node. -/
inductive Content where
  | scalar (text : Text)
  | sequence (items : List NodeId)
  | mapping (entries : List NodeEntry)

/-- A node of a text. -/
structure Node where
  tag : Tag
  content : Content
  /-- The entries that were merged into a mapping, if there were any. -/
  merged : Option (List NodeEntry) := none
  /-- What the node has been made to. -/
  object : Option ObjectId := none
  /-- Whether the node is being made. -/
  isOpen : Bool := false

instance : Inhabited Node := ⟨⟨.null, .scalar [], none, none, false⟩⟩

/-- The nodes of a text, by their numbers. -/
abbrev Graph := Array Node

namespace Graph

/-- The node with a number. -/
def node (g : Graph) (n : NodeId) : Node :=
  g.getD n default

/-- The graph with a node changed. -/
def change (g : Graph) (n : NodeId) (f : Node → Node) : Graph :=
  g.modify n f

/-- The graph with an item at the end of a sequence. -/
def addItem (g : Graph) (n item : NodeId) : Graph :=
  g.change n fun node => match node.content with
    | .sequence items => { node with content := .sequence (items ++ [item]) }
    | _ => node

/-- The graph with an entry at the end of a mapping. -/
def addEntry (g : Graph) (n : NodeId) (e : NodeEntry) : Graph :=
  g.change n fun node => match node.content with
    | .mapping entries => { node with content := .mapping (entries ++ [e]) }
    | _ => node

/-- Whether an entry brings in the entries of other mappings. -/
def isMerge (g : Graph) (e : NodeEntry) : Bool :=
  (g.node e.1).tag = .merge

/-- Whether the value of an entry stands for the whole mapping. -/
def isContent (g : Graph) (e : NodeEntry) : Bool :=
  (g.node e.1).tag = .content

end Graph

end TaggedGrammar.Yaml
