import TaggedGrammar.Yaml.Object

/-!
# The memory of a reader

What a reader of table texts keeps from one text to the next. A text that is read to its end leaves only the
version whose rules apply. One that fails leaves what it had begun: names with their nodes, and collections
that are not filled yet. They are filled when the next text is read.
-/

namespace TaggedGrammar.Yaml

/-- A collection that is yet to be filled from its node. The tag of the node says what it is. -/
structure Task where
  node : NodeId
  object : ObjectId

/-- What a reader keeps. -/
structure Memory where
  version : Version
  /-- The names that are known, the last one first. -/
  names : List (String × NodeId)
  graph : Graph
  objects : Objects
  /-- The collections to fill, in order. -/
  tasks : List Task
  /-- Whether collections are filled at once. -/
  atOnce : Bool

namespace Memory

/-- The object that all words for no number stand for. -/
def noNumber : ObjectId := 0

/-- A memory with nothing in it but a version. -/
def ofVersion (v : Version) : Memory :=
  ⟨v, [], #[], #[.scalar ⟨.float .nan, rfl⟩], [], false⟩

/-- The memory of a reader that has not read anything. -/
def fresh : Memory :=
  ofVersion .standard

end Memory

/-- A part of the making of objects. What it changes in the memory stays when it fails. -/
abbrev Making := ExceptT Trouble (StateM Memory)

namespace Making

/-- Trouble. -/
def fail {α : Type} (t : Trouble) : Making α :=
  throw t

/-- The text breaks a rule of the language. -/
def malformed {α : Type} : Making α :=
  fail .malformed

/-- The text is in order, and a value in it cannot be made. -/
def unusable {α : Type} (d : Defect) : Making α :=
  fail (.unusable d)

/-- What was read of a part of the text. -/
def ofReading {α : Type} : Reading α → Making α
  | .ok a => pure a
  | .error t => fail t

/-- The node with a number. -/
def node (n : NodeId) : Making Node := do
  return (← get).graph.node n

/-- Changes a node. -/
def changeNode (n : NodeId) (f : Node → Node) : Making Unit :=
  modify fun m => { m with graph := m.graph.change n f }

/-- The entries of a mapping. -/
def entries (n : NodeId) : Making (List NodeEntry) := do
  match (← node n).content with
  | .mapping entries => return entries
  | _ => malformed

/-- The items of a sequence. -/
def items (n : NodeId) : Making (List NodeId) := do
  match (← node n).content with
  | .sequence items => return items
  | _ => malformed

/-- The number of a new object. -/
def newObject (x : Object) : Making ObjectId := do
  let o := (← get).objects.size
  modify fun m => { m with objects := m.objects.push x }
  return o

/-- Changes what an object is. -/
def setObject (o : ObjectId) (x : Object) : Making Unit :=
  modify fun m => { m with objects := m.objects.setIfInBounds o x }

/-- The objects made so far. -/
def objects : Making Objects := do
  return (← get).objects

end Making

end TaggedGrammar.Yaml
