import TaggedGrammar.Yaml.Merge
import TaggedGrammar.Yaml.Scalar

/-!
# From nodes to objects

A scalar is made at once. A collection begins empty and is filled later, one level of the text after the
other, so that of several faults the one nearest to the top is met first. The parts of a key are filled at
once, since a key has to be complete. Inside a node that is being made the node itself is null.

The keys of a mapping differ from each other, unless entries of other mappings are merged into it; then the
later value of a key wins.
-/

namespace TaggedGrammar.Yaml

namespace Making

/-- The greatest number of collections around one that is filled at once. -/
def keyNestingLimit : Nat := 197

/-- The text that a node stands for: its own, or that of the content key of a mapping. -/
def scalarText (g : Graph) : (depth : Nat) → NodeId → Reading Text
  | 0, _ => .error (.unusable .nestedTooDeeply)
  | depth + 1, n =>
    match (g.node n).content with
    | .scalar t => .ok t
    | .sequence _ => .error .malformed
    | .mapping entries =>
      match entries.find? (g.isContent ·) with
      | some e => scalarText g depth e.2
      | none => .error .malformed

/-- Makes a scalar. A day or an instant has no content key. -/
def makeScalar (n : NodeId) (node : Node) : Making ObjectId := do
  let m ← get
  let text ← ofReading (match node.tag, node.content with
    | .instant, .scalar t => .ok t
    | .instant, _ => .error .malformed
    | _, _ => scalarText m.graph mergeLimit n)
  let value ← ofReading (scalarValue m.version node.tag text)
  if node.tag = .decimal ∧ isNoNumberWord text then return Memory.noNumber
  newObject (.scalar value)

/-- An object as the key of a mapping. A list becomes a tuple; other collections are no keys. -/
def keyOf (o : ObjectId) : Making ObjectId := do
  match (← objects).object o with
  | .list items => newObject (.tuple items)
  | .map _ | .ordered _ | .set _ => malformed
  | .scalar _ | .tuple _ => return o

/-- The key of an entry occurs again: the text is malformed. A key or value that the message on it cannot
display is a fault of its own. -/
def repeated (key value old : ObjectId) : Making Unit := do
  if (← objects).areDisplayable [key, value, old] then malformed else unusable .tooManyDigits

/-- Makes entries one after the other and puts them to those so far; `unique` asks for different keys. -/
def makeEntries (make : (atOnce : Bool) → NodeId → Making ObjectId) (unique : Bool) :
    List NodeEntry → (sofar : List ObjectEntry) → Making (List ObjectEntry)
  | [], sofar => return sofar
  | (k, v) :: rest, sofar => do
    let key ← keyOf (← make true k)
    let value ← make false v
    let s ← objects
    if !s.canBeKey key then unusable .unusableKey
    if let some old := s.lookup key sofar then
      if unique then repeated key value old
    makeEntries make unique rest (s.put sofar (key, value))

/-- Makes the entries of a mapping. -/
def makeMapping (make : (atOnce : Bool) → NodeId → Making ObjectId) (n : NodeId) :
    Making (List ObjectEntry) := do
  let _ ← entries n
  merge mergeLimit n
  let own ← entries n
  match (← node n).merged with
  | none => makeEntries make true own []
  | some brought =>
    let earlier ← makeEntries make false brought []
    let later ← makeEntries make false own []
    let s ← objects
    return later.foldl s.put earlier

/-- The only entry of a mapping. -/
def onlyEntry (n : NodeId) : Making NodeEntry := do
  match ← entries n with
  | [e] => return e
  | _ => malformed

/-- Adds the pairs of a sequence of mappings to a list. -/
def fillPairs (make : (atOnce : Bool) → NodeId → Making ObjectId) (o : ObjectId) :
    List NodeId → Making Unit
  | [] => return ()
  | n :: rest => do
    let (k, v) ← onlyEntry n
    let key ← make false k
    let value ← make false v
    let pair ← newObject (.tuple [key, value])
    setObject o (.list (((← objects).object o).parts ++ [pair]))
    fillPairs make o rest

/-- Adds the entries of a sequence of mappings to an ordered mapping. Their keys differ. -/
def fillOrdered (make : (atOnce : Bool) → NodeId → Making ObjectId) (o : ObjectId)
    (sofar : List ObjectEntry) : List NodeId → Making Unit
  | [] => return ()
  | n :: rest => do
    let (k, v) ← onlyEntry n
    let key ← make false k
    let s ← objects
    if !s.canBeKey key then unusable .unusableKey
    if (s.lookup key sofar).isSome then unusable .repeatedKey
    let value ← make false v
    let sofar := (← objects).put sofar (key, value)
    setObject o (.ordered sofar)
    fillOrdered make o sofar rest

/-- A collection without content, by the tag of its node. -/
def emptyCollection? : Tag → Option Object
  | .sequence | .pairs => some (.list [])
  | .mapping => some (.map [])
  | .orderedMapping => some (.ordered [])
  | .set => some (.set [])
  | _ => none

/-- Fills a collection. -/
def fill (make : (atOnce : Bool) → NodeId → Making ObjectId) (t : Task) : Making Unit := do
  match (← node t.node).tag with
  | .sequence => setObject t.object (.list (← (← items t.node).mapM (make false)))
  | .pairs => fillPairs make t.object (← items t.node)
  | .orderedMapping => fillOrdered make t.object [] (← items t.node)
  | .set => setObject t.object (.set ((← makeMapping make t.node).map (·.1)))
  | _ => setObject t.object (.map (← makeMapping make t.node))

/-- Makes a node that has not been made; `make` makes what is inside it. -/
def makeNew (make : (atOnce : Bool) → NodeId → Making ObjectId) (n : NodeId) (node : Node) :
    Making ObjectId := do
  match emptyCollection? node.tag with
  | none => makeScalar n node
  | some x =>
    let o ← newObject x
    if (← get).atOnce then fill make ⟨n, o⟩
    else modify fun m => { m with tasks := m.tasks ++ [⟨n, o⟩] }
    return o

/-- Makes a node, with `atOnce` all of it. A node is made only once. -/
def makeWith (make : (atOnce : Bool) → NodeId → Making ObjectId) (atOnce : Bool) (n : NodeId) :
    Making ObjectId := do
  let this ← node n
  if let some o := this.object then return o
  let before := (← get).atOnce
  if atOnce then modify fun m => { m with atOnce := true }
  if this.isOpen then return ← newObject (.scalar .null)
  changeNode n fun node => { node with isOpen := true }
  let o ← makeNew make n this
  changeNode n fun node => { node with object := some o, isOpen := false }
  if atOnce then modify fun m => { m with atOnce := before }
  return o

/-- Makes a node over at most `depth` collections inside each other. -/
def make : (depth : Nat) → (atOnce : Bool) → NodeId → Making ObjectId
  | 0 => fun _ _ => unusable .nestedTooDeeply
  | depth + 1 => makeWith (make depth)

/-- Fills collections in order. -/
def fillAll : List Task → Making Unit
  | [] => return ()
  | t :: rest => do
    fill (make keyNestingLimit) t
    fillAll rest

/-- Fills the collections that wait, and those that come up on the way, round by round. -/
def finish : (rounds : Nat) → Making Unit
  | 0 => return ()
  | rounds + 1 => do
    match (← get).tasks with
    | [] => return ()
    | tasks =>
      modify fun m => { m with tasks := [] }
      fillAll tasks
      finish rounds

/-- Makes the node of a whole document with all that waits. There are no more rounds than nodes. -/
def makeDocument (root : NodeId) : Making ObjectId := do
  let o ← make keyNestingLimit false root
  let m ← get
  finish (m.graph.size + m.tasks.length + 1)
  return o

end Making

end TaggedGrammar.Yaml
