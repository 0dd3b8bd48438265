import TaggedGrammar.Decimal.Reading
import TaggedGrammar.Yaml.Form

/-!
# From tokens to nodes

The grammar of the language over its tokens. A text holds at most one document. A node is added to the graph
when it begins, and it gets its name then; what is inside it is added to it piece by piece.
-/

namespace TaggedGrammar.Yaml

/-- How far the reading of tokens has come. It is kept when the reading fails. -/
structure Progress where
  tokens : List Token
  /-- What is wrong with the text behind the tokens, if anything. -/
  trouble : Option Trouble
  version : Version
  /-- The handles of tags with what they stand for. -/
  handles : List (String × String)
  /-- The names given so far with their nodes, the last one first. -/
  names : List (String × NodeId)
  graph : Graph

/-- A part of the grammar. -/
abbrev Rule := ExceptT Trouble (StateM Progress)

/-- The greatest number of nodes around a node. -/
def nestingLimit : Nat := 490

/-- The text of a tag with its percent signs read once more: two characters behind one are a code. -/
def decodedSuffix : List Char → Except Defect (List Char)
  | [] => .ok []
  | c :: rest =>
    if c ≠ '%' then (decodedSuffix rest).map (c :: ·)
    else match rest with
      | a :: b :: rest => codeAnd [a, b] (decodedSuffix rest)
      | digits => codeAnd digits (.ok [])
where
  codeAnd (digits : List Char) (rest : Except Defect (List Char)) : Except Defect (List Char) :=
    match readInt 16 digits with
    | .number n =>
      if n < 0 then .error (.badScalar "chr() arg not in range(0x110000)")
      else rest.map (Char.ofNat n.toNat :: ·)
    | _ =>
      .error (.badScalar ("invalid literal for int() with base 16: " ++
        Text.quoted (Text.ofChars digits)))

/-- What is in front of a node: its name and its label. -/
structure Properties where
  name : Option String
  label : Label

namespace Properties

/-- Nothing is in front of a node. -/
def absent : Properties :=
  ⟨none, .absent⟩

/-- Whether nothing is in front of a node. -/
def isAbsent (p : Properties) : Bool :=
  p.name.isNone && p.label matches .absent

end Properties

namespace Rule

/-- The tokens stop here: either they break the grammar, or the text behind them is wrong. -/
def stop {α : Type} : Rule α := do
  let s ← get
  match s.tokens, s.trouble with
  | [], some t => throw t
  | _, _ => throw .malformed

/-- The next token; `none` at the end. -/
def look : Rule (Option Token) := do
  let s ← get
  match s.tokens, s.trouble with
  | t :: _, _ => return some t
  | [], some t => throw t
  | [], none => return none

/-- Moves over a token. -/
def pass : Rule Unit :=
  modify fun s => { s with tokens := s.tokens.tail }

/-- Whether the next token is one of a class. -/
def isNext (p : Token → Bool) : Rule Bool := do
  return ((← look).map p).getD false

/-- The handles that need no declaration. -/
def usualHandles : List (String × String) :=
  [("!", "!"), ("!!", Tag.standardStart)]

/-- What a tag says of its node. -/
def labelOf (handle : Option String) (suffix : String) : Rule Label := do
  let s ← get
  let start ← (match handle with
    | none => pure ""
    | some h => match s.handles.lookup h with
      | some start => pure start
      | none => stop : Rule String)
  match decodedSuffix suffix.toList with
  | .error d => throw (.unusable d)
  | .ok cs =>
    let text := start ++ String.ofList cs
    return if text = "!" then .usual else .given (Tag.ofText text)

/-- The anchor and the tag in front of a node, in either order. -/
def properties : Rule Properties := do
  match ← look with
  | some (.anchor name) =>
    pass
    match ← look with
    | some (.tag h t) =>
      pass
      return ⟨some name, ← labelOf h t⟩
    | _ => return ⟨some name, .absent⟩
  | some (.tag h t) =>
    pass
    match ← look with
    | some (.anchor name) =>
      pass
      return ⟨some name, ← labelOf h t⟩
    | _ => return ⟨none, ← labelOf h t⟩
  | _ => return .absent

/-- Adds a node to the graph, and gives it its name. -/
def add (name : Option String) (tag : Tag) (content : Content) : Rule NodeId := do
  let n := (← get).graph.size
  modify fun s => { s with
    graph := s.graph.push { tag, content }
    names := name.toList.map (·, n) ++ s.names }
  return n

/-- A node that is a text. -/
def addScalar (p : Properties) (t : Text) (plain : Bool) : Rule NodeId := do
  add p.name (p.label.tagOfScalar (← get).version plain t) (.scalar t)

/-- A node that is a sequence without items yet. -/
def addSequence (p : Properties) : Rule NodeId :=
  add p.name (p.label.tagOr .sequence) (.sequence [])

/-- A node that is a mapping without entries yet. -/
def addMapping (p : Properties) : Rule NodeId :=
  add p.name (p.label.tagOr .mapping) (.mapping [])

/-- Puts an item at the end of a sequence. -/
def putItem (n item : NodeId) : Rule Unit :=
  modify fun s => { s with graph := s.graph.addItem n item }

/-- Puts an entry at the end of a mapping. -/
def putEntry (n key value : NodeId) : Rule Unit :=
  modify fun s => { s with graph := s.graph.addEntry n (key, value) }

/-- An absent node, with what is in front of it. -/
def absentNode (p : Properties) : Rule NodeId :=
  addScalar p [] true

/-- An absent node, if there is something in front of it. -/
def absentOrStop (p : Properties) : Rule NodeId :=
  if p.isAbsent then stop else absentNode p

/-- A token after which an item of a sequence of a block is absent. -/
def endsItem : Token → Bool
  | .dash | .blockEnd => true
  | _ => false

/-- A token after which a key or a value of a block is absent. -/
def endsEntry : Token → Bool
  | .key | .value | .blockEnd => true
  | _ => false

/-- A token after which an item of an unindented sequence is absent. -/
def endsUnindented : Token → Bool
  | .dash | .key | .value | .blockEnd => true
  | _ => false

/-- A token that closes a bracket. -/
def closes (b : Bracket) : Token → Bool
  | .closing b' => b = b'
  | _ => false

/-- A token after which a value of a flow is absent. -/
def endsFlowValue (b : Bracket) (t : Token) : Bool :=
  closes b t || (match t with
    | .comma => true
    | _ => false)

/-- A token after which a key of a flow is absent. -/
def endsFlowKey (b : Bracket) (t : Token) : Bool :=
  endsFlowValue b t || (match t with
    | .value => true
    | _ => false)

/-- The token in front of a value. -/
def isValue : Token → Bool
  | .value => true
  | _ => false

/-- Where a node stands, which says what blocks may begin there. -/
inductive Place where
  /-- Inside brackets. -/
  | flow
  /-- An item of a block, or the top of a document. -/
  | block
  /-- A key or value of a block, where a sequence need not be indented. -/
  | entry

mutual

/-- A node with `depth` nodes around it. -/
def node (place : Place) (depth : Nat) : (fuel : Nat) → Rule NodeId
  | 0 => stop
  | fuel + 1 => do
    if nestingLimit < depth then throw (.unusable .nestedTooDeeply)
    match ← look with
    | some (.reference name) =>
      pass
      match (← get).names.lookup name with
      | some n => return n
      | none => throw .malformed
    | _ => content place depth (← properties) fuel
termination_by structural fuel => fuel

/-- What follows the properties of a node. -/
def content (place : Place) (depth : Nat) (p : Properties) : (fuel : Nat) → Rule NodeId
  | 0 => stop
  | fuel + 1 => do
    match place, ← look with
    | .entry, some .dash => unindentedItems depth (← addSequence p) fuel
    | _, some (.scalar text plain) =>
      pass
      addScalar p text plain
    | _, some (.opening .square) =>
      pass
      flowItems depth (← addSequence p) true fuel
    | _, some (.opening .curly) =>
      pass
      flowEntries depth (← addMapping p) true fuel
    | .flow, _ => absentOrStop p
    | _, some .sequenceStart =>
      pass
      blockItems depth (← addSequence p) fuel
    | _, some .mappingStart =>
      pass
      blockEntries depth (← addMapping p) fuel
    | _, _ => absentOrStop p
termination_by structural fuel => fuel

/-- A node, unless a token of a class shows that it is absent. -/
def nodeUnless (absent : Token → Bool) (place : Place) (depth : Nat) : (fuel : Nat) → Rule NodeId
  | 0 => stop
  | fuel + 1 => do
    if ← isNext absent then absentNode .absent else node place depth fuel
termination_by structural fuel => fuel

/-- The items of a block, for a sequence. -/
def blockItems (depth : Nat) (n : NodeId) : (fuel : Nat) → Rule NodeId
  | 0 => stop
  | fuel + 1 => do
    match ← look with
    | some .dash =>
      pass
      putItem n (← nodeUnless endsItem .block (depth + 1) fuel)
      blockItems depth n fuel
    | some .blockEnd =>
      pass
      return n
    | _ => stop
termination_by structural fuel => fuel

/-- The items of a block that is not indented, for a sequence. -/
def unindentedItems (depth : Nat) (n : NodeId) : (fuel : Nat) → Rule NodeId
  | 0 => stop
  | fuel + 1 => do
    match ← look with
    | some .dash =>
      pass
      putItem n (← nodeUnless endsUnindented .block (depth + 1) fuel)
      unindentedItems depth n fuel
    | _ => return n
termination_by structural fuel => fuel

/-- The entries of a block, for a mapping. By the older rules each has its key mark. -/
def blockEntries (depth : Nat) (n : NodeId) : (fuel : Nat) → Rule NodeId
  | 0 => stop
  | fuel + 1 => do
    match ← look with
    | some .key =>
      pass
      let k ← nodeUnless endsEntry .entry (depth + 1) fuel
      let v ← valueUnless endsEntry .entry (depth + 1) fuel
      putEntry n k v
      blockEntries depth n fuel
    | some .value =>
      if (← get).version.isOlder then stop
      let k ← absentNode .absent
      let v ← valueUnless endsEntry .entry (depth + 1) fuel
      putEntry n k v
      blockEntries depth n fuel
    | some .blockEnd =>
      pass
      return n
    | _ => stop
termination_by structural fuel => fuel

/-- A value with its mark; without the mark it is absent. -/
def valueUnless (absent : Token → Bool) (place : Place) (depth : Nat) : (fuel : Nat) → Rule NodeId
  | 0 => stop
  | fuel + 1 => do
    if ← isNext isValue then
      pass
      nodeUnless absent place depth fuel
    else absentNode .absent
termination_by structural fuel => fuel

/-- The comma between two entries of a flow. -/
def separator (first : Bool) : Rule Unit := do
  if first then return ()
  match ← look with
  | some .comma => pass
  | _ => stop

/-- The items of a flow, for a sequence. An item with a key mark is a mapping of one entry. -/
def flowItems (depth : Nat) (n : NodeId) (first : Bool) : (fuel : Nat) → Rule NodeId
  | 0 => stop
  | fuel + 1 => do
    if ← isNext (closes .square) then
      pass
      return n
    separator first
    match ← look with
    | some .key =>
      pass
      let pair ← addMapping .absent
      let k ← nodeUnless (endsFlowKey .square) .flow (depth + 2) fuel
      let v ← valueUnless (endsFlowValue .square) .flow (depth + 2) fuel
      putEntry pair k v
      putItem n pair
      flowItems depth n false fuel
    | some (.closing .square) =>
      pass
      return n
    | _ =>
      putItem n (← node .flow (depth + 1) fuel)
      flowItems depth n false fuel
termination_by structural fuel => fuel

/-- The entries of a flow, for a mapping. A key may stand alone, and by the newer rules it may be absent. -/
def flowEntries (depth : Nat) (n : NodeId) (first : Bool) : (fuel : Nat) → Rule NodeId
  | 0 => stop
  | fuel + 1 => do
    if ← isNext (closes .curly) then
      pass
      return n
    separator first
    match ← look with
    | some .key =>
      pass
      let k ← nodeUnless (endsFlowKey .curly) .flow (depth + 1) fuel
      let v ← valueUnless (endsFlowValue .curly) .flow (depth + 1) fuel
      putEntry n k v
      flowEntries depth n false fuel
    | some (.closing .curly) =>
      pass
      return n
    | some .value =>
      if (← get).version.isOlder then stop
      let k ← absentNode .absent
      let v ← valueUnless (endsFlowValue .curly) .flow (depth + 1) fuel
      putEntry n k v
      flowEntries depth n false fuel
    | _ =>
      let k ← node .flow (depth + 1) fuel
      let _ ← look
      let v ← absentNode .absent
      putEntry n k v
      flowEntries depth n false fuel
termination_by structural fuel => fuel

end

/-- The directives in front of a document: at most one version, and each handle once. The version must be one
that has rules. -/
def directives : (fuel : Nat) → (version : Option Version) → (handles : List (String × String)) →
    Rule Unit
  | 0, _, _ => stop
  | fuel + 1, version, handles => do
    match ← look with
    | some (.directive (.version v)) =>
      if version.isSome || v.major ≠ 1 then stop
      pass
      directives fuel (some v) handles
    | some (.directive (.handle name start)) =>
      if (handles.lookup name).isSome then stop
      pass
      directives fuel version ((name, start) :: handles)
    | some (.directive .other) =>
      pass
      directives fuel version handles
    | _ =>
      let v := version.getD .standard
      if !v.isKnown then throw (.unusable .unknownVersion)
      modify fun s => { s with version := v, handles := handles ++ usualHandles }

/-- A token before which the content of a document is absent. -/
def endsDocument : Token → Bool
  | .directive _ | .documentStart | .documentEnd _ => true
  | _ => false

/-- A token that begins a document of its own. -/
def beginsDocument : Token → Bool
  | .directive _ | .documentStart => true
  | _ => false

/-- A document end, if there is one, and whether there is. Behind it all names are forgotten. -/
def documentEnd : Rule Bool := do
  match ← look with
  | some (.documentEnd alone) =>
    pass
    let _ ← look
    if !alone then stop
    modify fun s => { s with names := [] }
    return true
  | _ =>
    modify fun s => { s with names := [] }
    return false

/-- Moves over document ends. -/
def documentEnds : (fuel : Nat) → Rule Unit
  | 0 => stop
  | fuel + 1 => do
    match ← look with
    | some (.documentEnd _) =>
      pass
      documentEnds fuel
    | _ => return ()

/-- What is behind a document must be the end of the text. What begins with directives there is read as far
as they go. -/
def finish (fuel : Nat) : Rule Unit := do
  let ended ← documentEnd
  let mayBegin := ended && !(← get).version.isOlder
  if !mayBegin then documentEnds fuel
  match ← look with
  | none => return ()
  | some t =>
    if !mayBegin || beginsDocument t then directives fuel none []
    stop

/-- The document of a text, if it has one. -/
def document (fuel : Nat) : Rule (Option NodeId) := do
  match ← look with
  | none => return none
  | some (.directive _) | some .documentStart =>
    directives fuel none []
    match ← look with
    | some .documentStart =>
      pass
      let absent := match ← look with
        | none => true
        | some t => endsDocument t
      let root ← if absent then absentNode .absent else node .block 0 fuel
      finish fuel
      return some root
    | _ => stop
  | some _ =>
    let root ← node .block 0 fuel
    finish fuel
    return some root

end Rule

end TaggedGrammar.Yaml
