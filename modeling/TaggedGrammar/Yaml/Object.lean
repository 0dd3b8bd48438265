import TaggedGrammar.Value.Display
import TaggedGrammar.Yaml.Node

/-!
# Objects

The nodes of a text are made to objects. An object has a number, so that it can be shared, and a collection
can be filled after others have taken it in, itself included. At the end objects become values.
-/

namespace TaggedGrammar.Yaml

/-- A key object and its value object. -/
abbrev ObjectEntry := ObjectId × ObjectId

/-- What a node is made to. -/
inductive Object where
  | scalar (v : Scalar)
  | list (items : List ObjectId)
  | tuple (items : List ObjectId)
  | map (entries : List ObjectEntry)
  | ordered (entries : List ObjectEntry)
  | set (members : List ObjectId)

namespace Object

/-- The objects that an object holds. -/
def parts : Object → List ObjectId
  | scalar _ => []
  | list items | tuple items | set items => items
  | map entries | ordered entries => entries.flatMap fun e => [e.1, e.2]

/-- Whether the object itself can be displayed. -/
def isDisplayable : Object → Bool
  | scalar v => v.val.literal?.isSome
  | _ => true

end Object

/-- The objects that have been made, by their numbers. -/
abbrev Objects := Array Object

namespace Objects

/-- The object with a number. -/
def object (s : Objects) (o : ObjectId) : Object :=
  s.getD o (.scalar .null)

/-- Whether an object may be a key, looking `depth` levels deep. -/
def canBeKeyTo (s : Objects) : (depth : Nat) → ObjectId → Bool
  | 0, _ => false
  | depth + 1, o =>
    match s.object o with
    | .scalar _ => true
    | .tuple items => items.all (s.canBeKeyTo depth)
    | _ => false

/-- Whether an object may be a key: a scalar, or a tuple of such. -/
def canBeKey (s : Objects) (o : ObjectId) : Bool :=
  s.canBeKeyTo (s.size + 1) o

/-- Whether two objects are the same key, looking `depth` levels deep. -/
def sameKeyTo (s : Objects) : (depth : Nat) → ObjectId → ObjectId → Bool
  | 0, a, b => a = b
  | depth + 1, a, b =>
    a = b || (match s.object a, s.object b with
      | .scalar x, .scalar y => x.val.same y.val
      | .tuple xs, .tuple ys =>
        xs.length = ys.length && (xs.zip ys).all fun p => s.sameKeyTo depth p.1 p.2
      | _, _ => false)

/-- Whether two objects are the same key. An object is the same as itself even if it is no number. -/
def sameKey (s : Objects) (a b : ObjectId) : Bool :=
  s.sameKeyTo (s.size + 1) a b

/-- The value at a key. -/
def lookup (s : Objects) (key : ObjectId) (entries : List ObjectEntry) : Option ObjectId :=
  (entries.find? fun e => s.sameKey e.1 key).map (·.2)

/-- Sets the value at a key. A key that is there keeps its place. -/
def put (s : Objects) (entries : List ObjectEntry) (e : ObjectEntry) : List ObjectEntry :=
  if (s.lookup e.1 entries).isSome then
    entries.map fun old => if s.sameKey old.1 e.1 then (old.1, e.2) else old
  else entries ++ [e]

/-- The objects that can be reached from some, besides those that were `seen`. -/
def reached (s : Objects) : (fuel : Nat) → (seen : List ObjectId) → List ObjectId → List ObjectId
  | 0, seen, _ => seen
  | _ + 1, seen, [] => seen
  | fuel + 1, seen, o :: rest =>
    if seen.contains o then s.reached fuel seen rest
    else s.reached fuel (o :: seen) ((s.object o).parts ++ rest)

/-- Whether all that can be reached from some objects can be displayed. -/
def areDisplayable (s : Objects) (start : List ObjectId) : Bool :=
  let steps := s.foldl (fun n x => n + x.parts.length + 1) (start.length + 1)
  (s.reached steps [] start).all fun o => (s.object o).isDisplayable

end Objects

end TaggedGrammar.Yaml
