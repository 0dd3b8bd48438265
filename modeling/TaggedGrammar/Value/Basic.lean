import TaggedGrammar.Decimal.Double
import TaggedGrammar.Value.Calendar

/-!
# Values

The dynamic values that a table file holds and that coercion works on. Mappings keep the order in which
their keys were first written. Two values are the same when they are equal as numbers, texts or
collections: an integer, a double and a truth value with one numeric value are the same value.
-/

namespace TaggedGrammar

/-- A dynamic value. Besides what a table may use it covers what a table file may hold by mistake, and
the typed records that coercion builds. -/
inductive Value where
  | null
  | bool (b : Bool)
  | int (n : Int)
  | float (d : Double)
  | str (s : Text)
  | list (items : List Value)
  | tuple (items : List Value)
  | map (entries : List (Value × Value))
  /-- A mapping that was written as a sequence of entries. -/
  | ordered (entries : List (Value × Value))
  | record (name : String) (fields : List (String × Value))
  | day (d : Day)
  | instant (t : Instant)
  | bytes (octets : List UInt8)
  | set (members : List Value)
  deriving Repr

namespace Value

/-- The name of a value's kind, as messages give it. -/
def kind : Value → String
  | null => "NoneType"
  | bool _ => "bool"
  | int _ => "int"
  | float _ => "float"
  | str _ => "str"
  | list _ => "list"
  | tuple _ => "tuple"
  | map _ => "dict"
  | ordered _ => "ordereddict"
  | record name _ => name
  | day _ => "date"
  | instant _ => "datetime"
  | bytes _ => "bytes"
  | set _ => "set"

/-- A truth value as the integer it equals. -/
def ofTruth (b : Bool) : Int :=
  if b then 1 else 0

/-- Equality of two values that are not collections. -/
def sameScalar : Value → Value → Bool
  | null, null => true
  | bool a, bool b => a == b
  | bool a, int n | int n, bool a => ofTruth a == n
  | bool a, float d | float d, bool a => d.equalsInt (ofTruth a)
  | int a, int b => a == b
  | int n, float d | float d, int n => d.equalsInt n
  | float a, float b => a.equals b
  | str a, str b => a == b
  | day a, day b => a == b
  | instant a, instant b => a.same b
  | bytes a, bytes b => a == b
  | _, _ => false

mutual

/-- Whether two values are the same. The order of a mapping's keys and of a set's members is immaterial. -/
def same : Value → Value → Bool
  | list a, list b => sameItems a b
  | tuple a, tuple b => sameItems a b
  | map a, map b | map a, ordered b | ordered a, map b => a.length == b.length && sameEntries a b
  | ordered a, ordered b => sameInOrder a b
  | set a, set b => a.length == b.length && sameMembers a b
  | a, b => sameScalar a b

/-- Whether two lists have the same items in order. -/
def sameItems : List Value → List Value → Bool
  | [], [] => true
  | a :: as, b :: bs => same a b && sameItems as bs
  | _, _ => false

/-- Whether two mappings have the same entries in order. -/
def sameInOrder : List (Value × Value) → List (Value × Value) → Bool
  | [], [] => true
  | (k, v) :: rest, (k', v') :: rest' => same k k' && same v v' && sameInOrder rest rest'
  | _, _ => false

/-- Whether each entry of the first mapping is one of the second. -/
def sameEntries : List (Value × Value) → List (Value × Value) → Bool
  | [], _ => true
  | (k, v) :: rest, bs => bs.any (fun e => same k e.1 && same v e.2) && sameEntries rest bs

/-- Whether each member of the first set is one of the second. -/
def sameMembers : List Value → List Value → Bool
  | [], _ => true
  | a :: as, bs => bs.any (fun b => same a b) && sameMembers as bs

end

/-- The value that a mapping has at a key. -/
def lookup (key : Value) : List (Value × Value) → Option Value
  | [] => none
  | (k, v) :: rest => if same k key then some v else lookup key rest

/-- The value that a mapping has at a text key. -/
def field? (name : Text) (entries : List (Value × Value)) : Option Value :=
  lookup (str name) entries

/-- Sets the value at a key. A key that is there keeps its place and its spelling. -/
def put (key value : Value) : List (Value × Value) → List (Value × Value)
  | [] => [(key, value)]
  | (k, v) :: rest => if same k key then (k, value) :: rest else (k, v) :: put key value rest

/-- The mapping that results from writing the entries one after the other. -/
def ofEntries (entries : List (Value × Value)) : List (Value × Value) :=
  entries.foldl (fun m e => put e.1 e.2 m) []

mutual

/-- Whether a value may be a mapping's key: collections that can grow are none. -/
def canBeKey : Value → Bool
  | list _ | map _ | ordered _ | set _ | record _ _ => false
  | tuple items => canBeKeys items
  | _ => true

/-- Whether all of the values may be keys. -/
def canBeKeys : List Value → Bool
  | [] => true
  | v :: rest => canBeKey v && canBeKeys rest

end

/-- Whether a value counts as empty: null, false, zero, and empty texts and collections. -/
def isEmpty : Value → Bool
  | null => true
  | bool b => !b
  | int n => n == 0
  | float d => d.isZero
  | str s => s.isEmpty
  | list items | tuple items | set items => items.isEmpty
  | map entries | ordered entries => entries.isEmpty
  | bytes octets => octets.isEmpty
  | record _ _ | day _ | instant _ => false

/-- Whether a value is no collection. -/
def isScalar : Value → Bool
  | list _ | tuple _ | map _ | ordered _ | record _ _ | set _ => false
  | _ => true

end Value

/-- A value that is no collection. -/
abbrev Scalar := { v : Value // v.isScalar }

/-- The null value as a scalar. -/
def Scalar.null : Scalar :=
  ⟨.null, rfl⟩

end TaggedGrammar
