import TaggedGrammar.Value.Display

/-!
# Hints

A hint says which values are expected at a place, and into what they are brought. Hints are compared as
sets of alternatives, so that a choice never lists an alternative twice.
-/

namespace TaggedGrammar

/-- A class of values that a value is or is not an instance of. -/
inductive Class where
  | null
  | bool
  | int
  | float
  | str
  | list
  | dict
  | tuple
  deriving DecidableEq, Repr

/-- The name of a class. -/
def Class.name : Class → String
  | null => "NoneType"
  | bool => "bool"
  | int => "int"
  | float => "float"
  | str => "str"
  | list => "list"
  | dict => "dict"
  | tuple => "tuple"

/-- Whether a value is an instance of a class. A truth value is an integer too. -/
def Class.holds : Class → Value → Bool
  | null, .null | bool, .bool _ | int, .int _ | int, .bool _ | float, .float _ | str, .str _
  | list, .list _ | dict, .map _ | dict, .ordered _ | tuple, .tuple _ => true
  | _, _ => false

/-- A field of a record: its name, what it holds, its default, and whether tables may set it. -/
structure Field (α : Type) where
  name : String
  hint : α
  default : Option Value
  init : Bool := true
  deriving Repr

/-- What is expected at a place. -/
inductive Hint where
  /-- Every value. -/
  | any
  /-- A text, a number or a truth value of exactly this kind; a double may be given as an integer. -/
  | scalar (cls : Class)
  /-- An instance of a class, whatever it holds. -/
  | instanceOf (cls : Class)
  /-- A list of any items. -/
  | anyList
  /-- A mapping of any entries. -/
  | anyDict
  /-- A list or a fixed sequence of any items, made a fixed sequence. -/
  | anyTuple
  | list (item : Hint)
  | dict (key value : Hint)
  /-- A fixed sequence with one item for each hint; without hints it is any fixed sequence. -/
  | tuple (items : List Hint)
  /-- A fixed sequence of any length. -/
  | run (item : Hint)
  /-- A choice, written as a list or with bars between its members. -/
  | union (barred : Bool) (members : List Hint)
  | literal (options : List Value)
  /-- A hint of a kind that is not checked. -/
  | unchecked (item : Hint)
  /-- A record with its fields; with a refusal it can never be built. A record with a home is one and the
  same class wherever it is mentioned; any other is a class of its own at each mention. -/
  | record (name : String) (home : Option String) (fields : List (Field Hint))
    (refusal : Option Text)
  deriving Repr

namespace Hint

/-- Whether two options are equal and of one kind. -/
def sameOption (a b : Value) : Bool :=
  a.same b && a.kind == b.kind

/-- Whether each option of the first list is one of the second. -/
def optionsWithin (as bs : List Value) : Bool :=
  as.all fun a => bs.any (sameOption a)

/-- The options without repetitions. They stay as they are when one of them cannot be a key. -/
def distinctOptions (options : List Value) : List Value :=
  if options.all Value.canBeKey then
    options.foldl (fun kept v => if kept.any (sameOption v) then kept else kept ++ [v]) []
  else options

mutual

/-- Whether two hints expect the same. -/
def same : Hint → Hint → Bool
  | any, any | anyList, anyList | anyDict, anyDict | anyTuple, anyTuple => true
  | scalar a, scalar b => a == b
  | instanceOf a, instanceOf b => a == b
  | list a, list b | run a, run b | unchecked a, unchecked b => same a b
  | dict k v, dict k' v' => same k k' && same v v'
  | tuple as, tuple bs => sameEach as bs
  | union _ as, union _ bs => as.length == bs.length && within as bs
  | literal as, literal bs => optionsWithin as bs && optionsWithin bs as
  | record n (some home) _ _, record n' (some home') _ _ => n == n' && home == home'
  | _, _ => false

/-- Whether two lists of hints are the same item by item. -/
def sameEach : List Hint → List Hint → Bool
  | [], [] => true
  | a :: as, b :: bs => same a b && sameEach as bs
  | _, _ => false

/-- Whether each hint of the first list is one of the second. -/
def within : List Hint → List Hint → Bool
  | [], _ => true
  | a :: as, bs => bs.any (fun b => same a b) && within as bs

end

/-- The hints without repetitions. -/
def distinct (hints : List Hint) : List Hint :=
  hints.foldl (fun kept h => if kept.any (same h) then kept else kept ++ [h]) []

/-- The choice between members; a choice of one is that one. -/
def choice (barred : Bool) : List Hint → Hint
  | [h] => h
  | hs => union barred hs

/-- The alternatives of a hint: the members of a choice, or the hint itself. -/
def alternatives : Hint → List Hint
  | union _ members => members
  | h => [h]

/-- The choice between hints: choices inside it are opened, and repetitions are dropped. -/
def oneOf (hints : List Hint) : Hint :=
  choice false (distinct (hints.flatMap alternatives))

/-- Whether a hint can stand beside a bar as it is: classes can, and what is made of them with brackets or
bars. -/
def takesBar : Hint → Bool
  | anyList | anyDict | anyTuple | literal _ | union false _ => false
  | _ => true

/-- The choice between two hints with a bar between them. -/
def bar (a b : Hint) : Hint :=
  if a.takesBar && b.takesBar then choice true (distinct (a.alternatives ++ b.alternatives))
  else oneOf [a, b]

/-- The choice between hints with bars between them. -/
def barred : List Hint → Hint
  | [] => union true []
  | h :: hs => hs.foldl bar h

/-- A choice with null as one alternative. -/
def optional (h : Hint) : Hint :=
  oneOf [h, instanceOf .null]

/-- The hint for a text. -/
def str : Hint := scalar .str

end Hint

end TaggedGrammar
