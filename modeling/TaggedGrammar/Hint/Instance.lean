import TaggedGrammar.Hint.Display

/-!
# Instances of hints

Whether a value is an instance of a hint as it stands. Classes can be tested, and choices between them; a hint
with arguments in brackets cannot.
-/

namespace TaggedGrammar.Hint

/-- Why a hint with arguments cannot be tested. -/
def bracketReason (test : String) : Text :=
  test ++ "() argument 2 cannot be a parameterized generic"

/-- Why a list of options cannot be tested. -/
def literalReason : Text :=
  "Subscripted generics cannot be used with class and instance checks"

/-- Why the hint for everything cannot be tested. -/
def anyReason : Text :=
  "typing.Any cannot be used with isinstance()"

/-- Whether a hint has arguments in brackets. -/
def hasBrackets : Hint → Bool
  | list _ | dict _ _ | tuple _ | run _ | unchecked _ => true
  | _ => false

/-- Whether a value is an instance of one member of a choice that is written as a list. -/
def holdsListed (v : Value) : Hint → Except Text Bool
  | any | union _ _ => .ok false
  | scalar cls | instanceOf cls => .ok (cls.holds v)
  | anyList => .ok (Class.list.holds v)
  | anyDict => .ok (Class.dict.holds v)
  | anyTuple => .ok (Class.tuple.holds v)
  | list _ | dict _ _ | tuple _ | run _ | unchecked _ => .error (bracketReason "issubclass")
  | literal _ => .error literalReason
  | record name _ _ _ => .ok (v.kind == name)

/-- Whether a value is an instance of one member of a choice with bars. -/
def holdsBarred (v : Value) : Hint → Except Text Bool
  | any => .error anyReason
  | h => holdsListed v h

/-- Whether a test holds for one of the hints, tried in order. -/
def anyHolds (test : Hint → Except Text Bool) : List Hint → Except Text Bool
  | [] => .ok false
  | h :: hs => do
    if ← test h then return true
    anyHolds test hs

/-- Whether a value is an instance of a hint; otherwise why it cannot be tested. -/
def isInstance (v : Value) : Hint → Except Text Bool
  | union true members =>
    if members.any hasBrackets then .error (bracketReason "isinstance")
    else anyHolds (holdsBarred v) members
  | union false members => anyHolds (holdsListed v) members
  | list _ | dict _ _ | tuple _ | run _ | unchecked _ => .error (bracketReason "isinstance")
  | h => holdsBarred v h

end TaggedGrammar.Hint
