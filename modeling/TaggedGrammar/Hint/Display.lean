import TaggedGrammar.Hint.Basic

/-!
# The display of hints

Messages name a hint in short, and a choice with bars in full.
-/

namespace TaggedGrammar.Hint

/-- The full name of a record. A record without a home is made on the spot. -/
def recordText (name : String) (home : Option String) : Text :=
  home.getD "types" ++ "." ++ name

/-- A hint with its arguments in brackets. -/
def bracketed (name : String) (arguments : List Text) : Text :=
  name ++ "[" ++ (if arguments.isEmpty then "()" else commaList arguments : Text) ++ "]"

mutual

/-- The display of a hint inside another one. -/
def text : Hint → Text
  | any => "typing.Any"
  | scalar cls | instanceOf cls => cls.name
  | anyList => "typing.List"
  | anyDict => "typing.Dict"
  | anyTuple => "typing.Tuple"
  | list item => bracketed "list" [item.text]
  | dict key value => bracketed "dict" [key.text, value.text]
  | tuple items => bracketed "tuple" (texts items)
  | run item => bracketed "tuple" [item.text, "..."]
  | unchecked item => bracketed "set" [item.text]
  | literal options => bracketed "typing.Literal" (options.map fun o => o.literal?.getD [])
  | record name home _ _ => recordText name home
  | union true members => Text.join " | " (barTexts members)
  | union false [instanceOf .null, h] | union false [h, instanceOf .null] =>
    bracketed "typing.Optional" [h.text]
  | union false members => bracketed "typing.Union" (texts members)

/-- The displays of hints inside another one. -/
def texts : List Hint → List Text
  | [] => []
  | h :: hs => h.text :: texts hs

/-- The displays of hints with bars between them. -/
def barTexts : List Hint → List Text
  | [] => []
  | instanceOf .null :: hs => "None" :: barTexts hs
  | h :: hs => h.text :: barTexts hs

end

/-- The name of what a hint builds. -/
def builtName : Hint → Text
  | any => "Any"
  | scalar cls | instanceOf cls => cls.name
  | anyList => "List"
  | anyDict => "Dict"
  | anyTuple => "Tuple"
  | list _ => "list"
  | dict _ _ => "dict"
  | tuple _ | run _ => "tuple"
  | union false [instanceOf .null, _] | union false [_, instanceOf .null] => "Optional"
  | union false _ => "Union"
  | union true members => (union true members).text
  | literal _ => "Literal"
  | unchecked _ => "set"
  | record name _ _ _ => name

end TaggedGrammar.Hint
