import TaggedGrammar.Text.Class

/-!
# Patterns

The aliases of a language stand in a regular expression as alternatives. Every character that has a
meaning of its own there is quoted by a backslash, so that an alternative matches its alias and
nothing else. `alternatives` reads a union back: it cuts at the bars that are not quoted.

A begin shape is a regular expression with slots for such a union. Filling goes over the shape once, from
left to right, so text that is put in is not looked at again. `pieces` cuts a shape at its slots.
-/

namespace TaggedGrammar.Pattern

/-- The characters with a meaning of their own in a regular expression. -/
def metaChars : List Char :=
  ['-', '[', ']', '\x7b', '\x7d', '(', ')', '*', '+', '?', '.', ',', '\\', '^', '$', '|', '#']

/-- A character that is quoted: one with a meaning of its own, or a blank. -/
def isSpecial (c : Char) : Bool :=
  metaChars.contains c || Text.isBlankChar c

/-- One letter of an alias, quoted if need be. -/
def escapeLetter (l : Letter) : Text :=
  if l.isIn isSpecial then [.char '\\', l] else [l]

/-- The regular expression that matches a text literally. -/
def escape (s : Text) : Text :=
  s.flatMap escapeLetter

/-- The regular expression that matches one of the aliases, tried in order. -/
def union (aliases : List Text) : Text :=
  Text.join [.char '|'] (aliases.map escape)

/-- Puts a letter in front of the first text. -/
def consFirst (c : Letter) : List Text → List Text
  | [] => [[c]]
  | first :: rest => (c :: first) :: rest

/-- The alternatives of a union without their quoting. -/
def alternatives : Text → List Text
  | [] => [[]]
  | .char '\\' :: c :: rest => consFirst c (alternatives rest)
  | .char '|' :: rest => [] :: alternatives rest
  | c :: rest => consFirst c (alternatives rest)

/-- The pieces of a shape between its slots; there is always one more than there are slots. -/
def pieces : Text → List Text
  | [] => [[]]
  | .char '\x7b' :: .char 'a' :: .char 'l' :: .char 'i' :: .char 'a' :: .char 's' :: .char 'e' ::
      .char 's' :: .char '\x7d' :: rest => [] :: pieces rest
  | c :: rest => consFirst c (pieces rest)

/-- Whether a shape has a slot. -/
def hasSlot (shape : Text) : Bool :=
  1 < (pieces shape).length

/-- The shape with every slot replaced by a text, from left to right. -/
def fill : (shape filling : Text) → Text
  | [], _ => []
  | .char '\x7b' :: .char 'a' :: .char 'l' :: .char 'i' :: .char 'a' :: .char 's' :: .char 'e' ::
      .char 's' :: .char '\x7d' :: rest, filling => filling ++ fill rest filling
  | c :: rest, filling => c :: fill rest filling

end TaggedGrammar.Pattern
