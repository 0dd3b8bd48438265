import TaggedGrammar.Decimal.Shortest
import TaggedGrammar.Text.Quoted
import TaggedGrammar.Value.Basic

/-!
# Writing JSON

A value is written on one line, or with four spaces of indentation for each level of nesting. Keys keep
their order; numbers, truth values and null become texts as keys. In texts only the quote, the
backslash and the control characters are escaped. `write` gives a text for every value, and
`isWritable` says for which values that text is the value's JSON.
-/

namespace TaggedGrammar.Json

/-- How deep an indented text stands; `none` when all is on one line. -/
abbrev Depth := Option Nat

/-- The depth of what a collection holds. -/
def Depth.deeper (d : Depth) : Depth :=
  d.map (· + 1)

/-- A new line with the indentation of the given depth. -/
def lineAt (d : Nat) : Text :=
  .char '\n' :: List.replicate (4 * d) (.char ' ')

/-- What stands before the first item of a collection at this depth. -/
def openGap : Depth → Text
  | none => []
  | some d => lineAt (d + 1)

/-- What stands between two items of a collection at this depth. -/
def itemGap : Depth → Text
  | none => [.char ',', .char ' ']
  | some d => .char ',' :: lineAt (d + 1)

/-- What stands after the last item of a collection at this depth. -/
def closeGap : Depth → Text
  | none => []
  | some d => lineAt d

/-- One character inside a text. -/
def escapeChar (c : Char) : List Char :=
  if c = '"' then ['\\', '"']
  else if c = '\\' then ['\\', '\\']
  else if c = '\n' then ['\\', 'n']
  else if c = '\r' then ['\\', 'r']
  else if c = '\t' then ['\\', 't']
  else if c.toNat = 0x0c then ['\\', 'f']
  else if c.toNat = 0x08 then ['\\', 'b']
  else if c.toNat < 0x20 then '\\' :: 'u' :: Text.hexDigits 4 c.toNat
  else [c]

/-- One letter inside a text. -/
def escapeLetter : Letter → Text
  | .char c => Text.ofChars (escapeChar c)
  | .half n => [.half n]

/-- A text between its quotes. -/
def writeText (s : Text) : Text :=
  .char '"' :: (s.flatMap escapeLetter ++ [.char '"'])

/-- The digits of a whole number. -/
def integerDigits (n : Int) : Text :=
  (if n < 0 then [.char '-'] else []) ++ Text.ofNat n.natAbs

/-- The text of a double. -/
def doubleText : Double → String
  | .nan => "NaN"
  | .infinite false => "Infinity"
  | .infinite true => "-Infinity"
  | d => d.text

/-- The text that stands for a key. -/
def keyText : Value → Text
  | .str s => s
  | .int n => integerDigits n
  | .float d => doubleText d
  | .bool true => "true"
  | .bool false => "false"
  | _ => "null"

mutual

/-- The text of a value at a depth. -/
def write (d : Depth) : Value → Text
  | .bool true => "true"
  | .bool false => "false"
  | .int n => integerDigits n
  | .float x => doubleText x
  | .str s => writeText s
  | .list [] | .tuple [] => "[]"
  | .list (v :: rest) | .tuple (v :: rest) =>
    "[" ++ openGap d ++ write d.deeper v ++ writeItems d rest ++ closeGap d ++ "]"
  | .map [] => "\x7b\x7d"
  | .map ((k, v) :: rest) =>
    "\x7b" ++ openGap d ++ writeText (keyText k) ++ ": " ++ write d.deeper v ++
      writeEntries d rest ++ closeGap d ++ "\x7d"
  | _ => "null"

/-- The items after the first one of a collection at a depth. -/
def writeItems (d : Depth) : List Value → Text
  | [] => []
  | v :: rest => itemGap d ++ write d.deeper v ++ writeItems d rest

/-- The entries after the first one of a mapping at a depth. -/
def writeEntries (d : Depth) : List (Value × Value) → Text
  | [] => []
  | (k, v) :: rest =>
    itemGap d ++ writeText (keyText k) ++ ": " ++ write d.deeper v ++ writeEntries d rest

end

/-- Whether a value can be a key of a JSON object. -/
def isWritableKey : Value → Bool
  | .null | .bool _ | .int _ | .float _ | .str _ => true
  | _ => false

mutual

/-- Whether a value has a JSON text. -/
def isWritable : Value → Bool
  | .null | .bool _ | .int _ | .float _ | .str _ => true
  | .list items | .tuple items => areWritable items
  | .map entries => areWritableEntries entries
  | _ => false

/-- Whether all of the values have JSON texts. -/
def areWritable : List Value → Bool
  | [] => true
  | v :: rest => isWritable v && areWritable rest

/-- Whether all of the entries have JSON texts. -/
def areWritableEntries : List (Value × Value) → Bool
  | [] => true
  | (k, v) :: rest => isWritableKey k && isWritable v && areWritableEntries rest

end

/-- The JSON text of a value on one line. -/
def line (v : Value) : Text :=
  write none v

/-- The JSON text of a value as a document: indented, with a line end. -/
def document (v : Value) : Text :=
  write (some 0) v ++ [.char '\n']

/-- The text of a value on one line, if it has one. -/
def line? (v : Value) : Option Text :=
  if isWritable v then some (line v) else none

/-- The text of a value as a document, if it has one. -/
def document? (v : Value) : Option Text :=
  if isWritable v then some (document v) else none

end TaggedGrammar.Json
