import TaggedGrammar.Fault

/-!
# Positions in a table text

A table file is written in a data language of indented blocks and bracketed flows. This module has what
all of its rules share: the classes of characters, a position in the text with its line and column, and
the folding of line ends. The text comes with its line ends unified, so that it has no CR.
-/

namespace TaggedGrammar.Yaml

/-- Why a text cannot be read. -/
inductive Trouble where
  /-- The text breaks a rule of the language. -/
  | malformed
  /-- The text is in order, and a value in it cannot be made. -/
  | unusable (defect : Defect)

/-- The result of reading a part of a text. -/
abbrev Reading (α : Type) := Except Trouble α

/-- The text breaks a rule of the language. -/
def malformed {α : Type} : Reading α :=
  .error .malformed

/-- Nothing when a condition holds; otherwise the text is malformed. -/
def require (condition : Bool) : Reading Unit :=
  if condition then .ok () else malformed

/-- The character that stands for the end of the text; a text never holds it. -/
def endMark : Char := '\x00'

/-- A character that ends a line. -/
def isBreak (c : Char) : Bool :=
  c = '\n' || c = '\x85' || c = '\u2028' || c = '\u2029'

/-- The end of the text, or a character that ends a line. -/
def endsLine (c : Char) : Bool :=
  isBreak c || c = endMark

/-- A character that ends a word: the end of a line, a space or a tab. -/
def endsWord (c : Char) : Bool :=
  endsLine c || c = ' ' || c = '\t'

/-- A character that may follow a header or a tag: the end of a line, or a space. -/
def endsHeader (c : Char) : Bool :=
  endsLine c || c = ' '

/-- A space or a tab. -/
def isGap (c : Char) : Bool :=
  c = ' ' || c = '\t'

/-- A decimal digit of the first hundred and twenty-eight characters. -/
def isDecimal (c : Char) : Bool :=
  '0' ≤ c && c ≤ '9'

/-- A letter or digit of the first hundred and twenty-eight characters. -/
def isWordChar (c : Char) : Bool :=
  isDecimal c || ('A' ≤ c && c ≤ 'Z') || ('a' ≤ c && c ≤ 'z')

/-- The value of a hexadecimal digit. -/
def hexValue? (c : Char) : Option Nat :=
  if isDecimal c then some (c.toNat - '0'.toNat)
  else if 'A' ≤ c ∧ c ≤ 'F' then some (c.toNat - 'A'.toNat + 10)
  else if 'a' ≤ c ∧ c ≤ 'f' then some (c.toNat - 'a'.toNat + 10)
  else none

/-- The number that a run of hexadecimal digits stands for. -/
def hexNumber? (cs : List Char) : Option Nat :=
  (cs.mapM hexValue?).map (·.foldl (fun n d => n * 16 + d) 0)

/-- A character that a text may hold: no control characters but tab and line ends, no noncharacters. -/
def isAllowed (c : Char) : Bool :=
  let n := c.toNat
  n = 0x09 || n = 0x0A || (0x20 ≤ n && n ≤ 0x7E) || n = 0x85 || (0xA0 ≤ n && n ≤ 0xD7FF) ||
    (0xE000 ≤ n && n ≤ 0xFFFD) || 0x10000 ≤ n

/-- The mark that may stand in front of a text to tell its encoding. -/
def byteOrderMark : Char := '\ufeff'

/-- A position in a text: what is left of it, and the place in the whole. Only LF begins a new line as far as
the place is concerned. -/
structure Cursor where
  rest : List Char
  /-- The number of characters of the whole text. -/
  size : Nat
  index : Nat
  line : Nat
  column : Nat

namespace Cursor

/-- The start of a text. -/
def start (text : List Char) : Cursor :=
  ⟨text, text.length, 0, 0, 0⟩

/-- The character `k` places ahead, or the end mark. -/
def peek (c : Cursor) (k : Nat) : Char :=
  c.rest.getD k endMark

/-- The next character, or the end mark. -/
def head (c : Cursor) : Char :=
  c.rest.headD endMark

/-- Moves over one character. -/
def advance (c : Cursor) : Cursor :=
  match c.rest with
  | [] => c
  | x :: rest =>
    if x = '\n' then ⟨rest, c.size, c.index + 1, c.line + 1, 0⟩
    else if x = byteOrderMark then ⟨rest, c.size, c.index + 1, c.line, c.column⟩
    else ⟨rest, c.size, c.index + 1, c.line, c.column + 1⟩

/-- Moves over `n` characters. -/
def advanceBy : (n : Nat) → Cursor → Cursor
  | 0, c => c
  | n + 1, c => advanceBy n c.advance

/-- The longest run of characters of a class at the front, and the position after it. -/
def span (p : Char → Bool) (c : Cursor) : List Char × Cursor :=
  let run := c.rest.takeWhile p
  (run, advanceBy run.length c)

/-- Moves over the characters of a class at the front. -/
def skip (p : Char → Bool) (c : Cursor) : Cursor :=
  (c.span p).2

/-- Moves over a line end, if there is one, and gives the character that stands for it. -/
def lineEnd? (c : Cursor) : Option (Char × Cursor) :=
  if isBreak c.head then some (if c.head = '\x85' then '\n' else c.head, c.advance) else none

/-- Moves over a line end, if there is one. -/
def skipLineEnd (c : Cursor) : Cursor :=
  match c.lineEnd? with
  | some (_, c) => c
  | none => c

/-- Whether the three characters ahead are `marker` and a word ends after them. -/
def isAtMarker (c : Cursor) (marker : List Char) : Bool :=
  c.rest.take 3 = marker && endsWord (c.peek 3)

/-- Whether a document start or a document end lies ahead. -/
def isAtSeparator (c : Cursor) : Bool :=
  c.isAtMarker ['-', '-', '-'] || c.isAtMarker ['.', '.', '.']

/-- Moves over the comment at the end of a line, and over the line end. Other content is malformed. -/
def finishLine (c : Cursor) : Reading Cursor := do
  let c := c.skip (· = ' ')
  let c := if c.head = '#' then c.skip (!endsLine ·) else c
  require (endsLine c.head)
  return c.skipLineEnd

end Cursor

/-- What a line end and the empty lines after it stand for inside a text: a single one is a space, and
of several all but the first are kept. -/
def folded (first : Char) (more : List Char) : List Char :=
  (if first ≠ '\n' then [first] else if more.isEmpty then [' '] else []) ++ more

end TaggedGrammar.Yaml
