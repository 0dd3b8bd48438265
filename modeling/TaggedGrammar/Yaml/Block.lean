import TaggedGrammar.Yaml.Cursor

/-!
# Block texts

A block text follows a header on lines of its own that are indented. It is literal, keeping its line
ends, or folded. The header may say how deep the text is indented and what becomes of its last line end.
-/

namespace TaggedGrammar.Yaml

/-- What becomes of the line ends after the last line of a block text. -/
inductive Chomping where
  /-- None is kept. -/
  | strip
  /-- The first is kept. -/
  | clip
  /-- All are kept. -/
  | keep
  deriving DecidableEq

/-- The header of a block text. -/
structure BlockHeader where
  chomping : Chomping
  /-- The indentation relative to the surrounding block, if it is given. -/
  deeper : Option Nat

namespace BlockHeader

/-- The sign that says what becomes of the last line ends. -/
def chomping? (c : Char) : Option Chomping :=
  if c = '+' then some .keep else if c = '-' then some .strip else none

/-- The digit that says how deep the text is indented; it is at least one. -/
def deeper? (c : Cursor) : Reading (Option Nat × Cursor) :=
  if isDecimal c.head then
    if c.head = '0' then malformed else .ok (some (c.head.toNat - '0'.toNat), c.advance)
  else .ok (none, c)

/-- Reads a header with the rest of its line; the position is behind the mark of the block text. -/
def read (c : Cursor) : Reading (BlockHeader × Cursor) := do
  let (header, c) ← (match chomping? c.head with
    | some chomping => do
      let (deeper, c) ← deeper? c.advance
      return (⟨chomping, deeper⟩, c)
    | none => do
      let (deeper, c) ← deeper? c
      match deeper, chomping? c.head with
      | some _, some chomping => return (⟨chomping, deeper⟩, c.advance)
      | _, _ => return (⟨.clip, deeper⟩, c) : Reading (BlockHeader × Cursor))
  require (endsHeader c.head)
  return (header, ← c.finishLine)

end BlockHeader

/-- The blank lines in front of a block text whose indentation is not given. -/
structure BlankLines where
  breaks : List Char
  /-- The column at which the first blank line ends. -/
  first : Option Nat
  /-- The greatest column that spaces reach. -/
  deepest : Nat
  cursor : Cursor

/-- Goes over blank lines and the spaces in front of the first line with content. -/
def blankLines : (fuel : Nat) → BlankLines → BlankLines
  | 0, b => b
  | fuel + 1, b =>
    if b.cursor.head = ' ' then
      let c := b.cursor.advance
      blankLines fuel { b with deepest := max b.deepest c.column, cursor := c }
    else match b.cursor.lineEnd? with
      | some (x, c) =>
        blankLines fuel
          { b with
            breaks := b.breaks ++ [x]
            first := b.first.or (some b.cursor.column)
            cursor := c }
      | none => b

/-- Moves over spaces, up to a column. -/
def indentTo (indent : Nat) : (fuel : Nat) → Cursor → Cursor
  | 0, c => c
  | fuel + 1, c => if c.column < indent ∧ c.head = ' ' then indentTo indent fuel c.advance else c

/-- Goes over the blank lines between two lines of a block text, and over the indentation. -/
def blockBreaks (indent : Nat) : (fuel : Nat) → Cursor → List Char × Cursor
  | 0, c => ([], c)
  | fuel + 1, c =>
    let c := indentTo indent (indent + 1) c
    match c.lineEnd? with
    | none => ([], c)
    | some (b, c) =>
      let (bs, c) := blockBreaks indent fuel c
      (b :: bs, c)

/-- The place of a block text: its kind, its column, and whether it stands at the top of a document, where
a document separator ends it. -/
structure BlockPlace where
  folds : Bool
  indent : Nat
  atTop : Bool

/-- The lines of a block text. -/
structure BlockLines where
  text : List Char
  /-- The end of the last line; empty at the end of the text. -/
  lastEnd : List Char
  /-- The blank lines after the last line. -/
  breaks : List Char
  cursor : Cursor

/-- The lines of a block text, with the blank lines in front of them already read. -/
def blockLines (p : BlockPlace) :
    (fuel : Nat) → (breaks : List Char) → (lastEnd : List Char) → Cursor → BlockLines
  | 0, breaks, lastEnd, c => ⟨[], lastEnd, breaks, c⟩
  | fuel + 1, breaks, lastEnd, c =>
    if c.column ≠ p.indent ∨ c.head = endMark then ⟨[], lastEnd, breaks, c⟩
    else
      let flush := !isGap c.head
      let (line, c) := c.span (!endsLine ·)
      let (lineEnd, c) := match c.lineEnd? with
        | some (b, c) => ([b], c)
        | none => ([], c)
      let (after, c) := blockBreaks p.indent (c.size + 1) c
      let done := (p.atTop && c.column = 0 && c.isAtSeparator) || c.column ≠ p.indent ||
        c.head = endMark
      if done then ⟨breaks ++ line, lineEnd, after, c⟩
      else
        let joint :=
          if p.folds && lineEnd = ['\n'] && flush && !isGap c.head then
            (if after.isEmpty then [' '] else [])
          else lineEnd
        let more := blockLines p fuel after lineEnd c
        { more with text := breaks ++ line ++ joint ++ more.text }

/-- A block text inside a block of the given indentation; the position is at its mark. -/
def blockText (surrounding : Int) (c : Cursor) : Reading (Text × Cursor) := do
  let (header, rest) ← BlockHeader.read c.advance
  let least := (surrounding + 1).toNat
  let (indent, breaks, rest) ← (match header.deeper with
    | none => do
      let blank := blankLines (rest.size + 1) ⟨[], none, 0, rest⟩
      require (match blank.first with
        | some column => column = 0 || blank.deepest ≤ column
        | none => true)
      return (max least blank.deepest, blank.breaks, blank.cursor)
    | some n =>
      let indent := max least 1 + n - 1
      let (breaks, rest) := blockBreaks indent (rest.size + 1) rest
      return (indent, breaks, rest) : Reading (Nat × List Char × Cursor))
  let atTop := header.deeper.isNone && least = 0
  let lines := blockLines ⟨c.head = '>', indent, atTop⟩ (rest.size + 1) breaks [] rest
  let tail := match header.chomping with
    | .strip => []
    | .clip => lines.lastEnd
    | .keep => lines.lastEnd ++ lines.breaks
  return (.ofChars (lines.text ++ tail), lines.cursor)

end TaggedGrammar.Yaml
