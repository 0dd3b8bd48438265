import TaggedGrammar.Yaml.Block
import TaggedGrammar.Yaml.Name
import TaggedGrammar.Yaml.Plain
import TaggedGrammar.Yaml.Quoted

/-!
# From text to tokens

The scan goes over a text once. A key of a mapping is recognised late, at the value mark behind it, so
the scan keeps for each level of brackets the token that may turn out to be a key. Such a key lies on one
line and is not longer than 1024 characters. Outside brackets the indentation opens and closes blocks.
-/

namespace TaggedGrammar.Yaml

/-- A token that may turn out to be a key. -/
structure PendingKey where
  /-- The number of the token. -/
  position : Nat
  /-- Whether it stands where only a key can stand. -/
  required : Bool
  /-- Where it begins. -/
  index : Nat
  line : Nat
  column : Nat

namespace PendingKey

/-- Whether a value mark at the cursor is too late for the key. -/
def isStale (k : PendingKey) (c : Cursor) : Bool :=
  k.line ≠ c.line || k.index + 1024 < c.index

/-- Drops a key that came to nothing; one that is required must not be dropped. -/
def drop : Option PendingKey → Reading (Option PendingKey)
  | some k => if k.required then malformed else .ok none
  | none => .ok none

/-- Drops a key that is stale. -/
def dropStale (c : Cursor) : Option PendingKey → Reading (Option PendingKey)
  | some k => if k.isStale c then drop (some k) else .ok (some k)
  | none => .ok none

end PendingKey

/-- How far a scan has come. -/
structure Scan where
  cursor : Cursor
  /-- The tokens so far, the last one first. -/
  tokens : List Token
  /-- The number of tokens so far. -/
  count : Nat
  /-- The column of the innermost block; it is -1 outside all blocks. -/
  indent : Int
  /-- The columns of the blocks around it. -/
  outer : List Int
  /-- The brackets around the cursor, innermost first, each with the key pending outside it. -/
  brackets : List (Bracket × Option PendingKey)
  /-- The key pending inside the innermost bracket. -/
  pending : Option PendingKey
  /-- Whether a key may begin here. -/
  keyAllowed : Bool
  /-- The version whose rules apply here. -/
  version : Version
  /-- The version that a directive has named for the next document. -/
  declared : Option Version

namespace Scan

/-- The scan of a text by the rules of a version, before its first token. -/
def start (v : Version) (text : List Char) : Scan :=
  ⟨.start text, [], 0, -1, [], [], none, true, v, none⟩

/-- Whether the cursor is inside brackets. -/
def inFlow (s : Scan) : Bool :=
  !s.brackets.isEmpty

/-- The scan with a token behind the others. -/
def push (s : Scan) (t : Token) : Scan :=
  { s with tokens := t :: s.tokens, count := s.count + 1 }

/-- The scan with a token in front of the token with a number. -/
def insert (s : Scan) (position : Nat) (t : Token) : Scan :=
  let n := s.count - position
  { s with tokens := s.tokens.take n ++ t :: s.tokens.drop n, count := s.count + 1 }

/-- The scan with a token of `n` characters behind the others. -/
def take (s : Scan) (t : Token) (n : Nat) : Scan :=
  { s.push t with cursor := s.cursor.advanceBy n }

/-- Drops the key pending on this level. -/
def dropKey (s : Scan) : Reading Scan := do
  return { s with pending := ← PendingKey.drop s.pending }

/-- Drops the stale keys of all levels. -/
def dropStale (s : Scan) : Reading Scan := do
  let brackets ← s.brackets.mapM fun (b, k) => do return (b, ← PendingKey.dropStale s.cursor k)
  return { s with brackets, pending := ← PendingKey.dropStale s.cursor s.pending }

/-- Remembers that the next token may be a key, if a key may begin here. -/
def rememberKey (s : Scan) : Reading Scan := do
  if s.keyAllowed then
    let s ← s.dropKey
    let c := s.cursor
    return { s with
      pending := some
        ⟨s.count, !s.inFlow && s.indent = (c.column : Int), c.index, c.line, c.column⟩ }
  else return s

/-- The number of the first token that may still turn out to be a key. -/
def firstPending? (s : Scan) : Option Nat :=
  (s.pending :: s.brackets.map (·.2)).filterMap id |>.map (·.position) |>.min?

/-- Whether the last token is a value mark that still waits behind a pending key. -/
def waitsBehindValue (s : Scan) : Bool :=
  match s.firstPending? with
  | some n => n < s.count && (match s.tokens with
    | .value :: _ => true
    | _ => false)
  | none => false

/-- Closes the blocks that are indented deeper than a column. -/
def closeBlocks (column : Int) : (outer : List Int) → Scan → Scan
  | [], s => s
  | o :: rest, s =>
    if s.indent > column then closeBlocks column rest { s.push .blockEnd with indent := o, outer := rest }
    else s

/-- Closes the blocks that end at a column. Inside brackets the indentation is free. -/
def unindent (s : Scan) (column : Int) : Scan :=
  if s.inFlow then s else closeBlocks column s.outer s

/-- Opens a block at a column, if it is deeper than the block around it. -/
def openBlock? (s : Scan) (column : Nat) : Option Scan :=
  if s.indent < column then some { s with indent := column, outer := s.indent :: s.outer } else none

/-- Opens a block at the cursor, if it is deeper than the block around it. -/
def openBlock (s : Scan) (t : Token) : Scan :=
  match s.openBlock? s.cursor.column with
  | some s => s.push t
  | none => s

/-- Goes over spaces, comments and line ends. -/
def skipToToken : (fuel : Nat) → Scan → Scan
  | 0, s => s
  | fuel + 1, s =>
    let c := s.cursor.skip fun x => x = ' ' || (s.inFlow && x = '\t')
    let c := if c.head = '#' then c.skip (!endsLine ·) else c
    match c.lineEnd? with
    | some (_, c) => skipToToken fuel { s with cursor := c, keyAllowed := s.keyAllowed || !s.inFlow }
    | none => { s with cursor := c }

/-- Ends all blocks in front of a directive or a separator. -/
def leaveDocument (s : Scan) : Reading Scan := do
  let s ← (s.unindent (-1)).dropKey
  return { s with keyAllowed := false }

/-- A directive. -/
def scanDirective (s : Scan) : Reading Scan := do
  let s ← s.leaveDocument
  let (d, c) ← directive s.version s.cursor
  let declared := match d with
    | .version v => some v
    | _ => s.declared
  return { s.push (.directive d) with cursor := c, declared }

/-- A document start. From here on the rules of the version that was named for the document apply. -/
def scanStart (s : Scan) : Reading Scan := do
  return { (← s.leaveDocument).take .documentStart 3 with
    version := s.declared.getD .standard, declared := none }

/-- A document end. -/
def scanEnd (s : Scan) : Reading Scan := do
  let s ← s.leaveDocument
  let behind := skipToToken (s.cursor.size + 1) { s with cursor := s.cursor.advanceBy 3 }
  let alone := behind.cursor.rest.isEmpty || behind.cursor.line ≠ s.cursor.line
  return s.take (.documentEnd alone) 3

/-- An opening bracket. -/
def scanOpening (s : Scan) (b : Bracket) : Reading Scan := do
  let s ← s.rememberKey
  return { s.take (.opening b) 1 with
    brackets := (b, s.pending) :: s.brackets, pending := none, keyAllowed := true }

/-- A closing bracket. Whether it closes one is for the reader of the tokens to see. -/
def scanClosing (s : Scan) (b : Bracket) : Reading Scan := do
  let s ← s.dropKey
  let s := match s.brackets with
    | [] => s
    | (_, k) :: rest => { s with brackets := rest, pending := k }
  return { s.take (.closing b) 1 with keyAllowed := false }

/-- A comma between the entries of a flow. -/
def scanComma (s : Scan) : Reading Scan := do
  let s ← s.dropKey
  return { s.take .comma 1 with keyAllowed := true }

/-- The dash in front of an item. -/
def scanDash (s : Scan) : Reading Scan := do
  require (s.inFlow || s.keyAllowed)
  let s := if s.inFlow then s else s.openBlock .sequenceStart
  let s ← s.dropKey
  return { s.take .dash 1 with keyAllowed := true }

/-- The question mark in front of a key. -/
def scanKey (s : Scan) : Reading Scan := do
  require (s.inFlow || s.keyAllowed)
  let s := if s.inFlow then s else s.openBlock .mappingStart
  let s ← s.dropKey
  return { s.take .key 1 with keyAllowed := !s.inFlow }

/-- Puts a key mark in front of a token that turned out to be a key. -/
def markKey (s : Scan) (k : PendingKey) : Scan :=
  let s := { s.insert k.position .key with pending := none, keyAllowed := false }
  if s.inFlow then s
  else match s.openBlock? k.column with
    | some s => s.insert k.position .mappingStart
    | none => s

/-- The colon in front of a value. -/
def scanValue (s : Scan) : Reading Scan := do
  match s.pending with
  | some k => return (s.markKey k).take .value 1
  | none =>
    require (s.inFlow || s.keyAllowed)
    let s := if s.inFlow then s else s.openBlock .mappingStart
    return { s.take .value 1 with keyAllowed := !s.inFlow }

/-- An alias, an anchor or a tag. -/
def scanName (s : Scan) : Reading Scan := do
  let s ← s.rememberKey
  let (t, c) ← (if s.cursor.head = '*' then do
      let (name, c) ← anchorName s.cursor
      return (.reference name, c)
    else if s.cursor.head = '&' then do
      let (name, c) ← anchorName s.cursor
      return (.anchor name, c)
    else tagToken s.version s.cursor : Reading (Token × Cursor))
  return { s.push t with cursor := c, keyAllowed := false }

/-- A block text. -/
def scanBlock (s : Scan) : Reading Scan := do
  let s ← s.dropKey
  let (text, c) ← blockText s.indent s.cursor
  return { s.push (.scalar text false) with cursor := c, keyAllowed := true }

/-- A quoted text. -/
def scanQuoted (s : Scan) : Reading Scan := do
  let s ← s.rememberKey
  let (text, c) ← quotedText s.cursor
  return { s.push (.scalar text false) with cursor := c, keyAllowed := false }

/-- A plain text. -/
def scanPlain (s : Scan) : Reading Scan := do
  let s ← s.rememberKey
  let t ← plainText ⟨s.inFlow, s.indent + 1, s.version.isOlder⟩ s.cursor
  return { s.push (.scalar (.ofChars t.text) true) with
    cursor := t.cursor, keyAllowed := t.overLine }

/-- Whether a colon at the cursor is a value mark; `waiting` says that a value mark still waits behind a
pending key. -/
def isValueMark (s : Scan) (waiting : Bool) : Bool :=
  let ended := endsWord (s.cursor.peek 1)
  match s.brackets with
  | [] => ended
  | (b, _) :: _ => s.version.isOlder || ended || !(b = .square || waiting)

/-- Whether a plain text begins at the cursor. -/
def isPlainStart (s : Scan) : Bool :=
  let c := s.cursor.head
  let next := s.cursor.peek 1
  !(endsHeader c || "\t-?:,[]\x7b\x7d#&*!|>'\"%@\x60".toList.contains c) ||
    (!endsWord next && (c = '-' || (!s.inFlow && (c = '?' || c = ':')))) ||
    (c = ':' && s.inFlow && !s.version.isOlder && !isGap next)

/-- One token, or several when blocks begin or end, and whether more may follow. -/
def next (s : Scan) : Reading (Scan × Bool) := do
  let waiting := s.waitsBehindValue
  let s ← (skipToToken (s.cursor.size + 1) s).dropStale
  let s := s.unindent s.cursor.column
  let c := s.cursor
  let more (r : Reading Scan) : Reading (Scan × Bool) := r.map (·, true)
  if c.rest.isEmpty then return (← s.leaveDocument, false)
  else if c.head = '%' ∧ c.column = 0 then more s.scanDirective
  else if c.column = 0 ∧ c.isAtMarker ['-', '-', '-'] then more s.scanStart
  else if c.column = 0 ∧ c.isAtMarker ['.', '.', '.'] then more s.scanEnd
  else if c.head = '[' then more (s.scanOpening .square)
  else if c.head = '\x7b' then more (s.scanOpening .curly)
  else if c.head = ']' then more (s.scanClosing .square)
  else if c.head = '\x7d' then more (s.scanClosing .curly)
  else if c.head = ',' then more s.scanComma
  else if c.head = '-' ∧ endsWord (c.peek 1) then more s.scanDash
  else if c.head = '?' ∧ (s.inFlow ∨ endsWord (c.peek 1)) then more s.scanKey
  else if c.head = ':' ∧ s.isValueMark waiting then more s.scanValue
  else if c.head = '*' ∨ c.head = '&' ∨ c.head = '!' then more s.scanName
  else if (c.head = '|' ∨ c.head = '>') ∧ !s.inFlow then more s.scanBlock
  else if c.head = '\'' ∨ c.head = '"' then more s.scanQuoted
  else if s.isPlainStart then more s.scanPlain
  else malformed

/-- The number of tokens that nothing can be put in front of any more. -/
def settled (s : Scan) : Nat :=
  min s.count (s.firstPending?.getD s.count)

/-- The tokens that are settled. -/
def settledTokens (s : Scan) : List Token :=
  (s.tokens.drop (s.count - s.settled)).reverse

/-- Scans to the end of the text. The second part tells what is wrong with the text, if anything; then the
first part has the tokens that were settled before the last step. -/
def run : (fuel : Nat) → (before : Scan) → Scan → List Token × Option Trouble
  | 0, before, _ => (before.settledTokens, some .malformed)
  | fuel + 1, before, s =>
    match s.dropStale with
    | .error t => (before.settledTokens, some t)
    | .ok s =>
      match s.next with
      | .error t => (s.settledTokens, some t)
      | .ok (s', true) => run fuel s s'
      | .ok (s', false) => (s'.tokens.reverse, none)

end Scan

/-- The tokens of a text by the rules of a version, and what is wrong behind them, if anything. A mark of the
encoding in front of the text is passed over. -/
def scan (v : Version) (text : List Char) : List Token × Option Trouble :=
  if text.all isAllowed then
    let start := Scan.start v (if text.head? = some byteOrderMark then text.tail else text)
    Scan.run (text.length + 2) start start
  else ([], some .malformed)

end TaggedGrammar.Yaml
