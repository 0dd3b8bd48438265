import TaggedGrammar.Yaml.Token

/-!
# Names of anchors, tags and directives
-/

namespace TaggedGrammar.Yaml

/-- A character that the name of an anchor may hold. -/
def isAnchorChar (c : Char) : Bool :=
  let n := c.toNat
  !([',', '[', ']', '\x7b', '\x7d'].contains c) &&
    ((0x21 ≤ n && n ≤ 0x7E) || (0xA0 ≤ n && c ≠ byteOrderMark && isAllowed c))

/-- The name of an anchor or an alias; the position is at its mark. -/
def anchorName (c : Cursor) : Reading (String × Cursor) := do
  let (name, rest) := c.advance.span isAnchorChar
  require (!name.isEmpty)
  require (endsHeader rest.head ||
    ['\t', '?', ':', ',', '[', ']', '\x7b', '\x7d', '%', '@', '\x60'].contains rest.head)
  return (String.ofList name, rest)

/-- A character that a tag may hold as it is. -/
def isTagChar (v : Version) (c : Char) : Bool :=
  isWordChar c || "-;/?:@&=+$,_.!~*'()[]%".toList.contains c || (c = '#' && !v.isOlder)

/-- A run of bytes, each written as a percent sign and two hexadecimal digits. -/
def escapedBytes : List Char → Reading (List UInt8)
  | [] => .ok []
  | '%' :: a :: b :: rest =>
    match hexNumber? [a, b] with
    | some n => do return n.toUInt8 :: (← escapedBytes rest)
    | none => malformed
  | _ => malformed

/-- The number of characters that a run of escaped bytes at the front takes. -/
def escapeLength : List Char → Nat
  | '%' :: _ :: _ :: rest => escapeLength rest + 3
  | '%' :: rest => rest.length + 1
  | _ => 0

/-- The text that the characters of a tag stand for. -/
def tagText : (fuel : Nat) → List Char → Reading (List Char)
  | 0, _ => malformed
  | _ + 1, [] => .ok []
  | fuel + 1, c :: rest =>
    if c = '%' then do
      let n := escapeLength (c :: rest)
      let bytes ← escapedBytes ((c :: rest).take n)
      match String.fromUTF8? (ByteArray.mk bytes.toArray) with
      | some s => return s.toList ++ (← tagText fuel ((c :: rest).drop n))
      | none => malformed
    else do return c :: (← tagText fuel rest)

/-- The address part of a tag; it is not empty. -/
def tagAddress (v : Version) (c : Cursor) : Reading (String × Cursor) := do
  let (run, rest) := c.span (isTagChar v)
  require (!run.isEmpty)
  return (String.ofList (← tagText (run.length + 1) run), rest)

/-- The handle of a tag: a word between exclamation marks, or one exclamation mark before a space. -/
def tagHandle (c : Cursor) : Reading (String × Cursor) := do
  require (c.head = '!')
  if c.peek 1 = ' ' then return ("!", c.advance)
  let (word, rest) := c.advance.span fun x => isWordChar x || x = '-' || x = '_'
  require (rest.head = '!')
  return (String.ofList ('!' :: word ++ ['!']), rest.advance)

/-- Whether an exclamation mark occurs before the word at the front ends. -/
def hasSecondMark : List Char → Bool
  | [] => false
  | c :: rest => if endsHeader c then false else c = '!' || hasSecondMark rest

/-- A tag; the position is at its exclamation mark. One with two marks in front is read from the second
mark on. -/
def tagToken (v : Version) (c : Cursor) : Reading (Token × Cursor) := do
  let (marks, c) := if c.peek 1 = '!' then ("!!", c.advance) else ("!", c)
  let (token, rest) ← (if c.peek 1 = '<' then do
      let (address, rest) ← tagAddress v (c.advanceBy 2)
      require (rest.head = '>')
      return (Token.tag none address, rest.advance)
    else if endsWord (c.peek 1) then return (Token.tag none marks, c.advance)
    else do
      let (handle, rest) ←
        if hasSecondMark c.advance.rest then tagHandle c else .ok (marks, c.advance)
      let (suffix, rest) ← tagAddress v rest
      return (Token.tag (some handle) suffix, rest) : Reading (Token × Cursor))
  require (endsHeader rest.head)
  return (token, rest)

/-- A number of a version. -/
def versionNumber (c : Cursor) : Reading (Nat × Cursor) := do
  let (digits, rest) := c.span isDecimal
  require (!digits.isEmpty)
  return (digits.foldl (fun n d => n * 10 + (d.toNat - '0'.toNat)) 0, rest)

/-- The version that a directive names. -/
def versionDirective (c : Cursor) : Reading (Directive × Cursor) := do
  let (major, c) ← versionNumber (c.skip (· = ' '))
  require (c.head = '.')
  let (minor, c) ← versionNumber c.advance
  require (endsHeader c.head)
  return (.version ⟨major, minor⟩, c)

/-- The handle that a directive declares. -/
def handleDirective (v : Version) (c : Cursor) : Reading (Directive × Cursor) := do
  let (name, c) ← tagHandle (c.skip (· = ' '))
  require (c.head = ' ')
  let (start, c) ← tagAddress v (c.skip (· = ' '))
  require (endsHeader c.head)
  return (.handle name start, c)

/-- A directive with its line; the position is at its percent sign. -/
def directive (v : Version) (c : Cursor) : Reading (Directive × Cursor) := do
  let (name, c) := c.advance.span fun x => isWordChar x || ['-', '_', ':', '.'].contains x
  require (!name.isEmpty)
  require (endsHeader c.head)
  let (d, c) ← (match String.ofList name with
    | "YAML" => versionDirective c
    | "TAG" => handleDirective v c
    | _ => return (.other, c.skip (!endsLine ·)) : Reading (Directive × Cursor))
  return (d, ← c.finishLine)

end TaggedGrammar.Yaml
