import TaggedGrammar.Yaml.Cursor

/-!
# Quoted texts

A text in single quotes has one rule, that a doubled quote stands for a quote. A text in double quotes
has escapes. Both fold the line ends inside them.
-/

namespace TaggedGrammar.Yaml

/-- The characters that a backslash and one character stand for. -/
def simpleEscape? : Char → Option Char
  | '0' => some '\x00'
  | 'a' => some '\x07'
  | 'b' => some '\x08'
  | 't' | '\t' => some '\t'
  | 'n' => some '\n'
  | 'v' => some '\x0b'
  | 'f' => some '\x0c'
  | 'r' => some '\r'
  | 'e' => some '\x1b'
  | ' ' => some ' '
  | '"' => some '"'
  | '/' => some '/'
  | '\\' => some '\\'
  | 'N' => some '\x85'
  | '_' => some '\xa0'
  | 'L' => some '\u2028'
  | 'P' => some '\u2029'
  | _ => none

/-- The number of hexadecimal digits that follow an escape by code. -/
def codeLength? : Char → Option Nat
  | 'x' => some 2
  | 'u' => some 4
  | 'U' => some 8
  | _ => none

/-- The letter with a code. A code that has no letter is one fault up to 31 bits, and another one beyond. -/
def letterOfCode (code : Nat) : Except Defect Letter :=
  if code ≤ 0x10FFFF then .ok (.ofCode code)
  else if code < 0x80000000 then .error (.badScalar "chr() arg not in range(0x110000)")
  else .error .codeTooLarge

/-- The empty lines after a line end inside quotes. A document separator must not start a line. -/
def quotedBreaks : (fuel : Nat) → Cursor → Reading (List Char × Cursor)
  | 0, _ => malformed
  | fuel + 1, c => do
    require (!c.isAtSeparator)
    let c := c.skip isGap
    match c.lineEnd? with
    | none => return ([], c)
    | some (b, c) =>
      let (bs, c) ← quotedBreaks fuel c
      return (b :: bs, c)

/-- What an escape stands for; the position is behind the backslash. -/
def escaped (c : Cursor) : Reading (Text × Cursor) :=
  match simpleEscape? c.head, codeLength? c.head, c.lineEnd? with
  | some x, _, _ => .ok ([.char x], c.advance)
  | none, some n, _ => do
    let c := c.advance
    let digits := c.rest.take n
    require (digits.length = n)
    match hexNumber? digits with
    | none => malformed
    | some code =>
      let letter ← (letterOfCode code).mapError .unusable
      return ([letter], c.advanceBy n)
  | none, none, some (_, c) => do
    let (bs, c) ← quotedBreaks (c.size + 1) c
    return (.ofChars bs, c)
  | none, none, none => malformed

/-- The rest of a quoted text up to the closing quote. -/
def quotedRest (double : Bool) : (fuel : Nat) → Cursor → Reading (Text × Cursor)
  | 0, _ => malformed
  | fuel + 1, c =>
    let continueWith (part : Text) (c : Cursor) : Reading (Text × Cursor) := do
      let (more, c) ← quotedRest double fuel c
      return (part ++ more, c)
    if c.head = endMark then malformed
    else if c.head = '"' ∧ double then .ok ([], c.advance)
    else if c.head = '\'' ∧ !double then
      if c.peek 1 = '\'' then continueWith [.char '\''] (c.advanceBy 2) else .ok ([], c.advance)
    else if c.head = '\\' ∧ double then do
      let (part, c) ← escaped c.advance
      continueWith part c
    else if isGap c.head ∨ isBreak c.head then do
      let (gaps, c) := c.span isGap
      match c.lineEnd? with
      | some (b, c) =>
        let (bs, c) ← quotedBreaks (c.size + 1) c
        continueWith (.ofChars (folded b bs)) c
      | none => continueWith (.ofChars gaps) c
    else continueWith [.char c.head] c.advance

/-- A quoted text; the position is at its opening quote. -/
def quotedText (c : Cursor) : Reading (Text × Cursor) :=
  quotedRest (c.head = '"') (c.size + 1) c.advance

end TaggedGrammar.Yaml
