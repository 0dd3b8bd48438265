import TaggedGrammar.Yaml.Cursor

/-!
# Plain texts

A plain text has no quotes. It ends where a comment, a value mark, a bracket of a flow or a line that is
indented too little begins. Its line ends are folded.
-/

namespace TaggedGrammar.Yaml

/-- What surrounds a plain text: whether it stands in a flow, the least column of its further lines, and
whether the older rules of the language apply, by which a question mark ends it in a flow. -/
structure PlainPlace where
  inFlow : Bool
  indent : Int
  older : Bool

namespace PlainPlace

/-- Whether a character, with the one after it, belongs to a plain text. -/
def continues (p : PlainPlace) (c next : Char) : Bool :=
  if c = ':' && !endsWord next then true
  else if c = '?' && !p.older then true
  else !(endsWord c || (!p.inFlow && c = ':') ||
    (p.inFlow && [',', ':', '?', '[', ']', '\x7b', '\x7d'].contains c))

/-- The number of characters at the front that belong to a plain text. -/
def length (p : PlainPlace) : List Char → Nat
  | [] => 0
  | c :: rest => if p.continues c (rest.headD endMark) then length p rest + 1 else 0

end PlainPlace

/-- The empty lines after a line end inside a plain text; `none` when a document separator follows. -/
def plainBreaks : (fuel : Nat) → Cursor → Option (List Char) × Cursor
  | 0, c => (none, c)
  | fuel + 1, c =>
    if c.isAtSeparator then (none, c)
    else
      let c := c.skip (· = ' ')
      match c.lineEnd? with
      | none => (some [], c)
      | some (b, c) =>
        let (bs, c) := plainBreaks fuel c
        (bs.map (b :: ·), c)

/-- What stands between two runs of a plain text. -/
structure PlainGap where
  /-- The text of the gap; empty when the plain text ends here. -/
  text : List Char
  /-- Whether the gap goes over a line end. -/
  overLine : Bool
  cursor : Cursor

/-- The gap after a run of a plain text. -/
def plainGap (c : Cursor) : PlainGap :=
  let (gaps, c) := c.span (· = ' ')
  match c.lineEnd? with
  | none => ⟨gaps, false, c⟩
  | some (b, c) =>
    let (bs, c) := plainBreaks (c.size + 1) c
    ⟨(bs.map (folded b)).getD [], true, c⟩

/-- A plain text that was read. -/
structure PlainText where
  text : List Char
  cursor : Cursor
  /-- Whether it ended after going over a line end, so that a key may follow. -/
  overLine : Bool

/-- The rest of a plain text after a gap. -/
def plainRest (p : PlainPlace) : (fuel : Nat) → (gap : PlainGap) → Reading PlainText
  | 0, _ => malformed
  | fuel + 1, gap => do
    let c := gap.cursor
    if c.head = '#' then return ⟨[], c, gap.overLine⟩
    let n := p.length c.rest
    if n = 0 then return ⟨[], c, gap.overLine⟩
    else
      let run := c.rest.take n
      let next := plainGap (c.advanceBy n)
      if next.text.isEmpty || next.cursor.head = '#' ||
          (!p.inFlow && (next.cursor.column : Int) < p.indent) then
        return ⟨gap.text ++ run, next.cursor, next.overLine⟩
      else
        let more ← plainRest p fuel next
        return ⟨gap.text ++ run ++ more.text, more.cursor, more.overLine⟩

/-- A plain text; the position is at its first character. -/
def plainText (p : PlainPlace) (c : Cursor) : Reading PlainText :=
  plainRest p (c.size + 1) ⟨[], false, c⟩

end TaggedGrammar.Yaml
