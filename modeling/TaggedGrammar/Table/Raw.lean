import TaggedGrammar.Table.Shape

/-!
# Tables as they are written

The mapping that an author writes down for a typed table: sequences as lists, the names of hosts as
keys, and no entry for captures that are absent.
-/

namespace TaggedGrammar

/-- A list of texts. -/
def Value.ofTexts (texts : List Text) : Value :=
  .list (texts.map .str)

/-- A mapping with text keys. -/
def Value.ofFields (fields : List (Text × Value)) : Value :=
  .map (fields.map fun f => (.str f.1, f.2))

/-- A source as it is written. -/
def Source.raw : Source → Value
  | one scope => .str scope
  | many scopes => .ofTexts scopes

/-- A language as it is written. -/
def Language.raw (l : Language) : Value :=
  .ofFields [("name", .str l.name), ("identifiers", .ofTexts l.identifiers), ("source", l.source.raw)]

/-- Captures as they are written. -/
def Captures.raw (c : Captures) : Value :=
  .map (c.map fun e => (.int e.1, .str e.2))

/-- A region shape as it is written. -/
def Boundary.raw (b : Boundary) : Value :=
  let ending : List (Text × Value) := match b.closingCaptures with
    | none => []
    | some c => [("end_captures", c.raw)]
  .ofFields (("begin", .str b.opening) :: ("end", .str b.closing) ::
    ("begin_captures", b.openingCaptures.raw) :: ending)

/-- A host as it is written, without its name. -/
def Host.raw (h : Host) : Value :=
  .ofFields [("target_scopes", .ofTexts h.targetScopes), ("basic_grammar_pattern", h.tagged.raw),
    ("basic_grammar", h.dispatch.raw), ("substitution_include", .str h.substitution),
    ("string_scope", .str h.stringScope)]

namespace Table

/-- A language table as it is written. -/
def rawLanguages (languages : List Language) : List (Value × Value) :=
  [(.str "languages", .list (languages.map Language.raw))]

/-- A host table as it is written. -/
def rawHosts (hosts : List Host) : List (Value × Value) :=
  [(.str "hosts", .map (hosts.map fun h => (.str h.name, h.raw)))]

end Table

end TaggedGrammar
