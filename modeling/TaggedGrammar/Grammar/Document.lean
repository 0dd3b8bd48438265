import TaggedGrammar.Json.Writer
import TaggedGrammar.Table.Raw

/-!
# Grammar documents

The grammars as data, and the JSON documents that editors read. The keys of a document have a fixed
order, and what is absent has no key.
-/

namespace TaggedGrammar.Grammar

/-- A rule inside a region: another grammar, or a regular expression. -/
inductive Rule where
  | include (scope : Text)
  | matching (regexp : Text)
  deriving DecidableEq, Repr

/-- The scopes of groups, by group number as text. -/
abbrev GroupScopes := List (Text × Text)

/-- A region with a begin and an end. The outer region of a grammar has no names. -/
structure Region where
  name : Option Text := none
  contentName : Option Text := none
  opening : Text
  openingCaptures : GroupScopes
  closing : Text
  closingCaptures : Option GroupScopes
  rules : List Rule
  deriving DecidableEq, Repr

/-- The basic grammar of a host: an outer region that leads to the named rules. -/
structure Basic where
  selector : Text
  outer : Region
  repository : List (Text × Region)
  scope : Text
  deriving DecidableEq, Repr

/-- The reinjection grammar of a host: the host's substitutions inside the embedded regions. -/
structure Reinjection where
  selector : Text
  rule : Rule
  scope : Text
  deriving DecidableEq, Repr

/-- A rule as a document. -/
def Rule.document : Rule → Value
  | .include scope => .ofFields [("include", .str scope)]
  | matching regexp => .ofFields [("match", .str regexp)]

/-- The scopes of groups as a document. -/
def groupDocument (scopes : GroupScopes) : Value :=
  .ofFields (scopes.map fun e => (e.1, .ofFields [("name", .str e.2)]))

/-- An entry by itself. -/
def entry (key : Text) (v : Value) : List (Text × Value) :=
  [(key, v)]

/-- An entry for a value that may be absent. -/
def entryIfSome {α : Type} (key : Text) (f : α → Value) : Option α → List (Text × Value)
  | none => []
  | some a => entry key (f a)

/-- A region as a document. -/
def Region.document (r : Region) : Value :=
  .ofFields (entryIfSome "name" .str r.name ++ entryIfSome "contentName" .str r.contentName ++
    entry "begin" (.str r.opening) ++ entry "beginCaptures" (groupDocument r.openingCaptures) ++
    entry "end" (.str r.closing) ++ entryIfSome "endCaptures" groupDocument r.closingCaptures ++
    entry "patterns" (.list (r.rules.map Rule.document)))

/-- A basic grammar as a document. -/
def Basic.document (g : Basic) : Value :=
  .ofFields [("fileTypes", .list []), ("injectionSelector", .str g.selector),
    ("patterns", .list [g.outer.document]),
    ("repository", .ofFields (g.repository.map fun e => (e.1, e.2.document))),
    ("scopeName", .str g.scope)]

/-- A reinjection grammar as a document. -/
def Reinjection.document (g : Reinjection) : Value :=
  .ofFields [("fileTypes", .list []), ("injectionSelector", .str g.selector),
    ("patterns", .list [g.rule.document]), ("scopeName", .str g.scope)]

/-- The text of a basic grammar. -/
def Basic.render (g : Basic) : Text :=
  Json.document g.document

/-- The text of a reinjection grammar. -/
def Reinjection.render (g : Reinjection) : Text :=
  Json.document g.document

end TaggedGrammar.Grammar
