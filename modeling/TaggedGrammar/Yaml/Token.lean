import TaggedGrammar.Yaml.Cursor

/-!
# Tokens

The marks and texts that a table text is made of. Where a block begins or ends by indentation alone, a
token says so.
-/

namespace TaggedGrammar.Yaml

/-- A version of the language. -/
structure Version where
  major : Nat
  minor : Nat
  deriving DecidableEq

namespace Version

/-- The version that applies when a text names none. -/
def standard : Version := ⟨1, 2⟩

/-- Whether the older rules of the language apply. -/
def isOlder (v : Version) : Bool :=
  v = ⟨1, 1⟩

/-- Whether the rules of a version are known. -/
def isKnown (v : Version) : Bool :=
  v = standard || v.isOlder

end Version

/-- A directive in front of a document. -/
inductive Directive where
  /-- The text follows the rules of a version. -/
  | version (v : Version)
  /-- Tags with a handle begin with a text. -/
  | handle (name start : String)
  /-- A directive without meaning here. -/
  | other

/-- The two kinds of brackets. -/
inductive Bracket where
  | square
  | curly
  deriving DecidableEq

/-- A token of a text. -/
inductive Token where
  | directive (d : Directive)
  | documentStart
  /-- A document end, and whether nothing else is on its line. -/
  | documentEnd (alone : Bool)
  /-- A sequence begins by its indentation. -/
  | sequenceStart
  /-- A mapping begins by its indentation. -/
  | mappingStart
  /-- A block ends by the indentation of the next line. -/
  | blockEnd
  | opening (b : Bracket)
  | closing (b : Bracket)
  | comma
  | dash
  | key
  | value
  | reference (name : String)
  | anchor (name : String)
  /-- A tag with its handle, if it has one. -/
  | tag (handle : Option String) (suffix : String)
  /-- A text, and whether it is written without quotes. -/
  | scalar (text : Text) (plain : Bool)

end TaggedGrammar.Yaml
