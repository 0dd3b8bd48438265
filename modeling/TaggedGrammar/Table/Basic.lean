import TaggedGrammar.Text.Basic

/-!
# Tables

A run reads two tables. The language table lists the languages that may stand inside a tagged template,
in order of precedence. The host table describes the languages whose comments tag such templates.
-/

namespace TaggedGrammar

/-- The scope, or the equivalent scopes, of an embedded grammar. -/
inductive Source where
  | one (scope : Text)
  | many (scopes : List Text)
  deriving DecidableEq, Repr

/-- The scopes of a source. -/
def Source.scopes : Source → List Text
  | one scope => [scope]
  | many scopes => scopes

/-- A language that may stand inside a tagged template. -/
structure Language where
  /-- The name that the language is known by in the tables and in the grammars. -/
  name : Text
  /-- The aliases that a tag may use, in any case. -/
  identifiers : List Text
  /-- The scopes of the grammar that highlights the language. -/
  source : Source
  deriving DecidableEq, Repr

/-- The scopes of the grammar that highlights a language. -/
def Language.sources (l : Language) : List Text :=
  l.source.scopes

/-- Scope names for the groups of a regular expression, in the order of the table. -/
abbrev Captures := List (Int × Text)

/-- Sets the scope of a group. A group that is there keeps its place. -/
def Captures.put (index : Int) (scope : Text) : Captures → Captures
  | [] => [(index, scope)]
  | (i, s) :: rest => if i = index then (i, scope) :: rest else (i, s) :: put index scope rest

/-- The captures that result from setting scopes one after the other. -/
def Captures.ofPairs (pairs : List (Int × Text)) : Captures :=
  pairs.foldl (fun m p => Captures.put p.1 p.2 m) []

/-- The shape of a region: where it begins and ends, and the scopes of the groups there. -/
structure Boundary where
  /-- A regular expression with slots for the aliases. -/
  opening : Text
  closing : Text
  openingCaptures : Captures
  closingCaptures : Option Captures := none
  deriving DecidableEq, Repr

/-- The rule that hosts include for substitutions unless their table says otherwise. -/
def defaultSubstitution : Text := "source.ts#template-substitution-element"

/-- The scope of template strings unless the host's table says otherwise. -/
def defaultStringScope : Text := "string.js"

/-- A language whose comments may tag a template. -/
structure Host where
  name : Text
  /-- The scopes that the grammars are injected into. -/
  targetScopes : List Text
  /-- The region of one embedded language, after the first character of its tag comment. -/
  tagged : Boundary
  /-- The region around all of them, which takes the first character and hands on the rest. -/
  dispatch : Boundary
  /-- The rule for substitutions inside a template. -/
  substitution : Text := defaultSubstitution
  /-- The scope of the template strings. -/
  stringScope : Text := defaultStringScope
  deriving DecidableEq, Repr

/-- All that a run reads. -/
structure Tables where
  languages : List Language
  hosts : List Host
  deriving DecidableEq, Repr

/-- The first host with a name. -/
def findHost? (name : Text) (hosts : List Host) : Option Host :=
  hosts.find? (·.name = name)

end TaggedGrammar
