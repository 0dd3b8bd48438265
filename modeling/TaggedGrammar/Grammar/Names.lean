import TaggedGrammar.Table.Basic

/-!
# Names and selectors

The names of files, scopes and rules that the grammars of a host are made of, and where these grammars are
active.
-/

namespace TaggedGrammar

/-- The file of a host's basic grammar. -/
def grammarFile (host : Text) : Text :=
  "grammar-" ++ host ++ ".json"

/-- The file of a host's reinjection grammar. -/
def reinjectionFile (host : Text) : Text :=
  "reinject-grammar-" ++ host ++ ".json"

namespace Grammar

/-- The scope of a host's basic grammar. -/
def basicScope (host : Host) : Text :=
  "inline." ++ host.name ++ ".template-tagged-languages"

/-- The scope of a host's reinjection grammar. -/
def reinjectionScope (host : Host) : Text :=
  basicScope host ++ ".reinjection"

/-- The name of a language's rule. -/
def ruleKey (language : Language) : Text :=
  "commentTaggedTemplate-" ++ language.name

/-- The scope of the region that holds the embedded code. -/
def embeddedScope (language : Language) : Text :=
  "meta.embedded.block." ++ language.name

/-- The scope of the whole tagged template. -/
def templateScope (host : Host) (language : Language) : Text :=
  host.stringScope ++ ".taggedTemplate.commentTaggedTemplate." ++ language.name

/-- The basic grammar is active in each target scope outside comments, and outside strings that are not
part of an embedded region. -/
def basicSelector (scopes : List Text) : Text :=
  Text.join ", " (scopes.map fun s => "L:" ++ s ++ " -comment -(string - meta.embedded)")

/-- The reinjection grammar is active in each target scope inside the embedded regions only. -/
def reinjectionSelector (scopes : List Text) (languages : List Language) : Text :=
  let regions := Text.join ", " (languages.map embeddedScope)
  Text.join ", " (scopes.map fun s => "L:" ++ s ++ " (" ++ regions ++ ")")

end Grammar

end TaggedGrammar
