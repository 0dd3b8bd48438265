import TaggedGrammar.Grammar.Build
import TaggedGrammar.Table.Parse

/-!
# Generation

All documents of a run as texts, built in memory from the two tables before anything is written.
-/

namespace TaggedGrammar

/-- A document with the name of its file. -/
structure GeneratedFile where
  name : Text
  text : Text
  deriving DecidableEq, Repr

/-- The two documents of a host. -/
def hostFiles (host : Host) (languages : List Language) : Outcome (List GeneratedFile) := do
  let basic ← Grammar.buildBasic host languages
  return [⟨grammarFile host.name, basic.render⟩,
    ⟨reinjectionFile host.name, (Grammar.reinjection host languages).render⟩]

/-- The documents of all hosts, in table order. -/
def filesOfHosts (languages : List Language) : List Host → Outcome (List GeneratedFile)
  | [] => .ok []
  | h :: rest => do
    let files ← hostFiles h languages
    let others ← filesOfHosts languages rest
    return files ++ others

/-- A warning for each alias that several languages declare. -/
def aliasWarnings (languages : List Language) : List Notice :=
  (Grammar.sharedAliases languages).map fun e => .sharedAlias e.1 e.2

/-- Checks the tables, warns of shared aliases, and builds every document. -/
def generate (languages : List Language) (hosts : List Host) : Outcome (List GeneratedFile) := do
  Table.checked (Table.checkLanguages languages)
  Table.checked (Table.checkHosts hosts)
  (filesOfHosts languages hosts).after (aliasWarnings languages)

/-- The text of one document of one host. -/
def renderHost (tables : Tables) (name : Text) (reinjection : Bool) : Outcome Text :=
  match findHost? name tables.hosts with
  | none => .fail (.unknownHost name (tables.hosts.map Host.name))
  | some host =>
    if reinjection then .ok (Grammar.reinjection host tables.languages).render
    else (Grammar.buildBasic host tables.languages).andThen (.ok ∘ Grammar.Basic.render)

end TaggedGrammar
