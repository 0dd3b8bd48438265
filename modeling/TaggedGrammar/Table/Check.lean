import TaggedGrammar.Fault
import TaggedGrammar.Pattern
import TaggedGrammar.Table.Basic
import TaggedGrammar.Text.Class

/-!
# Checking tables

Conditions on the tables beyond their shape. The first entry with a problem is reported, with its first
problem in a fixed order.
-/

namespace TaggedGrammar

namespace Table

/-- A problem at a place. -/
def reject (path : List Text) (problem : TableProblem) : Except TableError Unit :=
  .error ⟨path, problem⟩

/-- Checks that no alias is blank; `j` is the index of the first of them. -/
def checkAliases (path : List Text) : (j : Nat) → List Text → Except TableError Unit
  | _, [] => .ok ()
  | j, a :: rest =>
    if Text.isBlank a then reject (path ++ [Text.ofString "identifiers", Text.ofNat j]) .blankAlias
    else checkAliases path (j + 1) rest

/-- Checks one language, given the names before it with their indices. -/
def checkLanguage (seen : List (Text × Nat)) (i : Nat) (l : Language) :
    Except TableError Unit :=
  let path : List Text := ["languages", toString i]
  if Text.isBlank l.name then reject (path ++ [Text.ofString "name"]) .empty
  else
    match seen.lookup l.name with
    | some first => reject (path ++ [Text.ofString "name"]) (.duplicateName l.name first)
    | none =>
      if l.identifiers.isEmpty then reject (path ++ [Text.ofString "identifiers"]) .empty
      else
        match checkAliases path 0 l.identifiers with
        | .error e => .error e
        | .ok () =>
          if l.sources.isEmpty || l.sources.any Text.isBlank then
            reject (path ++ [Text.ofString "source"]) .emptyScope
          else .ok ()

/-- Checks languages from an index on, given the names before it. -/
def checkLanguagesFrom (seen : List (Text × Nat)) :
    (i : Nat) → List Language → Except TableError Unit
  | _, [] => .ok ()
  | i, l :: rest =>
    match checkLanguage seen i l with
    | .error e => .error e
    | .ok () => checkLanguagesFrom (seen ++ [(l.name, i)]) (i + 1) rest

/-- Checks the language table: there is a language, no name is blank or repeated, every language has
aliases and scopes, and none of these is blank. -/
def checkLanguages (languages : List Language) : Except TableError Unit :=
  if languages.isEmpty then reject ["languages"] .noLanguages
  else checkLanguagesFrom [] 0 languages

/-- Checks a region shape: it has a slot for the aliases and an end. -/
def checkBoundary (path : List Text) (b : Boundary) : Except TableError Unit :=
  if !Pattern.hasSlot b.opening then reject (path ++ [Text.ofString "begin"]) .missingSlot
  else if b.closing.isEmpty then reject (path ++ [Text.ofString "end"]) .empty
  else .ok ()

/-- Whether two points stand side by side. -/
def hasTwoPoints : Text → Bool
  | .char '.' :: .char '.' :: _ => true
  | _ :: rest => hasTwoPoints rest
  | [] => false

/-- Whether a name cannot be a part of a file name that stays in its directory. -/
def isUnsafeName (name : Text) : Bool :=
  name.contains (.char '/') || name.contains (.char '\\') || hasTwoPoints name

/-- Checks one host. -/
def checkHost (h : Host) : Except TableError Unit :=
  let path : List Text := ["hosts", h.name]
  if Text.isBlank h.name then reject path .emptyHostName
  else if isUnsafeName h.name then reject path .unsafeHostName
  else if h.targetScopes.isEmpty then reject (path ++ [Text.ofString "target_scopes"]) .empty
  else
    match checkBoundary (path ++ [Text.ofString "basic_grammar_pattern"]) h.tagged with
    | .error e => .error e
    | .ok () => checkBoundary (path ++ [Text.ofString "basic_grammar"]) h.dispatch

/-- Checks hosts one after the other. -/
def checkEachHost : List Host → Except TableError Unit
  | [] => .ok ()
  | h :: rest =>
    match checkHost h with
    | .error e => .error e
    | .ok () => checkEachHost rest

/-- Checks the host table: there is a host, its name can be part of a file name, it has target scopes,
and both of its regions have a slot and an end. -/
def checkHosts (hosts : List Host) : Except TableError Unit :=
  if hosts.isEmpty then reject ["hosts"] .noHosts else checkEachHost hosts

end Table

end TaggedGrammar
