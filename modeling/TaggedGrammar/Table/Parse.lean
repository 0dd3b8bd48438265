import TaggedGrammar.Hint.Coerce
import TaggedGrammar.Table.Check
import TaggedGrammar.Table.Shape

/-!
# Parsing tables

From the mapping that a table file holds to a typed and checked table.
-/

namespace TaggedGrammar

namespace Table

/-- The result of a check as an outcome. -/
def checked (r : Except TableError Unit) : Outcome Unit :=
  match r with
  | .ok () => .ok ()
  | .error e => .fail (.table e)

/-- Builds the language of one item. -/
def buildLanguage (item : Value) (i : Nat) : Outcome Language := do
  let path : List Text := ["languages", toString i]
  let v ← Shape.language.build item path
  Outcome.ofOption (.inTable path (.expectedRecord Shape.language.builtName v.kind))
    (Language.ofValue? v)

/-- Builds the languages of the items from an index on. -/
def buildLanguages : (i : Nat) → List Value → Outcome (List Language)
  | _, [] => .ok []
  | i, item :: rest => do
    let l ← buildLanguage item i
    let ls ← buildLanguages (i + 1) rest
    return l :: ls

/-- The language table that a mapping describes: its one key holds the list of the languages. -/
def parseLanguages (raw : List (Value × Value)) : Outcome (List Language) :=
  match Value.field? "languages" raw with
  | some (.list items) => do
    Hint.checkKeys ["languages"] raw []
    let languages ← buildLanguages 0 items
    checked (checkLanguages languages)
    return languages
  | _ => .fail (.inTable ["languages"] .noLanguageList)

/-- Builds the host of one entry: the key is its name, and the value the rest of it. -/
def buildHost (name body : Value) : Outcome Host := do
  let step ← Outcome.ofOption .tooManyDigits name.text?
  let path : List Text := ["hosts", step]
  match body with
  | .map entries | .ordered entries =>
    if (Value.field? "name" entries).isSome then .fail (.inTable (path ++ [Text.ofString "name"]) .nameInBody)
    else
      let v ← Shape.host.build (.map ((.str "name", name) :: entries)) path
      Outcome.ofOption (.inTable path (.expectedRecord Shape.host.builtName v.kind))
        (Host.ofValue? v)
  | _ => .fail (.inTable path (.expected "mapping" body.kind))

/-- Builds the hosts of the entries one after the other. -/
def buildHosts : List (Value × Value) → Outcome (List Host)
  | [] => .ok []
  | (name, body) :: rest => do
    let h ← buildHost name body
    let hs ← buildHosts rest
    return h :: hs

/-- The host table that a mapping describes: its one key holds a mapping from names to hosts. -/
def parseHosts (raw : List (Value × Value)) : Outcome (List Host) :=
  match Value.field? "hosts" raw with
  | some (.map entries) | some (.ordered entries) => do
    Hint.checkKeys ["hosts"] raw []
    let hosts ← buildHosts entries
    checked (checkHosts hosts)
    return hosts
  | _ => .fail (.inTable ["hosts"] .noHostMapping)

end Table

end TaggedGrammar
