import TaggedGrammar.Run
import TaggedGrammar.Table.Bundled
import TaggedGrammar.Table.Parse
import TaggedGrammar.Table.Raw
import TaggedGrammar.Yaml.Read

/-!
# Loading tables

A table comes from a file that the user names, or it is the bundled one, which goes the way of every table: it
is announced, parsed and checked.
-/

namespace TaggedGrammar

open Files

namespace Table

/-- The fault that trouble with the text of a table means. -/
def faultOf (origin : Text) : Yaml.Trouble → Fault
  | .malformed => .inTable [] (.invalidYaml origin)
  | .unusable d => .defect d

/-- The mapping that a value is for a table. A value without content is the empty mapping. -/
def mappingOf (origin : Text) : Value → Outcome (List (Value × Value))
  | .map entries | .ordered entries => .ok entries
  | v => if v.isEmpty then .ok [] else .fail (.inTable [] (.noMapping origin))

/-- Reads the text of a table. -/
def readValue (origin : Text) (text : List Char) : Run Value := do
  Run.note (.reading origin)
  match ← Run.reading (Yaml.read text) with
  | .ok v => return v
  | .error t => Run.fail (faultOf origin t)

/-- The text of a table file. -/
def readText (p : Files.Path) : Run (List Char) := do
  if ← Run.inspect (·.isFile p) then
    let bytes ← Run.inspect (·.contentAt p)
    Run.ofOutcome (.ofOption .notText (Text.ofBytes? bytes))
  else Run.fail (.inTable [] (.noTableFile p.text))

/-- The mapping that a table file holds. -/
def readMapping (p : Files.Path) : Run (List (Value × Value)) := do
  let text ← readText p
  let v ← readValue p.text text
  Run.ofOutcome (mappingOf p.text v)

/-- A bundled table is read as every table. What it holds is known, so all that reading it can change is
what earlier tables have left. -/
def settle (origin : Text) : Run Unit := do
  match ← Run.reading Yaml.settle with
  | .ok () => return ()
  | .error t =>
    Run.note (.reading origin)
    Run.fail (faultOf origin t)

/-- Parses the bundled language table. -/
def bundledLanguages : Outcome (List Language) := do
  Outcome.note (.reading Bundled.languagesOrigin)
  parseLanguages (rawLanguages Bundled.languages)

/-- Parses the bundled host table. -/
def bundledHosts : Outcome (List Host) := do
  Outcome.note (.reading Bundled.hostsOrigin)
  parseHosts (rawHosts Bundled.hosts)

/-- Loads the language table from a file, or the bundled one. -/
def loadLanguages : (path : Option Files.Path) → Run (List Language)
  | none => do
    settle Bundled.languagesOrigin
    Run.ofOutcome bundledLanguages
  | some p => do
    let raw ← readMapping p
    Run.ofOutcome (parseLanguages raw)

/-- Loads the host table from a file, or the bundled one. -/
def loadHosts : (path : Option Files.Path) → Run (List Host)
  | none => do
    settle Bundled.hostsOrigin
    Run.ofOutcome bundledHosts
  | some p => do
    let raw ← readMapping p
    Run.ofOutcome (parseHosts raw)

/-- The files of the two tables; a table without a file is the bundled one. -/
structure Sources where
  languages : Option Files.Path
  hosts : Option Files.Path

/-- Loads both tables. -/
def load (s : Sources) : Run Tables := do
  let languages ← loadLanguages s.languages
  let hosts ← loadHosts s.hosts
  return ⟨languages, hosts⟩

end Table

end TaggedGrammar
