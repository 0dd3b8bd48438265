import TaggedGrammar.Files.Resolve
import TaggedGrammar.Generate
import TaggedGrammar.Output.Write
import TaggedGrammar.Table.Load

/-!
# Updating and checking the documents

An update writes every document of every host. A check compares the documents on disk with what an update
would write, line ends apart.
-/

namespace TaggedGrammar

open Files

namespace Output

/-- The name of the directory that documents are written to by default. -/
def directoryName : Text := "syntaxes"

/-- The default directory below a root; the root is by default the place that relative paths start from. -/
def defaultDirectory (root : Option Files.Path) : Run Files.Path :=
  Run.inspect fun d => d.resolve ((root.getD ⟨1, d.here.reverse⟩).child directoryName)

/-- The chosen directory, or the default one. -/
def directory : (chosen : Option Files.Path) → Run Files.Path
  | some p => return p
  | none => defaultDirectory none

/-- Writes the documents into a directory one after the other; their paths. -/
def writeFiles (directory : Files.Path) : List GeneratedFile → Run (List Files.Path)
  | [] => return []
  | f :: rest => do
    let path := directory.child f.name
    writeDocument path f.text
    let paths ← writeFiles directory rest
    return path :: paths

/-- Writes all documents; the paths of the files in order. -/
def update (out : Option Files.Path) (sources : Table.Sources) : Run (List Files.Path) := do
  let tables ← Table.load sources
  let files ← Run.ofOutcome (generate tables.languages tables.hosts)
  let target ← directory out
  let paths ← writeFiles target files
  Run.note (.generated paths.length tables.hosts.length)
  return paths

/-- Whether the file at a path holds a text. -/
def holds (path : Files.Path) (text : Text) : Run Bool := do
  if ← Run.inspect (·.isFile path) then
    let bytes ← Run.inspect (·.contentAt path)
    let found ← Run.ofOutcome (.ofOption .notText (Text.ofBytes? bytes))
    return Text.ofChars found = text
  else return false

/-- The names of the documents that a directory does not hold. -/
def outdated (directory : Files.Path) : List GeneratedFile → Run (List Text)
  | [] => return []
  | f :: rest => do
    let path := directory.child f.name
    if ← holds path f.text then outdated directory rest
    else
      Run.note (.outdated path.text)
      let names ← outdated directory rest
      return f.name :: names

/-- The names of the documents that are missing or differ from what an update would write. -/
def check (out : Option Files.Path) (sources : Table.Sources) : Run (List Text) := do
  let tables ← Table.load sources
  let target ← directory out
  let files ← Run.ofOutcome (generate tables.languages tables.hosts)
  outdated target files

end Output

end TaggedGrammar
