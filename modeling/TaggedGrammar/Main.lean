import TaggedGrammar.Command.Execute

/-!
# The program

Requests are carried out on a disk that holds what the machine has at the paths in question. What they change
on it is then changed on the machine.
-/

namespace TaggedGrammar.Program

open Files

/-- The text of a place. -/
def placeText (place : Place) : String :=
  (Files.Path.mk 1 place.reverse).text.shown

/-- The place of what the machine has at a place, links followed, and what it is. -/
def find (place : Place) : IO (Option (Place × Entry)) := do
  try
    let path ← IO.FS.realPath (placeText place)
    let found := (Files.Path.ofText path.toString).parts.reverse
    if ← path.isDir then return some (found, .directory)
    return some (found, .file (← IO.FS.readBinFile path))
  catch _ => return none

/-- The disk with a directory and those above it. -/
def withDirectories (d : Disk) (place : Place) : Disk :=
  (Disk.upward place).foldl (fun d p => d.put p .directory) d

/-- The disk with what the machine has on the way over names from a directory. -/
def gather (d : Disk) : Place → List Text → IO Disk
  | _, [] => return d
  | place, name :: rest => do
    if name = ".." then gather d place.tail rest
    else if name = "." then gather d place rest
    else
      let child := name :: place
      match ← find child with
      | none => return d
      | some (found, entry) =>
        let d := (withDirectories d found.tail).put found entry
        let d := if found = child then d else d.put child (.link (placeText found))
        gather d found rest

/-- The disk with what the machine has at paths. -/
def gatherAll (d : Disk) : List Files.Path → IO Disk
  | [] => return d
  | p :: rest => do gatherAll (← gather d (d.startOf p) p.parts) rest

/-- The files of the tables that a request reads. -/
def tablePaths (s : Table.Sources) : List Files.Path :=
  s.languages.toList ++ s.hosts.toList

/-- The paths of the documents in a directory, and those at which they are written first. -/
def documentPaths (out : Files.Path) (tables : Tables) : List Files.Path :=
  tables.hosts.flatMap fun h => [grammarFile h.name, reinjectionFile h.name].flatMap fun name =>
    let path := out.child name
    path :: path.temporary?.toList

/-- The disk with what a request for documents looks at. -/
def gatherDocuments (out : Option Files.Path) (sources : Table.Sources) (d : Disk) : IO Disk := do
  let d ← gatherAll d (tablePaths sources)
  let d ← gather d d.here [Output.directoryName]
  let s := Session.start d
  match (Table.load sources s).1.result, (Output.directory out s).1.result with
  | .ok tables, .ok out => gatherAll d (out :: documentPaths out tables)
  | _, _ => return d

/-- The disk with what a request looks at. -/
def gatherFor (d : Disk) : Command.Request → IO Disk
  | .update out sources | .check out sources => gatherDocuments out sources d
  | .render _ _ sources | .list _ sources => gatherAll d (tablePaths sources)

/-- Makes on the machine what is on a disk at a place. A file takes its place when it is complete. -/
def makeEntry (place : Place) : Entry → IO Unit
  | .directory => IO.FS.createDirAll (placeText place)
  | .file content => do
    let temp := placeText place ++ Files.Path.temporaryEnding.shown
    IO.FS.writeBinFile temp content
    IO.FS.rename temp (placeText place)
  | .link _ => return ()

/-- Changes the machine as one disk was changed to another. -/
def apply (before after : Disk) : IO Unit := do
  let made := after.entries.filter fun (place, entry) => before.get place ≠ some entry
  for (place, entry) in made.reverse do
    makeEntry place entry
  for (place, _) in before.entries do
    if (after.get place).isNone then
      try IO.FS.removeFile (placeText place) catch _ => pure ()

/-- Carries out the words of the command line. -/
def run (words : List String) : IO UInt32 := do
  let debug := ((← IO.getEnv "CTG_DEBUG").getD "") ≠ ""
  let here := (Files.Path.ofText (← IO.currentDir).toString).parts.reverse
  let disk ← match Command.Request.ofWords words with
    | .ok request => gatherFor (.empty here) request
    | .error _ => pure (.empty here)
  let (ending, changed) := Command.execute .bytes (some (Command.levelFor debug)) words disk
  apply disk changed
  match ending with
  | .finished r =>
    IO.print r.out.shown
    IO.eprint r.err.shown
    return r.code.toUInt32
  | .escaped f out err =>
    IO.print out.shown
    IO.eprint (err ++ f.message ++ "\n" : Text).shown
    return 1

end TaggedGrammar.Program

/-- The entry of the program. -/
def main (words : List String) : IO UInt32 :=
  TaggedGrammar.Program.run words
