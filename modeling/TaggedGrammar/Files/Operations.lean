import TaggedGrammar.Files.Walk

/-!
# Operations on files

Looking at entries, making a directory, writing and reading a file, moving an entry, removing one. An
operation that fails leaves the disk as it is.
-/

namespace TaggedGrammar.Files.Disk

/-- What a path leads to, links followed; `none` when there is nothing. A path that cannot be walked leads
to nothing, unless one of its names is too long. -/
def find (d : Disk) (p : Path) : Except Fault (Option Entry) :=
  match d.locate .follow p with
  | .ok spot => .ok spot.entry
  | .error .nullInPath | .error .notEncodable => .ok none
  | .error (.file cause) => if cause.problem.meansAbsent then .ok none else .error (.file cause)
  | .error f => .error f

/-- Whether a path leads to anything. -/
def isThere (d : Disk) (p : Path) : Except Fault Bool :=
  (d.find p).map (·.isSome)

/-- Whether a path leads to a file. -/
def isFile (d : Disk) (p : Path) : Except Fault Bool :=
  (d.find p).map fun
    | some (.file _) => true
    | _ => false

/-- Whether a path leads to a directory. -/
def isDirectory (d : Disk) (p : Path) : Except Fault Bool :=
  (d.find p).map fun
    | some .directory => true
    | _ => false

/-- A failure at a path. -/
def failure {α : Type} (problem : Problem) (p : Path) : Except Fault α :=
  .error (.file ⟨problem, p.text, none⟩)

/-- The content of a file. -/
def contentAt (d : Disk) (p : Path) : Except Fault ByteArray := do
  match (← d.locate .follow p).entry with
  | some (.file content) => .ok content
  | some .directory => failure .isDirectory p
  | some (.link _) => failure .tooManyLinks p
  | none => failure .missing p

/-- Makes a directory where there is nothing. -/
def makeDirectory (d : Disk) (p : Path) : Except Fault Disk := do
  let spot ← d.locate .keep p
  match spot.entry with
  | some _ => failure .alreadyThere p
  | none => .ok (d.put spot.place .directory)

/-- Writes a file, in place of its old content if there is one. -/
def saveAt (d : Disk) (p : Path) (content : ByteArray) : Except Fault Disk := do
  let spot ← d.locate .make p
  match spot.entry with
  | some .directory => failure .isDirectory p
  | some (.link _) => failure .tooManyLinks p
  | some (.file _) | none => .ok (d.put spot.place (.file content))

/-- Removes a file or a link. -/
def remove (d : Disk) (p : Path) : Except Fault Disk := do
  let spot ← d.locate .keep p
  match spot.entry with
  | none => failure .missing p
  | some .directory => failure .isDirectory p
  | some _ => .ok (d.erase spot.place)

/-- Moves the file or link at `source` to `target`, in place of the file or link there. Links are moved
themselves. -/
def move (d : Disk) (source target : Path) : Except Fault Disk :=
  let refuse {α : Type} (problem : Problem) : Except Fault α :=
    .error (.file ⟨problem, source.text, some target.text⟩)
  if let some f := (unfitPath? source).or (unfitPath? target) then .error f
  else match d.walkPath .keep source, d.walkPath .keep target with
    | .error problem, _ | .ok _, .error problem => refuse problem
    | .ok old, .ok new =>
      if target.name? = none ∨ target.name? = some (Text.ofString "..") then refuse .busy
      else match old.entry, new.entry with
        | none, _ => refuse .missing
        | some .directory, _ => refuse .busy
        | some _, some .directory => refuse .isDirectory
        | some e, _ => .ok ((d.erase old.place).put new.place e)

end TaggedGrammar.Files.Disk
