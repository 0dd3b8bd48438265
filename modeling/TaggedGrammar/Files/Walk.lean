import TaggedGrammar.Fault
import TaggedGrammar.Files.Disk

/-!
# From paths to places

A path is walked name by name. A link in the middle is followed, and the last one if the operation asks for
it. Names and paths have a greatest length, and a walk follows at most forty links.
-/

namespace TaggedGrammar.Files

/-- Where a walk ends, and what is there. The parent of the place is a directory. -/
structure Spot where
  place : Place
  entry : Option Entry

/-- The greatest number of bytes of a name. -/
def nameLimit : Nat := 255

/-- The greatest number of bytes of a path. -/
def pathLimit : Nat := 4095

/-- The greatest number of links that a walk follows. -/
def linkLimit : Nat := 40

/-- What a walk does at its last name. -/
inductive Ending where
  /-- A link there is the end of the walk. -/
  | keep
  /-- A link there is followed. -/
  | follow
  /-- A link there is followed to a file that may yet have to be made, so the name cannot have a slash
  behind it. -/
  | make
  deriving DecidableEq

/-- The names that the target of a link leads over. A slash at its end leaves an empty name, which asks for
a directory, as a point does. -/
def linkNames (target : Text) : List Text :=
  let names := (Path.namesOf target).filter (· ≠ [])
  if target.getLast? = some (.char '/') then names ++ [[]] else names

namespace Disk

/-- Where the target of a link starts: at the root, or at the directory that holds the link. -/
def linkStart (directory : Place) (target : Text) : Place :=
  if target.head? = some (.char '/') then [] else directory

/-- Walks over names from a directory; `jump` goes on at a link. -/
def walkNames (d : Disk) (ending : Ending) (jump : Place → List Text → Except Problem Spot) :
    Place → List Text → Except Problem Spot
  | place, [] => .ok ⟨place, some .directory⟩
  | place, name :: rest =>
    if name = ".." then walkNames d ending jump place.tail rest
    else if name = "." ∨ name = [] then walkNames d ending jump place rest
    else if ending = .make ∧ rest = [[]] then .error .isDirectory
    else if nameLimit < name.fileBytes then .error .nameTooLong
    else match d.get (name :: place) with
      | none => if rest.isEmpty then .ok ⟨name :: place, none⟩ else .error .missing
      | some .directory => walkNames d ending jump (name :: place) rest
      | some (.file content) =>
        if rest.isEmpty then .ok ⟨name :: place, some (.file content)⟩ else .error .notDirectory
      | some (.link target) =>
        if rest.isEmpty ∧ ending = .keep then .ok ⟨name :: place, some (.link target)⟩
        else jump (linkStart place target) (linkNames target ++ rest)

/-- Walks over names from a directory, following at most `links` links. -/
def walk (d : Disk) (ending : Ending) : (links : Nat) → Place → List Text → Except Problem Spot
  | 0 => d.walkNames ending fun _ _ => .error .tooManyLinks
  | links + 1 => d.walkNames ending (d.walk ending links)

/-- The directory that a path starts from. -/
def startOf (d : Disk) (p : Path) : Place :=
  if p.slashes = 0 then d.here else []

/-- Walks a path. -/
def walkPath (d : Disk) (ending : Ending) (p : Path) : Except Problem Spot :=
  if pathLimit < p.text.fileBytes then .error .nameTooLong
  else d.walk ending linkLimit (d.startOf p) p.parts

/-- Whether a path holds the character with code zero, which no operation takes. -/
def hasNull (p : Path) : Bool :=
  p.text.contains (.char '\x00')

/-- Why no operation takes a path, if it is so. -/
def unfitPath? (p : Path) : Option Fault :=
  if !p.text.all Text.canBeInName then some .notEncodable
  else if hasNull p then some .nullInPath
  else none

/-- Walks a path on behalf of an operation. -/
def locate (d : Disk) (ending : Ending) (p : Path) : Except Fault Spot :=
  if let some f := unfitPath? p then .error f
  else (d.walkPath ending p).mapError fun problem => .file ⟨problem, p.text, none⟩

end Disk

end TaggedGrammar.Files
