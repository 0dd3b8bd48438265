import TaggedGrammar.Files.Path

/-!
# The state of the files

A disk holds entries at places. A place is the list of the names from an entry up to the root, so that the
parent of a place is its tail. The root is always a directory.
-/

namespace TaggedGrammar.Files

/-- What is at a place. -/
inductive Entry where
  | directory
  | file (content : ByteArray)
  | link (target : Text)

-- The comparison of contents is named, so that it is the same one whatever is imported.
instance : DecidableEq Entry
  | .directory, .directory => isTrue rfl
  | .file a, .file b =>
    match ByteArray.instDecidableEq a b with
    | isTrue h => isTrue (congrArg _ h)
    | isFalse h => isFalse fun heq => h (Entry.file.inj heq)
  | .link s, .link t => decidable_of_iff (s = t) ⟨congrArg _, Entry.link.inj⟩
  | .directory, .file _ | .directory, .link _ | .file _, .directory | .file _, .link _ | .link _, .directory
  | .link _, .file _ => isFalse nofun

/-- A place: the names from the innermost to the outermost. -/
abbrev Place := List Text

/-- All entries, and the place that relative paths start from. -/
structure Disk where
  entries : List (Place × Entry)
  here : Place

namespace Disk

/-- The entry at a place. -/
def get (d : Disk) (p : Place) : Option Entry :=
  match p with
  | [] => some .directory
  | _ => d.entries.lookup p

/-- The disk without the entry at a place. -/
def erase (d : Disk) (p : Place) : Disk :=
  { d with entries := d.entries.filter (·.1 ≠ p) }

/-- The disk with an entry at a place, in place of what was there. -/
def put (d : Disk) (p : Place) (e : Entry) : Disk :=
  { d with entries := (p, e) :: (d.erase p).entries }

/-- A place with all places above it but the root. -/
def upward : Place → List Place
  | [] => []
  | name :: rest => (name :: rest) :: upward rest

/-- A disk with nothing but the directory that relative paths start from, and those above it. -/
def empty (here : Place) : Disk :=
  ⟨(upward here).map (·, .directory), here⟩

end Disk

end TaggedGrammar.Files
