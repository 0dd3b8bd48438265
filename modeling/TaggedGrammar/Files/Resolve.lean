import TaggedGrammar.Files.Walk

/-!
# Resolving paths

A path is resolved to the absolute path without links and double points that it stands for. Names that do not
exist stay as they are. A link that leads back to itself cannot be resolved.
-/

namespace TaggedGrammar.Files.Disk

/-- A place and names behind it, taken as they are. -/
def behind (place : Place) (names : List Text) : Place :=
  names.foldl (fun p (n : Text) => if n = ".." then p.tail else if n = "." ∨ n = [] then p else n :: p) place

/-- Resolves names from a place; `jump` resolves the target of a link. The second part of the result tells
whether no link led back to one of the links in `active`. -/
def resolveNames (d : Disk) (jump : List Place → Place → List Text → Place × Bool)
    (active : List Place) : Place → List Text → Place × Bool
  | place, [] => (place, true)
  | place, name :: rest =>
    if name = ".." then resolveNames d jump active place.tail rest
    else if name = "." ∨ name = [] then resolveNames d jump active place rest
    else match d.get (name :: place) with
      | some (.link target) =>
        if active.contains (name :: place) then (behind (name :: place) rest, false)
        else match jump ((name :: place) :: active) (linkStart place target) (linkNames target) with
          | (found, true) => resolveNames d jump active found rest
          | (found, false) => (behind found rest, false)
      | _ => resolveNames d jump active (name :: place) rest

/-- Resolves names from a place over at most `depth` links inside each other. -/
def resolveFrom (d : Disk) : (depth : Nat) → List Place → Place → List Text → Place × Bool
  | 0 => fun active => d.resolveNames (fun _ place names => (behind place names, false)) active
  | depth + 1 => fun active => d.resolveNames (d.resolveFrom depth) active

/-- Resolves a path. -/
def resolve (d : Disk) (p : Path) : Except Fault Path :=
  if let some f := unfitPath? p then .error f
  else
    let (place, _) := d.resolveFrom (d.entries.length + 1) [] (d.startOf p) p.parts
    let found : Path := ⟨1, place.reverse⟩
    match d.walkPath .follow found with
    | .error .tooManyLinks => .error .linkLoop
    | _ => .ok found

end TaggedGrammar.Files.Disk
