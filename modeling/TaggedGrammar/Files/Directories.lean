import TaggedGrammar.Run

/-!
# Making directories with those above them
-/

namespace TaggedGrammar.Files

/-- What to do when a directory could not be made: nothing if it is there already. -/
def unlessDirectory (p : Path) (f : Fault) : Run Unit := do
  if ← Run.inspect (·.isDirectory p) then return () else Run.fail f

/-- Makes a directory in one that exists, unless it is there. -/
def makeLast (p : Path) : Run Unit := do
  match ← (Run.change (·.makeDirectory p)).attempt with
  | .ok () => return ()
  | .error (.file cause) =>
    if cause.problem = .missing then Run.fail (.file cause) else unlessDirectory p (.file cause)
  | .error f => Run.fail f

/-- Makes the directory of the names, the innermost first, with those above it that are missing. -/
def makeAll (slashes : Nat) : (names : List Text) → Run Unit
  | [] => makeLast ⟨slashes, []⟩
  | name :: rest => do
    let p : Path := ⟨slashes, (name :: rest).reverse⟩
    match ← (Run.change (·.makeDirectory p)).attempt with
    | .ok () => return ()
    | .error (.file cause) =>
      if cause.problem = .missing then
        makeAll slashes rest
        makeLast p
      else unlessDirectory p (.file cause)
    | .error f => Run.fail f

/-- Makes a directory, unless it is there, with those above it that are missing. -/
def makeDirectories (p : Path) : Run Unit :=
  makeAll p.slashes p.parts.reverse

end TaggedGrammar.Files
