import TaggedGrammar.Files.Directories

/-!
# Writing a document

A document is first written beside its place and then moved into it, so that the place never holds a part of
a document.
-/

namespace TaggedGrammar

open Files

namespace Output

/-- Writes a text to a file. One that has no bytes leaves the file empty. -/
def save (path : Files.Path) (text : Text) : Run Unit := do
  match text.bytes? with
  | some bytes => Run.change (·.saveAt path bytes)
  | none =>
    Run.change (·.saveAt path .empty)
    Run.fail .notEncodable

/-- Writes a text to `temp` and moves it to `path`, whose directory is made if it is missing. -/
def place (temp path : Files.Path) (text : Text) : Run Unit := do
  makeDirectories path.parent
  save temp text
  Run.change (·.move temp path)

/-- Removes what a failed writing has left. -/
def cleanUp (temp : Files.Path) : Run Unit := do
  if ← Run.inspect (·.isThere temp) then Run.change (·.remove temp) else return ()

/-- Writes one document. -/
def writeDocument (path : Files.Path) (text : Text) : Run Unit := do
  match path.temporary? with
  | none => Run.fail (.noFileName path.text)
  | some temp =>
    match ← (place temp path text).attempt with
    | .ok () => Run.note (.wrote path.text)
    | .error (.file cause) =>
      cleanUp temp
      Run.fail (.writeFailed path.text cause)
    | .error f => Run.fail f

end Output

end TaggedGrammar
