import TaggedGrammar.Text.Basic

/-!
# Paths

A path is a list of names behind zero, one or two slashes. Empty names and single points are dropped when a
path is read; double points are kept, since what they mean depends on links.
-/

namespace TaggedGrammar.Files

/-- A path: the slashes in front, none for a relative path, and the names. -/
structure Path where
  slashes : Nat
  parts : List Text
  deriving DecidableEq, Repr

namespace Path

/-- The names between the slashes of a text. -/
def namesOf (text : Text) : List Text :=
  text.splitOn (.char '/')

/-- The number of slashes that a path keeps in front: two are kept, more count as one. -/
def slashesOf (text : Text) : Nat :=
  match (text.takeWhile (· = .char '/')).length with
  | 0 => 0
  | 2 => 2
  | _ => 1

/-- Reads a path. -/
def ofText (text : Text) : Path :=
  ⟨slashesOf text, (namesOf text).filter fun n => n ≠ [] ∧ n ≠ Text.ofString "."⟩

/-- The text of a path; that of the empty relative path is a point. -/
def text (p : Path) : Text :=
  if p.slashes = 0 ∧ p.parts = [] then "."
  else List.replicate p.slashes (.char '/') ++ Text.join "/" p.parts

/-- The path of an entry of a directory. -/
def child (p : Path) (name : Text) : Path :=
  { p with parts := p.parts ++ [name] }

/-- The path without its last name. -/
def parent (p : Path) : Path :=
  { p with parts := p.parts.dropLast }

/-- The last name of a path. -/
def name? (p : Path) : Option Text :=
  p.parts.getLast?

/-- The ending of a name: its last point with what is behind it. A point at either end of the name begins none. -/
def ending (name : Text) : Text :=
  let behind := name.reverse.takeWhile (· ≠ .char '.')
  let front := name.reverse.dropWhile (· ≠ .char '.')
  if behind = [] ∨ front.length ≤ 1 then [] else .char '.' :: behind.reverse

/-- A name with another ending. -/
def withEnding (name new : Text) : Text :=
  name.take (name.length - (ending name).length) ++ new

/-- What is added to the name of a file while it is being written. -/
def temporaryEnding : Text := ".tmp"

/-- The path at which a file is written before it takes its place; `none` if the path has no name. -/
def temporary? (p : Path) : Option Path :=
  p.name?.map fun n => p.parent.child (withEnding n (ending n ++ temporaryEnding))

end Path

end TaggedGrammar.Files
