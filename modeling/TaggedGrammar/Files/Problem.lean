import TaggedGrammar.Text.Quoted

/-!
# Problems with files

Why an operation on files failed, with the number and the wording of the operating system.
-/

namespace TaggedGrammar.Files

/-- Why an operation on files failed. -/
inductive Problem where
  | missing
  | busy
  | alreadyThere
  | notDirectory
  | isDirectory
  | nameTooLong
  | tooManyLinks
  deriving DecidableEq, Repr

namespace Problem

/-- The number of a problem. -/
def code : Problem → Nat
  | missing => 2
  | busy => 16
  | alreadyThere => 17
  | notDirectory => 20
  | isDirectory => 21
  | nameTooLong => 36
  | tooManyLinks => 40

/-- The wording of a problem. -/
def text : Problem → String
  | missing => "No such file or directory"
  | busy => "Device or resource busy"
  | alreadyThere => "File exists"
  | notDirectory => "Not a directory"
  | isDirectory => "Is a directory"
  | nameTooLong => "File name too long"
  | tooManyLinks => "Too many levels of symbolic links"

/-- The problems that only mean that there is nothing at a path. -/
def meansAbsent : Problem → Bool
  | missing | notDirectory | tooManyLinks => true
  | _ => false

end Problem

/-- A problem with the path it arose at, and the second path of a renaming. -/
structure Failure where
  problem : Problem
  path : Text
  target : Option Text := none
  deriving DecidableEq, Repr

/-- The text of a failure. -/
def Failure.message (f : Failure) : Text :=
  let target : Text := match f.target with
    | none => ""
    | some t => " -> " ++ Text.quoted t
  "[Errno " ++ toString f.problem.code ++ "] " ++ f.problem.text ++ ": " ++ Text.quoted f.path ++ target

end TaggedGrammar.Files
