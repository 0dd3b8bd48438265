import TaggedGrammar.Text.Quoted

/-!
# Notices

What a run reports on its way: which tables it read, what it built and wrote, and which aliases are
shared. Every notice has a level, and a run shows the notices at or above the level it is set to.
-/

namespace TaggedGrammar

/-- How important a notice is. -/
inductive Level where
  | debug
  | info
  | warning
  | error
  deriving DecidableEq, Repr

namespace Level

/-- The place of a level in the order from the least to the most important. -/
def rank : Level → Nat
  | debug => 0
  | info => 1
  | warning => 2
  | error => 3

/-- The name of a level. -/
def name : Level → String
  | debug => "DEBUG"
  | info => "INFO"
  | warning => "WARNING"
  | error => "ERROR"

/-- The level with a name. -/
def ofName? (s : String) : Option Level :=
  [debug, info, warning, error].find? (·.name = s)

end Level

/-- Something that a run reports. -/
inductive Notice where
  /-- A table is about to be parsed. -/
  | reading (origin : Text)
  /-- A record was built at a place of a table. -/
  | built (record : String) (path : List Text)
  /-- Several languages declare an alias; the first of them has precedence. -/
  | sharedAlias (label : Text) (languages : List Text)
  /-- The rule of a language inside a host was built. -/
  | pattern (host language : Text) (aliases sources : List Text)
  /-- The grammar of a host was put together. -/
  | assembled (host : Text) (languages : Nat)
  /-- A document was written. -/
  | wrote (path : Text)
  /-- A run has written all its documents. -/
  | generated (files hosts : Nat)
  /-- A document on disk is missing or differs. -/
  | outdated (path : Text)
  deriving DecidableEq, Repr

namespace Notice

/-- The level of a notice. -/
def level : Notice → Level
  | reading _ | wrote _ | generated _ _ => .info
  | sharedAlias _ _ => .warning
  | built _ _ | pattern _ _ _ _ | assembled _ _ | outdated _ => .debug

/-- A place of a table, its steps joined by points. -/
def dotted (path : List Text) : Text :=
  Text.join "." path

/-- A list of texts in brackets, each one quoted. -/
def quotedList (texts : List Text) : Text :=
  "[" ++ Text.join ", " (texts.map Text.quoted) ++ "]"

/-- The text of a notice. -/
def message : Notice → Text
  | reading origin => "Reading " ++ origin
  | built record path =>
    "Built " ++ record ++ " at " ++ (if (dotted path).isEmpty then "$" else dotted path : Text)
  | sharedAlias label languages =>
    "Alias '" ++ label ++ "' is declared by " ++ Text.join ", " languages ++ "; '" ++
      languages.headD [] ++ "' takes precedence"
  | pattern host language aliases sources =>
    "Pattern " ++ host ++ "/" ++ language ++ ": aliases=" ++ quotedList aliases ++ ", sources=" ++
      quotedList sources
  | assembled host languages =>
    "Assembled " ++ host ++ " grammar with " ++ toString languages ++ " language(s)"
  | wrote path => "Wrote " ++ path
  | generated files hosts =>
    "Generated " ++ toString files ++ " grammar file(s) for " ++ toString hosts ++
      " host language(s)"
  | outdated path => "Outdated: " ++ path

end Notice

end TaggedGrammar
