import TaggedGrammar.Files.Problem
import TaggedGrammar.Notice

/-!
# Faults

Why an operation failed. A fault of a table carries the place of the table that is wrong; its text
starts with that place. Faults that the user can mend are told apart from the others.
-/

namespace TaggedGrammar

/-- What is wrong at a place of a table. -/
inductive TableProblem where
  /-- A value of another kind stands where a simple kind is expected. -/
  | expected (what kind : String)
  /-- No mapping stands where a record is expected. -/
  | expectedRecord (record : Text) (kind : String)
  /-- A mapping has keys that the record does not declare. -/
  | unexpectedKeys (keys : List Text)
  /-- A field without default is absent. -/
  | missingField
  /-- A value is no instance of a class. -/
  | notInstance (kind : String) (cls : Text)
  /-- A choice has no alternative to try. -/
  | noAlternatives
  /-- Every alternative of a choice refused the value, with these messages. -/
  | refusedByAll (messages : List Text)
  /-- A value is none of the listed ones. -/
  | notAnOption (options value : Text)
  /-- A fixed sequence has another length. -/
  | wrongLength (wanted got : Nat)
  /-- Building a record failed for another reason. -/
  | buildFailed (record reason : Text)
  /-- There is no file at the path of a table. -/
  | noTableFile (path : Text)
  /-- A table is not well-formed. -/
  | invalidYaml (origin : Text)
  /-- A table file holds no mapping. -/
  | noMapping (origin : Text)
  /-- The language table has no list of languages. -/
  | noLanguageList
  /-- The host table has no mapping of hosts. -/
  | noHostMapping
  /-- The body of a host gives a name. -/
  | nameInBody
  /-- The language table is empty. -/
  | noLanguages
  /-- The host table is empty. -/
  | noHosts
  /-- A text or a list that must have content has none. -/
  | empty
  /-- An alias is blank. -/
  | blankAlias
  /-- A scope reference is absent or blank. -/
  | emptyScope
  /-- A language name occurs again, first declared at an index. -/
  | duplicateName (name : Text) (first : Nat)
  /-- A language name occurs twice in one grammar. -/
  | repeatedName (name : Text)
  /-- A host name is blank. -/
  | emptyHostName
  /-- A host name cannot be part of a file name. -/
  | unsafeHostName
  /-- A begin shape has no place for the aliases. -/
  | missingSlot
  deriving DecidableEq, Repr

/-- The placeholder for the aliases in a begin shape. -/
def aliasSlot : String := "\x7baliases\x7d"

/-- The wording of a table problem, without its place. -/
def TableProblem.text : TableProblem → Text
  | expected what kind => "expected " ++ what ++ ", got " ++ kind
  | expectedRecord record kind => "expected mapping for " ++ record ++ ", got " ++ kind
  | unexpectedKeys keys => "unexpected keys: " ++ Notice.quotedList keys
  | missingField => "required field missing"
  | notInstance kind cls => "cannot coerce " ++ kind ++ " → " ++ cls
  | noAlternatives => "union alternatives exhausted"
  | refusedByAll messages => Text.join " | " messages
  | notAnOption options value => "expected one of " ++ options ++ ", got " ++ value
  | wrongLength wanted got => "expected " ++ toString wanted ++ " items, got " ++ toString got
  | buildFailed record reason => "failed to build " ++ record ++ ": " ++ reason
  | noTableFile path => "Table file not found: " ++ path
  | invalidYaml origin => "Invalid YAML in " ++ origin
  | noMapping origin => "YAML must be a mapping: " ++ origin
  | noLanguageList => "expected a list of languages"
  | noHostMapping => "expected a mapping of host languages"
  | nameInBody => "host name is taken from the mapping key"
  | noLanguages => "at least one embedded language is required"
  | noHosts => "at least one host language is required"
  | empty => "must not be empty"
  | blankAlias => "alias must not be blank"
  | emptyScope => "scope reference must not be empty"
  | duplicateName name first =>
    "duplicate language name '" ++ name ++ "' (first declared at languages." ++ toString first ++
      ")"
  | repeatedName name => "duplicate language name '" ++ name ++ "'"
  | emptyHostName => "host name must not be empty"
  | unsafeHostName => "host name must not contain '/', '\\' or '..'"
  | missingSlot => "begin must contain the " ++ aliasSlot ++ " placeholder"

/-- A message with the place that it concerns in front of it, if there is one. -/
def located (path : List Text) (message : Text) : Text :=
  if path.isEmpty then message else Notice.dotted path ++ ": " ++ message

/-- A problem at a place of a table. -/
structure TableError where
  path : List Text
  problem : TableProblem
  deriving DecidableEq, Repr

/-- The text of a table error: its place, then its wording. -/
def TableError.message (e : TableError) : Text :=
  located e.path e.problem.text

/-- The text of an unknown host: its name and the hosts that there are. -/
def unknownHostText (name : Text) (known : List Text) : Text :=
  let list := Text.join ", " known
  "Unknown host language '" ++ name ++ "' (known: " ++ (if list.isEmpty then "none" else list : Text) ++ ")"

/-- The wording for a whole number that has too many digits to be displayed. -/
def tooManyDigitsText : Text :=
  "Exceeds the limit (4300 digits) for integer string conversion; " ++
    "use sys.set_int_max_str_digits() to increase the limit"

/-- The wording for a whole number that is beyond the range of doubles. -/
def beyondDoubleText : Text :=
  "int too large to convert to float"

/-- Why a value of a table file cannot be made, although the file is well-formed. -/
inductive Defect where
  /-- A scalar cannot be read as its tag says. -/
  | badScalar (reason : Text)
  /-- An escape has a code of more than 31 bits. -/
  | codeTooLarge
  /-- The file asks for a version of its language that has no rules. -/
  | unknownVersion
  /-- The file is nested too deeply. -/
  | nestedTooDeeply
  /-- A word is none of a tag's words. -/
  | unknownWord
  /-- A number has no characters. -/
  | emptyNumber
  /-- A key is a collection that can grow. -/
  | unusableKey
  /-- A key of an ordered mapping is repeated. -/
  | repeatedKey
  /-- An instant is outside the calendar. -/
  | outsideCalendar
  /-- A part of a number to the base sixty is beyond the range of doubles. -/
  | beyondDouble
  /-- A whole number that has to be displayed has too many digits. -/
  | tooManyDigits
  deriving DecidableEq, Repr

/-- The wording of a defect. -/
def Defect.text : Defect → Text
  | badScalar reason => reason
  | codeTooLarge => "code too large"
  | unknownVersion => ""
  | nestedTooDeeply => "maximum recursion depth exceeded"
  | unknownWord => "unknown word"
  | emptyNumber => "string index out of range"
  | unusableKey => "unhashable type"
  | repeatedKey => ""
  | outsideCalendar => "date value out of range"
  | beyondDouble => beyondDoubleText
  | tooManyDigits => tooManyDigitsText

/-- Why an operation failed. -/
inductive Fault where
  /-- A table is wrong at a place. -/
  | table (error : TableError)
  /-- No host has the requested name. -/
  | unknownHost (name : Text) (known : List Text)
  /-- A document could not be written. -/
  | writeFailed (path : Text) (cause : Files.Failure)
  /-- An operation on files failed. -/
  | file (cause : Files.Failure)
  /-- A path holds the character with code zero. -/
  | nullInPath
  /-- A path has no final component. -/
  | noFileName (path : Text)
  /-- A file is not well-formed text. -/
  | notText
  /-- A text holds half a surrogate pair, which no file and no file name can hold. -/
  | notEncodable
  /-- Symbolic links lead back to themselves. -/
  | linkLoop
  /-- A whole number is beyond the range of doubles. -/
  | beyondDouble
  /-- A whole number has too many digits to be displayed. -/
  | tooManyDigits
  /-- A record refuses to be built. -/
  | refused (reason : Text)
  /-- A value of a table file cannot be made. -/
  | defect (cause : Defect)
  /-- A value has no JSON text. -/
  | notWritable
  /-- There is no list of that name. -/
  | unknownList (what : Text)
  deriving DecidableEq, Repr

namespace Fault

/-- A fault at a place of a table. -/
def inTable (path : List Text) (problem : TableProblem) : Fault :=
  table ⟨path, problem⟩

/-- The text of a fault. -/
def message : Fault → Text
  | table e => e.message
  | unknownHost name known => unknownHostText name known
  | writeFailed path cause => "Failed to write " ++ path ++ ": " ++ cause.message
  | file cause => cause.message
  | nullInPath => "embedded null byte"
  | noFileName path => "PosixPath(" ++ Text.quoted path ++ ") has an empty name"
  | notText => "invalid UTF-8"
  | notEncodable => "surrogates not allowed"
  | linkLoop => "symlink loop"
  | beyondDouble => beyondDoubleText
  | tooManyDigits => tooManyDigitsText
  | refused reason => reason
  | defect cause => cause.text
  | notWritable => "not JSON serializable"
  | unknownList what => "Unknown list target: " ++ what

/-- Whether the user can mend the fault: a bad table, an unknown host, output that cannot be written. -/
def isUserFault : Fault → Bool
  | table _ | unknownHost _ _ | writeFailed _ _ => true
  | _ => false

end Fault

end TaggedGrammar
