import TaggedGrammar.Text.Class
import TaggedGrammar.Text.Quoted

/-!
# Words of a command line

A command takes switches and at most one operand. Each word is first told apart: it is an operand, a switch,
or the double dash behind which all words are operands. A long switch may be cut short as long as only one
switch begins that way, and a value may be attached to it by an equals sign.
-/

namespace TaggedGrammar.Command

/-- What a switch does. -/
inductive Effect where
  /-- Shows the help text and ends. -/
  | help
  /-- Shows the version and ends. -/
  | version
  /-- Is set or not. -/
  | flag
  /-- Has a value, which is the next word or is attached. -/
  | value
  deriving DecidableEq, Repr

/-- A switch: its spellings, the long one last, and what it does. -/
structure Switch where
  names : List String
  effect : Effect
  deriving DecidableEq, Repr

/-- The name of a switch in messages. -/
def Switch.label (s : Switch) : String :=
  String.intercalate "/" s.names

/-- The name by which a switch is looked up. -/
def Switch.key (s : Switch) : String :=
  s.names.getLastD ""

/-- The operand of a command. -/
structure Operand where
  name : String
  /-- The words that it may be; any word, if there are none. -/
  choices : List String
  /-- Whether it takes all words behind it too. -/
  takesRest : Bool

/-- A command: its name, its texts, and what it takes. -/
structure Form where
  program : String
  usage : String
  help : String
  switches : List Switch
  operand : Option Operand

/-- Why a command line is not carried out. -/
inductive Stop where
  /-- A text was asked for. -/
  | shown (text : String)
  /-- The words do not fit the command. -/
  | misuse (program usage : String) (message : Text)
  deriving DecidableEq, Repr

/-- The words do not fit the command. -/
def Form.misuse {α : Type} (f : Form) (message : Text) : Except Stop α :=
  .error (.misuse f.program f.usage message)

/-- The words do not fit a switch or an operand of the command. -/
def Form.misuseAt {α : Type} (f : Form) (label : String) (message : Text) : Except Stop α :=
  f.misuse ("argument " ++ label ++ ": " ++ message)

/-- What a word is. -/
inductive Role where
  | operand
  | separator
  /-- A switch, how it is spelled, and the value attached to it. -/
  | switch (s : Switch) (spelling : String) (attached : Option String)
  /-- A word that looks like a switch and is none. -/
  | stray

/-- Whether a word is or looks like a switch. -/
def Role.isSwitch : Role → Bool
  | .switch _ _ _ | .stray => true
  | .operand | .separator => false

/-- A word at its first equals sign. -/
def splitValue (word : String) : String × Option String :=
  let cs := word.toList
  match cs.dropWhile (· ≠ '=') with
  | _ :: rest => (String.ofList (cs.takeWhile (· ≠ '=')), some (String.ofList rest))
  | [] => (word, none)

/-- Whether a text begins with another. -/
def beginsWith (start word : String) : Bool :=
  start.toList.isPrefixOf word.toList

/-- Whether a word is a negative number. -/
def isNegativeNumber (word : String) : Bool :=
  match word.toList with
  | '-' :: rest =>
    let body := if rest.getLast? = some '\n' then rest.dropLast else rest
    let whole := body.takeWhile Text.isDigit
    match body.dropWhile Text.isDigit with
    | [] => !whole.isEmpty
    | '.' :: fraction => !fraction.isEmpty && fraction.all Text.isDigit
    | _ => false
  | _ => false

namespace Form

/-- All spellings of switches, in order. -/
def spellings (f : Form) : List (String × Switch) :=
  f.switches.flatMap fun s => s.names.map (·, s)

/-- The switches that a word may be short for, with the spelling and the attached value. -/
def candidates (f : Form) (word : String) : List (Switch × String × Option String) :=
  if beginsWith "--" word then
    let (start, attached) := splitValue word
    f.spellings.filterMap fun (name, s) =>
      if beginsWith start name then some (s, name, attached) else none
  else
    let short := String.ofList (word.toList.take 2)
    let tail := String.ofList (word.toList.drop 2)
    f.spellings.filterMap fun (name, s) =>
      if name = short then some (s, name, some tail)
      else if beginsWith word name then some (s, name, none)
      else none

/-- What a word that is no switch as it stands is. -/
def roleOfShort (f : Form) (word : String) : Except Stop Role :=
  match f.candidates word with
  | [(s, name, attached)] => .ok (.switch s name attached)
  | [] =>
    if isNegativeNumber word || word.toList.contains ' ' then .ok .operand else .ok .stray
  | many =>
    f.misuse ("ambiguous option: " ++ word ++ " could match " ++
      String.intercalate ", " (many.map (·.2.1)))

/-- What a word before any double dash is. -/
def roleOf (f : Form) (word : String) : Except Stop Role :=
  if !beginsWith "-" word then .ok .operand
  else match f.spellings.lookup word with
    | some s => .ok (.switch s word none)
    | none =>
      if word = "-" then .ok .operand
      else
        let (name, attached) := splitValue word
        match attached, f.spellings.lookup name with
        | some value, some s => .ok (.switch s name (some value))
        | _, _ => f.roleOfShort word

/-- What the words are. -/
def roles (f : Form) : List String → Except Stop (List (String × Role))
  | [] => .ok []
  | word :: rest =>
    if word = "--" then .ok ((word, .separator) :: rest.map (·, .operand))
    else do
      let role ← f.roleOf word
      let others ← f.roles rest
      return (word, role) :: others

end Form

end TaggedGrammar.Command
