import TaggedGrammar.Command.Words
import TaggedGrammar.Table.Load

/-!
# Requests

What the command line can ask for: writing or checking the documents, printing one of them, and listing the
entries of a table.
-/

namespace TaggedGrammar

open Files

namespace Command

/-- The name of the program. -/
def programName : String := "ctg"

/-- The text of the version. -/
def versionText : String := programName ++ " 0.1.0\n"

/-- A text of lines. -/
def lines (texts : List String) : String :=
  String.join (texts.map (· ++ "\n"))

/-- The switch that every command has. -/
def helpSwitch : Switch := ⟨["-h", "--help"], .help⟩

/-- The switches for the files of the tables. -/
def tableSwitches : List Switch :=
  [⟨["--languages"], .value⟩, ⟨["--hosts"], .value⟩]

/-- The form of the program as a whole. -/
def mainForm : Form where
  program := programName
  usage := lines [
    "usage: ctg [-h] [-v] \x7bgenerate,render,list\x7d ..."]
  help := lines [
    "usage: ctg [-h] [-v] \x7bgenerate,render,list\x7d ...",
    "",
    "Comment-tagged template grammar generator",
    "",
    "positional arguments:",
    "  \x7bgenerate,render,list\x7d",
    "    generate            Write grammar files for every host language",
    "    render              Print one grammar to stdout",
    "    list                List table entries (JSON)",
    "",
    "options:",
    "  -h, --help            show this help message and exit",
    "  -v, --version         show program's version number and exit"]
  switches := [helpSwitch, ⟨["-v", "--version"], .version⟩]
  operand := some ⟨"cmd", ["generate", "render", "list"], true⟩

/-- The form of the command that writes or checks the documents. -/
def generateForm : Form where
  program := "ctg generate"
  usage := lines [
    "usage: ctg generate [-h] [--languages FILE] [--hosts FILE] [--out DIR]",
    "                    [--check]"]
  help := lines [
    "usage: ctg generate [-h] [--languages FILE] [--hosts FILE] [--out DIR]",
    "                    [--check]",
    "",
    "options:",
    "  -h, --help        show this help message and exit",
    "  --languages FILE  YAML language table (default: bundled table)",
    "  --hosts FILE      YAML host language table (default: bundled table)",
    "  --out DIR         output directory (default: ./syntaxes)",
    "  --check           do not write; exit 1 if any file is missing or outdated"]
  switches := helpSwitch :: tableSwitches ++ [⟨["--out"], .value⟩, ⟨["--check"], .flag⟩]
  operand := none

/-- The form of the command that prints one document. -/
def renderForm : Form where
  program := "ctg render"
  usage := lines [
    "usage: ctg render [-h] [--languages FILE] [--hosts FILE] [--reinjection] host"]
  help := lines [
    "usage: ctg render [-h] [--languages FILE] [--hosts FILE] [--reinjection] host",
    "",
    "positional arguments:",
    "  host              host language name, e.g. fsharp or javascript",
    "",
    "options:",
    "  -h, --help        show this help message and exit",
    "  --languages FILE  YAML language table (default: bundled table)",
    "  --hosts FILE      YAML host language table (default: bundled table)",
    "  --reinjection     print the reinjection grammar instead of the basic one"]
  switches := helpSwitch :: tableSwitches ++ [⟨["--reinjection"], .flag⟩]
  operand := some ⟨"host", [], false⟩

/-- The form of the command that lists the entries of a table. -/
def listForm : Form where
  program := "ctg list"
  usage := lines [
    "usage: ctg list [-h] [--languages FILE] [--hosts FILE] \x7blanguages,hosts\x7d"]
  help := lines [
    "usage: ctg list [-h] [--languages FILE] [--hosts FILE] \x7blanguages,hosts\x7d",
    "",
    "positional arguments:",
    "  \x7blanguages,hosts\x7d  what to list",
    "",
    "options:",
    "  -h, --help         show this help message and exit",
    "  --languages FILE   YAML language table (default: bundled table)",
    "  --hosts FILE       YAML host language table (default: bundled table)"]
  switches := helpSwitch :: tableSwitches
  operand := some ⟨"what", ["languages", "hosts"], false⟩

/-- What the command line asks for. -/
inductive Request where
  /-- Write the documents. -/
  | update (out : Option Files.Path) (sources : Table.Sources)
  /-- Compare the documents on disk with what would be written. -/
  | check (out : Option Files.Path) (sources : Table.Sources)
  /-- Print one document. -/
  | render (host : String) (reinjection : Bool) (sources : Table.Sources)
  /-- List the entries of a table. -/
  | list (what : String) (sources : Table.Sources)

namespace Request

/-- The files of the tables that a command line gives. -/
def sourcesOf (g : Given) : Table.Sources :=
  ⟨(g.value? "--languages").map (Files.Path.ofText ·), (g.value? "--hosts").map (Files.Path.ofText ·)⟩

/-- The word of an operand. -/
def operandOf (g : Given) : String :=
  (g.operand.getD []).headD ""

/-- The request of a command, with the words that it leaves over. -/
def ofCommand (command : String) (words : List String) : Except Stop (Request × List String) := do
  match command with
  | "generate" =>
    let g ← generateForm.read versionText words
    let out := (g.value? "--out").map (Files.Path.ofText ·)
    return (if g.isSet "--check" then check out (sourcesOf g) else update out (sourcesOf g), g.left)
  | "render" =>
    let g ← renderForm.read versionText words
    return (render (operandOf g) (g.isSet "--reinjection") (sourcesOf g), g.left)
  | _ =>
    let g ← listForm.read versionText words
    return (list (operandOf g) (sourcesOf g), g.left)

/-- The request of a command line. No word may be left over. -/
def ofWords (words : List String) : Except Stop Request := do
  let g ← mainForm.read versionText words
  let (request, left) ← ofCommand (operandOf g) ((g.operand.getD []).drop 1)
  match g.left ++ left with
  | [] => return request
  | extra => mainForm.misuse ("unrecognized arguments: " ++ String.intercalate " " extra)

end Request

end Command

end TaggedGrammar
