import TaggedGrammar.Command.Request
import TaggedGrammar.Json.Writer
import TaggedGrammar.Output.Update

/-!
# Carrying out requests

A request ends with an exit code and the texts of the two output streams. The code is 0 on success, 1 when a
check finds outdated documents, and 2 when the user has to mend something. Other faults are passed on. One of
them is a text for standard output that has no bytes, if the stream takes bytes.
-/

namespace TaggedGrammar.Command

/-- How the program ends: its exit code and what it writes. -/
structure Report where
  code : Nat
  out : Text
  err : Text
  deriving DecidableEq, Repr

/-- What standard output takes: bytes, as a file or a terminal does, or letters, as a text that is kept. -/
inductive Stream where
  | bytes
  | letters
  deriving DecidableEq, Repr

/-- Writes a text to standard output; what is there then. -/
def Stream.write : Stream → Text → Outcome Text
  | letters, text => .ok text
  | bytes, text => if text.bytes?.isSome then .ok text else .fail .notEncodable

/-- The entries of a language table. -/
def languageListing (languages : List Language) : Value :=
  .ofFields [("languages", .list (languages.map fun l =>
    .ofFields [("name", .str l.name), ("identifiers", .ofTexts l.identifiers), ("sources", .ofTexts l.sources)]))]

/-- The entries of a host table. -/
def hostListing (hosts : List Host) : Value :=
  .ofFields [("hosts", .list (hosts.map fun h =>
    .ofFields [("name", .str h.name), ("targetScopes", .ofTexts h.targetScopes)]))]

/-- The entries of a table, by the name of the table. -/
def listing (what : String) (sources : Table.Sources) : Run Value := do
  match what with
  | "languages" => return languageListing (← Table.loadLanguages sources.languages)
  | "hosts" => return hostListing (← Table.loadHosts sources.hosts)
  | _ => Run.fail (.unknownList what)

/-- The lines that name outdated documents. -/
def outdatedLines (names : List Text) : Text :=
  names.flatMap fun n => "Outdated grammar: " ++ n ++ "\n"

/-- Carries out a request. -/
def Request.perform (stream : Stream) : Request → Run Report
  | .update out sources => do
    let _ ← Output.update out sources
    return ⟨0, "", ""⟩
  | .check out sources => do
    let names ← Output.check out sources
    return ⟨if names.isEmpty then 0 else 1, "", outdatedLines names⟩
  | .render host reinjection sources => do
    let tables ← Table.load sources
    let text ← Run.ofOutcome (renderHost tables host reinjection)
    let out ← Run.ofOutcome (stream.write text)
    return ⟨0, out, ""⟩
  | .list what sources => do
    let value ← listing what sources
    let out ← Run.ofOutcome (stream.write (Json.line value))
    return ⟨0, out, ""⟩

/-- The lines of the notices from a level on; none when notices go elsewhere. -/
def noticeLines (level : Option Level) (notices : List Notice) : Text :=
  match level with
  | none => ""
  | some l => (notices.filter fun n => l.rank ≤ n.level.rank).flatMap fun n =>
      "[" ++ n.level.name ++ "] " ++ n.message ++ "\n"

/-- The level of a run that may be set to show all notices. -/
def levelFor (debug : Bool) : Level :=
  if debug then .debug else .info

/-- How the program ends. -/
inductive Ending where
  | finished (report : Report)
  /-- A fault that the user cannot mend is passed on; what was written before stays. -/
  | escaped (fault : Fault) (out err : Text)

/-- The ending of a command line that is not carried out. -/
def Stop.report : Stop → Report
  | .shown text => ⟨0, text, ""⟩
  | .misuse program usage message => ⟨2, "", usage ++ program ++ ": error: " ++ message ++ "\n"⟩

/-- The ending of a request. -/
def endingOf (level : Option Level) (o : Outcome Report) : Ending :=
  let lines := noticeLines level o.notices
  match o.result with
  | .ok r => .finished { r with err := lines ++ r.err }
  | .error f =>
    if f.isUserFault then .finished ⟨2, "", lines ++ Text.trimEnd f.message ++ "\n"⟩
    else .escaped f "" lines

/-- Carries out a command line, in a session of its own. -/
def execute (stream : Stream) (level : Option Level) (words : List String) (d : Files.Disk) :
    Ending × Files.Disk :=
  match Request.ofWords words with
  | .error stop => (.finished stop.report, d)
  | .ok request =>
    let (o, s) := request.perform stream (.start d)
    (endingOf level o, s.disk)

end TaggedGrammar.Command
