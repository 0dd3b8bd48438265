import TaggedGrammar.Command.Execute
import TaggedGrammar.Proofs.Command.Operands
import TaggedGrammar.Proofs.Output.KeyOrder
import TaggedGrammar.Proofs.Output.Rendered
import TaggedGrammar.Proofs.Output.Verdict

/-!
# How the program ends

A command line that is carried out ends with the code 0, 1 or 2, or a fault escapes. `Concludes` says which of these it
is: first its tables are judged, and then a request with tables writes documents, compares them or prints a text. Every
request concludes in one way only, so each ending has its condition: 1 is for a check that can read all documents and
misses one, 2 for what the user can mend in a table, in the name of a host or at the output directory, and what escapes
is none of these.
-/

namespace TaggedGrammar

open Files Files.Disk Run

/-- The documents of tables, in the order of the hosts. -/
def Tables.documents (tables : Tables) : List GeneratedFile :=
  tables.hosts.flatMap (documentsOf tables.languages)

namespace Table

variable {d : Disk} {sources : Sources} {tables : Tables}

/-- What a source gives is a table, since the bundled ones are. -/
lemma exists_isTable_of_fromSource {α : Type} {bundled a : α} {IsTable : List (Value × Value) → α → Prop}
    {Stops : List (Value × Value) → Prop} {m : Yaml.Memory} {path : Option Files.Path} {raw : List (Value × Value)}
    (own : IsTable raw bundled) (h : FromSource bundled IsTable Stops d m path (.ok a)) : ∃ raw, IsTable raw a := by
  cases h with
  | bundled => exact ⟨raw, own⟩
  | file hfile =>
    cases hfile with
    | table _ _ _ htable => exact ⟨_, htable⟩

/-- The tables that sources give are in order. -/
lemma Sources.Give.isTable (h : sources.Give d (.ok tables)) :
    (∃ raw, IsLanguageTable raw tables.languages) ∧ ∃ raw, IsShortHostTable raw tables.hosts := by
  cases h with
  | tables hlanguages hhosts =>
    exact ⟨exists_isTable_of_fromSource isLanguageTable_bundled hlanguages,
      exists_isTable_of_fromSource isShortHostTable_bundled hhosts⟩

/-- All documents of such tables are generated. -/
lemma Sources.Give.ends_generate (h : sources.Give d (.ok tables)) (s : Session) :
    Ends (ofOutcome (generate tables.languages tables.hosts)) s (.ok tables.documents) s := by
  obtain ⟨⟨raw, hlanguages⟩, ⟨raw', hhosts⟩⟩ := h.isTable
  have generated := result_generate (parsedBy_languages.accepts hlanguages) (parsedBy_hosts.accepts hhosts)
  exact ends_ofOutcome.2 ⟨generated.symm, rfl⟩

/-- Any single one of them is printed. -/
lemma Sources.Give.result_renderHost {host : Host} (h : sources.Give d (.ok tables)) (hhost : host ∈ tables.hosts)
    (reinjection : Bool) :
    (renderHost tables host.name reinjection).result = .ok (documentText tables.languages host reinjection) := by
  obtain ⟨⟨raw, hlanguages⟩, ⟨raw', -, short⟩⟩ := h.isTable
  obtain ⟨m, loaded⟩ := h.ends_load
  exact TaggedGrammar.result_renderHost hlanguages.names (nodup_of_load loaded) hhost (short host hhost) reinjection

end Table

namespace Output

/-- The directory of an update or a check. -/
def located (d : Disk) : Option Files.Path → Except Fault Files.Path
  | some p => .ok p
  | none => d.resolve ((⟨1, d.here.reverse⟩ : Files.Path).child directoryName)

/-- The directory is found by a look at the disk. -/
lemma ends_directory {d : Disk} {out : Option Files.Path} {found : Except Fault Files.Path} (h : located d out = found)
    (m : Yaml.Memory) : Ends (directory out) ⟨d, m⟩ found ⟨d, m⟩ := by
  subst h
  cases out with
  | some p => exact ends_pure.2 ⟨rfl, rfl⟩
  | none => exact ends_inspect.2 ⟨rfl, rfl⟩

/-- A default directory that is not found is nothing that the user is told about. -/
lemma isUserFault_of_located {d : Disk} {out : Option Files.Path} {f : Fault} (h : located d out = .error f) :
    f.isUserFault = false := by
  cases out with
  | some p => cases h
  | none =>
    unfold located resolve at h
    dsimp only at h
    split at h
    next unfit =>
      cases h
      rcases unfitPath?_cases unfit with rfl | rfl <;> rfl
    · split at h
      · cases h
        rfl
      · cases h

end Output

namespace Command

/-- A text that standard output takes. -/
def Stream.Takes (stream : Stream) (text : Text) : Prop :=
  stream = .bytes → text.bytes?.isSome

/-- A text that standard output takes is printed. -/
lemma Stream.result_write {stream : Stream} {text : Text} (h : stream.Takes text) :
    (stream.write text).result = .ok text := by
  cases stream with
  | letters => rfl
  | bytes =>
    rw [write, if_pos (h rfl)]
    rfl

/-- All other texts have no bytes. -/
lemma Stream.result_write_of_not {stream : Stream} {text : Text} (h : ¬stream.Takes text) :
    (stream.write text).result = .error .notEncodable := by
  cases stream with
  | letters => exact absurd nofun h
  | bytes =>
    rw [write, if_neg fun some => h fun _ => some]
    rfl

namespace Request

/-- The files that a request reads its tables from. -/
def tables : Request → Table.Sources
  | .update _ sources | .check _ sources | .render _ _ sources => sources
  | .list what sources =>
    if what = "languages" then { sources with hosts := none } else { sources with languages := none }

/-- The text that a request with tables prints. -/
inductive Prints (tables : Tables) : Request → Text → Prop where
  | document {name : String} {reinjection sources host} :
    host ∈ tables.hosts →
    host.name = name →
    Prints tables (.render name reinjection sources) (documentText tables.languages host reinjection)
  | languages {sources} :
    Prints tables (.list "languages" sources) (Json.line (languageListing tables.languages))
  | hosts {sources} :
    Prints tables (.list "hosts" sources) (Json.line (hostListing tables.hosts))

/-- How a request with tables ends. -/
inductive Answers (stream : Stream) (d : Disk) (tables : Tables) : Request → Except Halt Nat → Prop where
  | written {out sources target} :
    Output.located d out = .ok target →
    Output.Stores target d tables.documents (.ok ()) →
    Answers stream d tables (.update out sources) (.ok 0)
  | unwritten {out sources target halt} :
    Output.located d out = .ok target →
    Output.Stores target d tables.documents (.error halt) →
    Answers stream d tables (.update out sources) (.error halt)
  | current {out sources target} :
    Output.located d out = .ok target →
    Output.Compares d target tables.documents (.ok true) →
    Answers stream d tables (.check out sources) (.ok 0)
  | outdated {out sources target} :
    Output.located d out = .ok target →
    Output.Compares d target tables.documents (.ok false) →
    Answers stream d tables (.check out sources) (.ok 1)
  | unread {out sources target halt} :
    Output.located d out = .ok target →
    Output.Compares d target tables.documents (.error halt) →
    Answers stream d tables (.check out sources) (.error halt)
  | noDirectory {request out sources f} :
    request = .update out sources ∨ request = .check out sources →
    Output.located d out = .error f →
    Answers stream d tables request (.error (.escape f))
  | unknownHost {name : String} {reinjection sources} :
    Text.ofString name ∉ tables.hosts.map Host.name →
    Answers stream d tables (.render name reinjection sources) (.error .problem)
  | printed {request text} :
    Prints tables request text →
    stream.Takes text →
    Answers stream d tables request (.ok 0)
  | unprintable {request text} :
    Prints tables request text →
    ¬stream.Takes text →
    Answers stream d tables request (.error (.escape .notEncodable))

/-- How a request ends on the disk `d`. -/
inductive Concludes (stream : Stream) (d : Disk) (request : Request) : Except Halt Nat → Prop where
  | noTables {halt} :
    request.tables.Give d (.error halt) →
    Concludes stream d request (.error halt)
  | answered {tables v} :
    request.tables.Give d (.ok tables) →
    Answers stream d tables request v →
    Concludes stream d request v

variable {stream : Stream} {d : Disk} {request : Request} {tables : Tables} {text : Text}

section Total

/-- A text is printed or it is not. -/
lemma exists_answers_of_prints (h : Prints tables request text) : ∃ v, Answers stream d tables request v := by
  by_cases takes : stream.Takes text
  · exact ⟨_, .printed h takes⟩
  · exact ⟨_, .unprintable h takes⟩

/-- Every request with tables ends in some way, if it lists one of the two tables. -/
lemma exists_answers (stream : Stream) (d : Disk) (tables : Tables)
    (listed : ∀ what sources, request = .list what sources → what = "languages" ∨ what = "hosts") :
    ∃ v, Answers stream d tables request v := by
  cases request with
  | update out sources =>
    cases found : Output.located d out with
    | error f => exact ⟨_, .noDirectory (.inl rfl) found⟩
    | ok target =>
      obtain ⟨v, stores⟩ := Output.exists_stores target d tables.documents
      cases v with
      | ok _ => exact ⟨_, .written found stores⟩
      | error halt => exact ⟨_, .unwritten found stores⟩
  | check out sources =>
    cases found : Output.located d out with
    | error f => exact ⟨_, .noDirectory (.inr rfl) found⟩
    | ok target =>
      obtain ⟨v, compares⟩ := Output.exists_compares d target tables.documents
      match v with
      | .ok true => exact ⟨_, .current found compares⟩
      | .ok false => exact ⟨_, .outdated found compares⟩
      | .error halt => exact ⟨_, .unread found compares⟩
  | render name reinjection sources =>
    by_cases known : Text.ofString name ∈ tables.hosts.map Host.name
    · obtain ⟨host, hhost, hname⟩ := List.mem_map.1 known
      exact exists_answers_of_prints (.document hhost hname)
    · exact ⟨_, .unknownHost known⟩
  | list what sources =>
    rcases listed what sources rfl with rfl | rfl
    · exact exists_answers_of_prints .languages
    · exact exists_answers_of_prints .hosts

/-- Every request of a command line concludes in some way. -/
lemma exists_concludes {words : List String} (accepted : ofWords words = .ok request) (stream : Stream) (d : Disk) :
    ∃ v, request.Concludes stream d v := by
  obtain ⟨given, hgiven⟩ := Table.Sources.exists_give d request.tables
  cases given with
  | error halt => exact ⟨_, .noTables hgiven⟩
  | ok tables =>
    obtain ⟨v, answers⟩ : ∃ v, Answers stream d tables request v := by
      apply exists_answers
      rintro what sources rfl
      exact what_of_ofWords accepted
    exact ⟨v, .answered hgiven answers⟩

end Total

section Perform

variable {v : Except Halt Nat} {halt : Halt}

/-- A request without tables stops as they do. -/
lemma verdict_of_noTables (given : request.tables.Give d (.error halt))
    (listed : ∀ what sources, request = .list what sources → what = "languages" ∨ what = "hosts") :
    verdict (request.perform stream) (.start d) = .error halt := by
  cases request with
  | update out sources => exact verdict_bind_of_halt (verdict_bind_of_halt given.verdict_load)
  | check out sources => exact verdict_bind_of_halt (verdict_bind_of_halt given.verdict_load)
  | render name reinjection sources => exact verdict_bind_of_halt given.verdict_load
  | list what sources =>
    -- the other table is the bundled one, which is always given
    rcases listed what sources rfl with rfl | rfl
    · cases given with
      | noLanguages hlanguages =>
        exact verdict_bind_of_halt (verdict_bind_of_halt (Table.verdict_loadLanguages hlanguages))
      | noHosts _ hhosts => cases hhosts
    · cases given with
      | noLanguages hlanguages => cases hlanguages
      | noHosts _ hhosts => exact verdict_bind_of_halt (verdict_bind_of_halt (Table.verdict_loadHosts hhosts))

/-- A request that prints a text does nothing after it. -/
lemma verdict_of_prints (given : request.tables.Give d (.ok tables)) (h : Prints tables request text) :
    ∃ s, verdict (request.perform stream) (.start d) =
      verdict (do let out ← ofOutcome (stream.write text); return ⟨0, out, ""⟩) s := by
  cases h with
  | document hhost hname =>
    obtain ⟨m, loaded⟩ := given.ends_load
    have rendered := given.result_renderHost hhost
    rw [hname] at rendered
    refine ⟨⟨d, m⟩, loaded.verdict_bind.trans ?_⟩
    exact (ends_ofOutcome.2 ⟨(rendered _).symm, rfl⟩).verdict_bind
  | @languages sources =>
    cases given with
    | @tables languages hosts hlanguages =>
      have listed : Ends (listing "languages" sources) (.start d) (.ok (languageListing languages)) _ :=
        Ends.bind (Table.ends_loadLanguages rfl hlanguages).1 (ends_pure.2 ⟨rfl, rfl⟩)
      exact ⟨_, listed.verdict_bind⟩
  | @hosts sources =>
    cases given with
    | @tables languages hosts _ hhosts =>
      have listed : Ends (listing "hosts" sources) (.start d) (.ok (hostListing hosts)) _ :=
        Ends.bind (Table.ends_loadHosts rfl hhosts) (ends_pure.2 ⟨rfl, rfl⟩)
      exact ⟨_, listed.verdict_bind⟩

/-- An update or a check without a directory stops there. -/
lemma verdict_of_noDirectory {out : Option Files.Path} {sources : Table.Sources} {f : Fault}
    (given : sources.Give d (.ok tables)) (found : Output.located d out = .error f) :
    verdict (Output.update out sources) (.start d) = .error (.escape f) ∧
      verdict (Output.check out sources) (.start d) = .error (.escape f) := by
  obtain ⟨m, loaded⟩ := given.ends_load
  have stopped := (Output.ends_directory found m).verdict_error
  rw [haltOf_of_not_user (Output.isUserFault_of_located found)] at stopped
  constructor
  · rw [Output.update, loaded.verdict_bind, (given.ends_generate _).verdict_bind]
    exact verdict_bind_of_halt stopped
  · rw [Output.check, loaded.verdict_bind]
    exact verdict_bind_of_halt stopped

/-- An update with a directory is the writing of its documents. -/
lemma code_of_update {out : Option Files.Path} {sources : Table.Sources} {target : Files.Path} {v : Except Halt Unit}
    (given : sources.Give d (.ok tables)) (found : Output.located d out = .ok target)
    (stores : Output.Stores target d tables.documents v) :
    (verdict ((Request.update out sources).perform stream) (.start d)).map Report.code = v.map fun _ => 0 := by
  obtain ⟨m, loaded⟩ := given.ends_load
  rw [perform, verdict_bind_of_total fun _ _ => rfl, Output.update, loaded.verdict_bind,
    (given.ends_generate _).verdict_bind, (Output.ends_directory found m).verdict_bind,
    verdict_bind_of_total fun _ _ => rfl, ← @Output.verdict_writeFiles _ _ ⟨d, m⟩ _ stores]
  cases verdict (Output.writeFiles target _) _ <;> rfl

/-- A check with a directory is the comparison of its documents. -/
lemma code_of_check {out : Option Files.Path} {sources : Table.Sources} {target : Files.Path} {v : Except Halt Bool}
    (given : sources.Give d (.ok tables)) (found : Output.located d out = .ok target)
    (compares : Output.Compares d target tables.documents v) :
    (verdict ((Request.check out sources).perform stream) (.start d)).map Report.code =
      v.map fun current => if current then 0 else 1 := by
  obtain ⟨m, loaded⟩ := given.ends_load
  rw [perform, verdict_bind_of_total fun _ _ => rfl, Output.check, loaded.verdict_bind,
    (Output.ends_directory found m).verdict_bind, (given.ends_generate _).verdict_bind,
    ← @Output.verdict_outdated target ⟨d, m⟩ _ _ compares]
  cases verdict (Output.outdated target _) _ <;> rfl

/-- A request ends as it concludes. -/
lemma code_of_concludes {words : List String} (accepted : ofWords words = .ok request)
    (h : request.Concludes stream d v) : (verdict (request.perform stream) (.start d)).map Report.code = v := by
  cases h with
  | noTables given =>
    rw [verdict_of_noTables given]
    · rfl
    · rintro what sources rfl
      exact what_of_ofWords accepted
  | @answered tables _ given answers =>
    cases answers with
    | written found stores => exact code_of_update given found stores
    | unwritten found stores => exact code_of_update given found stores
    | current found compares => exact code_of_check given found compares
    | outdated found compares => exact code_of_check given found compares
    | unread found compares => exact code_of_check given found compares
    | noDirectory hrequest found =>
      rcases hrequest with rfl | rfl
      · exact congrArg _ (verdict_bind_of_halt (verdict_of_noDirectory given found).1)
      · exact congrArg _ (verdict_bind_of_halt (verdict_of_noDirectory given found).2)
    | @unknownHost name reinjection _ unknown =>
      have refused : (renderHost tables name reinjection).result = .error (.unknownHost name _) :=
        renderHost_eq_unknownHost.2 unknown
      obtain ⟨m, loaded⟩ := given.ends_load
      have stopped : verdict (ofOutcome (renderHost tables name reinjection)) ⟨d, m⟩ = .error .problem :=
        (ends_ofOutcome.2 ⟨refused.symm, rfl⟩).verdict_error
      rw [Request.tables] at loaded
      rw [perform, loaded.verdict_bind, verdict_bind_of_halt stopped]
      rfl
    | printed prints takes =>
      obtain ⟨s, printed⟩ := @verdict_of_prints stream _ _ _ _ given prints
      rw [printed, (ends_ofOutcome.2 ⟨(Stream.result_write takes).symm, rfl⟩).verdict_bind]
      rfl
    | unprintable prints refuses =>
      obtain ⟨s, printed⟩ := @verdict_of_prints stream _ _ _ _ given prints
      have stopped : verdict (ofOutcome (stream.write _)) s = .error (.escape .notEncodable) :=
        (ends_ofOutcome.2 ⟨(Stream.result_write_of_not refuses).symm, rfl⟩).verdict_error
      rw [printed, verdict_bind_of_halt stopped]
      rfl

/-- A request that ends well finds all in order, or it finds something outdated. -/
lemma code_le_one_of_concludes {code : Nat} (h : request.Concludes stream d (.ok code)) : code ≤ 1 := by
  cases h with
  | answered _ answers => cases answers <;> decide

end Perform

end Request

section Ending

variable {level : Option Level} {o : Outcome Report}

/-- The exit code, if the program ends with one. -/
def Ending.code? : Ending → Option Nat
  | .finished report => some report.code
  | .escaped .. => none

/-- The fault that escapes, if there is one. -/
def Ending.fault? : Ending → Option Fault
  | .finished _ => none
  | .escaped f .. => some f

/-- What is on standard output at the end. -/
def Ending.out : Ending → Text
  | .finished report => report.out
  | .escaped _ out _ => out

/-- What an ending says about a request on a disk. -/
structure Ending.Tells (e : Ending) (stream : Stream) (d : Disk) (request : Request) : Prop where
  /-- There is no other code than 0, 1 and 2. -/
  codes : ∀ code, e.code? = some code → code ≤ 2
  success : e.code? = some 0 ↔ request.Concludes stream d (.ok 0)
  outdated : e.code? = some 1 ↔ request.Concludes stream d (.ok 1)
  problem : e.code? = some 2 ↔ request.Concludes stream d (.error .problem)
  escape : ∀ f, e.fault? = some f ↔ request.Concludes stream d (.error (.escape f))
  /-- Nothing is printed if the request fails. -/
  silent : e.code? = some 2 ∨ e.code? = none → e.out = []

/-- A request that ends well gives its code to the program. -/
lemma endingOf_of_ok {r : Report} (h : o.result = .ok r) :
    (endingOf level o).code? = some r.code ∧ (endingOf level o).fault? = none := by
  rw [endingOf, h]
  exact ⟨rfl, rfl⟩

/-- What the user can mend gives the code 2. -/
lemma endingOf_of_userFault {f : Fault} (h : o.result = .error f) (huser : f.isUserFault = true) :
    ∃ err, endingOf level o = .finished ⟨2, [], err⟩ := by
  rw [endingOf, h]
  exact ⟨_, if_pos huser⟩

/-- All other faults escape. -/
lemma endingOf_of_fault {f : Fault} (h : o.result = .error f) (huser : f.isUserFault = false) :
    ∃ err, endingOf level o = .escaped f [] err := by
  rw [endingOf, h]
  exact ⟨_, if_neg (Bool.not_eq_true _ ▸ huser)⟩

end Ending

/-- A command line that is carried out ends with 0, 1 or 2, or a fault escapes, and each ending has its condition on the
tables, the hosts, the documents and what is in their places. -/
theorem program_ends_as_concluded (stream : Stream) (level : Option Level) {words : List String} {request : Request}
    (accepted : Request.ofWords words = .ok request) (d : Disk) :
    (execute stream level words d).1.Tells stream d request := by
  obtain ⟨v, concludes⟩ := Request.exists_concludes accepted stream d
  have code := Request.code_of_concludes accepted concludes
  -- a request concludes in one way only, so that it is enough to look at that one
  have concludes_iff (v' : Except Halt Nat) : request.Concludes stream d v' ↔ v' = v := by
    constructor
    · exact fun h => (Request.code_of_concludes accepted h).symm.trans code
    · rintro rfl
      exact concludes
  have executed : (execute stream level words d).1 = endingOf level (request.perform stream (.start d)).1 := by
    rw [execute, accepted]
  rw [executed]
  cases result : (request.perform stream (.start d)).1.result with
  | ok r =>
    have hv : Except.ok r.code = v := by
      rw [← code, verdict, result]
      rfl
    subst hv
    obtain ⟨hcode, hfault⟩ := @endingOf_of_ok level _ _ result
    have small := Request.code_le_one_of_concludes concludes
    have hne : r.code ≠ 2 := by omega
    constructor <;> simp only [hcode, hfault, concludes_iff, Option.some.injEq, Except.ok.injEq]
    · omega
    · exact eq_comm
    · exact eq_comm
    · simp [hne]
    · simp
    · simp [hne]
  | error f =>
    have hv : Except.error (haltOf f) = v := by
      rw [← code, verdict, result]
      rfl
    subst hv
    cases huser : f.isUserFault with
    | true =>
      obtain ⟨err, ending⟩ := @endingOf_of_userFault level _ _ result huser
      rw [ending]
      rw [haltOf_of_user huser] at concludes_iff
      constructor <;> simp [Ending.code?, Ending.fault?, Ending.out, concludes_iff]
    | false =>
      obtain ⟨err, ending⟩ := @endingOf_of_fault level _ _ result huser
      rw [ending]
      rw [haltOf_of_not_user huser] at concludes_iff
      constructor <;> simp [Ending.code?, Ending.fault?, Ending.out, concludes_iff, eq_comm]

section Sample

/-- A disk with a file that holds no text. -/
def garbledDisk : Disk :=
  (Disk.empty []).put [Text.ofString "a.yaml"] (.file ⟨#[0xff]⟩)

/-- A command line that takes this file for a table. -/
def garbledWords : List String :=
  ["list", "languages", "--languages", "a.yaml"]

/-- The request of this command line. -/
def garbledRequest : Request :=
  .list "languages" ⟨some ⟨0, [Text.ofString "a.yaml"]⟩, none⟩

/-- What the file holds. -/
lemma garbled_content : garbledDisk.contentAt ⟨0, [Text.ofString "a.yaml"]⟩ = .ok ⟨#[0xff]⟩ := by
  decide +kernel

/-- The file is not read as a table. -/
lemma concludes_garbled (stream : Stream) :
    garbledRequest.Concludes stream garbledDisk (.error (.escape .notText)) := by
  refine .noTables (.noLanguages (.file (.unreadable (.notText garbled_content ?_))))
  decide +kernel

/-- A table file that holds no text is not reported to the user. -/
theorem table_without_text_escapes :
    Request.ofWords garbledWords = .ok garbledRequest ∧
      (execute .bytes none garbledWords garbledDisk).1.fault? = some .notText ∧
      (execute .bytes none garbledWords garbledDisk).1.out = [] := by
  have accepted : Request.ofWords garbledWords = .ok garbledRequest := rfl
  have tells := program_ends_as_concluded .bytes none accepted garbledDisk
  have escaped := (tells.escape .notText).2 (concludes_garbled .bytes)
  refine ⟨accepted, escaped, tells.silent (.inr ?_)⟩
  cases ending : (execute .bytes none garbledWords garbledDisk).1 with
  | finished report =>
    rw [ending] at escaped
    cases escaped
  | escaped f out err => rfl

end Sample

end Command

end TaggedGrammar
