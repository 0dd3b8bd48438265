import TaggedGrammar.Proofs.Files.Directories
import TaggedGrammar.Proofs.Table.Load
import TaggedGrammar.Proofs.Table.Written

/-!
# What becomes of table files

The file of a table gives a table, or it has a problem that the user can mend, or a fault escapes. `Judges` says which
of these it is, by what the file holds and by what the reader has kept of the table before it. Every file is judged in
one way, and loading ends as the judgement says. The bundled tables are always given.
-/

namespace TaggedGrammar

open Files Run Outcome Value Hint

namespace Files.Disk

/-- Why the text of a file cannot be read although the user has done nothing about it. -/
inductive Unreadable (d : Disk) (p : Path) : Fault → Prop where
  | longName {cause} :
    d.find p = .error (.file cause) →
    cause.problem = .nameTooLong →
    Unreadable d p (.file cause)
  | notText {content} :
    d.contentAt p = .ok content →
    Text.ofBytes? content = none →
    Unreadable d p .notText

/-- The text of the file at a path. -/
def HasText (d : Disk) (p : Path) (text : List Char) : Prop :=
  ∃ content, d.contentAt p = .ok content ∧ Text.ofBytes? content = some text

/-- The text of the file at a path, if there is one that can be read. -/
def text? (d : Disk) (p : Path) : Option (List Char) :=
  (d.contentAt p).toOption.bind Text.ofBytes?

variable {d : Disk} {p : Path}

/-- What cannot be read is nothing that the user can mend. -/
lemma Unreadable.isUserFault {f : Fault} (h : Unreadable d p f) : f.isUserFault = false := by
  cases h <;> rfl

/-- A look for a file fails only where no text can be read. -/
lemma unreadable_of_isFile {f : Fault} (h : d.isFile p = .error f) : Unreadable d p f := by
  have hfind := find_of_map_eq_error h
  cases find_eq_error hfind
  exact .longName hfind rfl

/-- A file that is there has a content. -/
lemma exists_content_of_isFile (h : d.isFile p = .ok true) : ∃ content, d.contentAt p = .ok content := by
  unfold isFile at h
  cases hfind : d.find p with
  | error g =>
    rw [hfind] at h
    cases h
  | ok found =>
    rw [hfind] at h
    cases found with
    | none => cases h
    | some entry =>
      cases entry with
      | file content =>
        obtain ⟨q, located⟩ := find_eq_some.1 hfind
        refine ⟨content, ?_⟩
        rw [contentAt, located]
        rfl
      | directory => cases h
      | link target => cases h

/-- What has a content is a file. -/
lemma isFile_of_contentAt {content : ByteArray} (h : d.contentAt p = .ok content) : d.isFile p = .ok true := by
  unfold contentAt at h
  cases located : d.locate .follow p with
  | error g =>
    rw [located] at h
    cases h
  | ok spot =>
    rw [located] at h
    simp only [bind, Except.bind] at h
    split at h
    next hentry =>
      rw [isFile, find, located]
      dsimp only
      rw [hentry]
      rfl
    · cases h
    · cases h
    · cases h

/-- A file has one text. -/
lemma HasText.unique {text text' : List Char} (h : HasText d p text) (h' : HasText d p text') : text = text' := by
  obtain ⟨content, hcontent, hread⟩ := h
  obtain ⟨content', hcontent', hread'⟩ := h'
  cases hcontent.symm.trans hcontent'
  exact Option.some.inj (hread.symm.trans hread')

/-- What has a text is a file. -/
lemma HasText.isFile {text : List Char} (h : HasText d p text) : d.isFile p = .ok true := by
  obtain ⟨content, hcontent, -⟩ := h
  exact isFile_of_contentAt hcontent

/-- A text that can be read is found. -/
lemma HasText.text?_eq {text : List Char} (h : HasText d p text) : d.text? p = some text := by
  obtain ⟨content, hcontent, hread⟩ := h
  rw [text?, hcontent]
  exact hread

/-- What has a text can be read. -/
lemma HasText.readable {text : List Char} (h : HasText d p text) (f : Fault) : ¬Unreadable d p f := by
  obtain ⟨content, hcontent, hread⟩ := h
  intro unreadable
  cases unreadable with
  | longName hfind =>
    have hfile := isFile_of_contentAt hcontent
    rw [Disk.isFile, hfind] at hfile
    cases hfile
  | notText hcontent' hnone =>
    cases hcontent.symm.trans hcontent'
    cases hread.symm.trans hnone

/-- At a path there is no file, or one that cannot be read, or one with a text. -/
lemma missing_or_unreadable_or_hasText (d : Disk) (p : Path) :
    d.isFile p = .ok false ∨ (∃ f, Unreadable d p f) ∨ ∃ text, HasText d p text := by
  cases hfile : d.isFile p with
  | error f => exact .inr (.inl ⟨f, unreadable_of_isFile hfile⟩)
  | ok there =>
    cases there with
    | false => exact .inl rfl
    | true =>
      obtain ⟨content, hcontent⟩ := exists_content_of_isFile hfile
      cases hread : Text.ofBytes? content with
      | none => exact .inr (.inl ⟨_, .notText hcontent hread⟩)
      | some text => exact .inr (.inr ⟨text, content, hcontent, hread⟩)

end Files.Disk

open Files.Disk

namespace Yaml

open Making

/-- What was read before is handed on, and the memory stays. -/
lemma run_ofReading {α : Type} (r : Reading α) (m : Memory) : (ofReading r).run.run m = (r, m) := by
  cases r <;> rfl

/-- The nodes of a document leave nothing to fill. -/
lemma tasks_document (text : List Char) (m : Memory) : ((document text).run.run m).2.tasks = m.tasks := by
  unfold document
  rw [@run_bind_of_ok _ _ _ _ _ m rfl]
  dsimp only
  split
  rw [@run_bind_of_ok _ _ _ _ _ () rfl, run_ofReading]
  rfl

/-- A text that was read to its end leaves nothing to fill. -/
lemma tasks_of_read {text : List Char} {m : Memory} {v : Value} (h : (read text m).1 = .ok v) (idle : m.tasks = []) :
    (read text m).2.tasks = [] := by
  unfold read value at h ⊢
  cases hroot : ((document text).run.run m).1 with
  | error t =>
    rw [run_bind_of_error hroot] at h
    cases h
  | ok root =>
    rw [run_bind_of_ok hroot] at h ⊢
    cases root with
    | none => exact (tasks_document text m).trans idle
    | some root =>
      dsimp only at h ⊢
      cases hmade : ((makeDocument root).run.run ((document text).run.run m).2).1 with
      | error t =>
        rw [run_bind_of_error hmade] at h
        cases h
      | ok o =>
        rw [run_bind_of_ok hmade]
        rfl

/-- Where nothing is to be filled, settling keeps nothing but the version. -/
lemma settle_of_idle {m : Memory} (idle : m.tasks = []) : settle m = (.ok (), .ofVersion m.version) := by
  have finished (rounds : Nat) :
      (finish rounds).run.run { m with names := [] } = (.ok (), { m with names := [] }) := by
    cases rounds with
    | zero => rfl
    | succ rounds =>
      rw [finish, @run_bind_of_ok _ _ _ _ _ { m with names := [] } rfl]
      simp only [idle]
      rfl
  unfold settle Making.settle
  rw [@run_bind_of_ok _ _ _ _ _ () rfl, @run_bind_of_ok _ _ _ _ _ { m with names := [] } rfl]
  exact run_bind_of_ok (congrArg Prod.fst (finished _))

end Yaml

namespace Table

section Reading

variable {d : Disk} {m : Yaml.Memory} {p : Files.Path} {text : List Char} {v : Value}

/-- The mapping that a value is for a table. A value without content is an empty one. -/
inductive MappingOf : Value → List (Value × Value) → Prop where
  | entries {v raw} :
    HasEntries v raw →
    MappingOf v raw
  | empty {v : Value} :
    v.isEmpty →
    (∀ raw, ¬HasEntries v raw) →
    MappingOf v []

/-- A value that is a mapping is taken for it. -/
lemma result_mappingOf {origin : Text} {raw : List (Value × Value)} (h : MappingOf v raw) :
    (mappingOf origin v).result = .ok raw := by
  cases h with
  | entries hentries => cases hentries <;> rfl
  | empty hempty hnone =>
    cases v with
    | map entries => exact absurd (.map _) (hnone entries)
    | ordered entries => exact absurd (.ordered _) (hnone entries)
    | _ =>
      simp only [mappingOf]
      rw [if_pos hempty]
      rfl

/-- All other values are refused. -/
lemma result_mappingOf_of_not {origin : Text} (h : ∀ raw, ¬MappingOf v raw) :
    (mappingOf origin v).result = .error (.inTable [] (.noMapping origin)) := by
  have noEntries (raw) (hentries : HasEntries v raw) : False := h raw (.entries hentries)
  cases v with
  | map entries => exact absurd (.map _) (noEntries entries)
  | ordered entries => exact absurd (.ordered _) (noEntries entries)
  | _ =>
    simp only [mappingOf]
    rw [if_neg fun hempty => h [] (.empty hempty noEntries)]
    rfl

/-- A file that is missing is a problem of the table. -/
lemma ends_readText_of_missing (h : d.isFile p = .ok false) :
    Ends (readText p) ⟨d, m⟩ (.error (.inTable [] (.noTableFile p.text))) ⟨d, m⟩ :=
  Ends.bind (ends_inspect.2 ⟨h.symm, rfl⟩) (ends_fail.2 ⟨rfl, rfl⟩)

/-- A file that cannot be read is not read. -/
lemma ends_readText_of_unreadable {f : Fault} (h : Unreadable d p f) :
    Ends (readText p) ⟨d, m⟩ (.error f) ⟨d, m⟩ := by
  cases h with
  | @longName cause hfind =>
    have failed : d.isFile p = .error (.file cause) := by
      rw [isFile, hfind]
      rfl
    exact Ends.bind_error (ends_inspect.2 ⟨failed.symm, rfl⟩)
  | notText hcontent hnone =>
    refine Ends.bind (ends_inspect.2 ⟨(isFile_of_contentAt hcontent).symm, rfl⟩) ?_
    refine Ends.bind (ends_inspect.2 ⟨hcontent.symm, rfl⟩) ?_
    rw [hnone]
    exact ends_ofOutcome.2 ⟨rfl, rfl⟩

/-- A text that can be read is read. -/
lemma ends_readText (h : HasText d p text) : Ends (readText p) ⟨d, m⟩ (.ok text) ⟨d, m⟩ := by
  refine Ends.bind (ends_inspect.2 ⟨h.isFile.symm, rfl⟩) ?_
  obtain ⟨content, hcontent, hread⟩ := h
  refine Ends.bind (ends_inspect.2 ⟨hcontent.symm, rfl⟩) ?_
  rw [hread]
  exact ends_ofOutcome.2 ⟨rfl, rfl⟩

/-- The reader is used with what it has kept, and keeps what it keeps. -/
lemma ends_readValue {origin : Text} {res : Except Fault Value} {found : Yaml.Reading Value}
    (h : (Yaml.read text m).1 = found)
    (rest : ∀ s, Ends (match found with
      | .ok v => pure v
      | .error t => fail (faultOf origin t) : Run Value) s res s) :
    Ends (readValue origin text) ⟨d, m⟩ res ⟨d, (Yaml.read text m).2⟩ := by
  subst h
  refine Ends.bind (ends_note.2 ⟨rfl, rfl⟩) ?_
  have read : Ends (reading (Yaml.read text)) ⟨d, m⟩ (.ok (Yaml.read text m).1) ⟨d, (Yaml.read text m).2⟩ :=
    ⟨rfl, rfl⟩
  exact Ends.bind read (rest _)

variable {raw : List (Value × Value)}

/-- A file that holds a mapping gives it. -/
lemma ends_readMapping (htext : HasText d p text) (hread : (Yaml.read text m).1 = .ok v) (hmapping : MappingOf v raw) :
    Ends (readMapping p) ⟨d, m⟩ (.ok raw) ⟨d, (Yaml.read text m).2⟩ := by
  refine Ends.bind (ends_readText htext) (Ends.bind (ends_readValue hread fun s => ends_pure.2 ⟨rfl, rfl⟩) ?_)
  exact ends_ofOutcome.2 ⟨(result_mappingOf hmapping).symm, rfl⟩

end Reading

section Parsing

/-- A key other than the one that a table has, and that cannot be displayed. -/
def HasLongKey (own : Text) (raw : List (Value × Value)) : Prop :=
  ∃ e ∈ raw, e.1 ≠ .str own ∧ e.1.text? = none

/-- A mapping with a list of languages and a key that cannot be displayed. -/
def LanguagesStop (raw : List (Value × Value)) : Prop :=
  (∃ items, field? "languages" raw = some (.list items)) ∧ HasLongKey "languages" raw

/-- A mapping with hosts and a key that cannot be displayed: one beside the hosts, or if there is none the name of a
host behind hosts that are in order. -/
def HostsStop (raw : List (Value × Value)) : Prop :=
  ∃ v entries, field? "hosts" raw = some v ∧ HasEntries v entries ∧
    (HasLongKey "hosts" raw ∨ (∀ e ∈ raw, e.1 = .str "hosts") ∧ ∃ before e after, entries = before ++ e :: after ∧
      e.1.text? = none ∧ ∀ e ∈ before, ∃ host, EntryDescribes e host ∧ host.IsShort)

/-- A mapping that is a host table with group numbers that can be displayed. -/
def IsShortHostTable (raw : List (Value × Value)) (hosts : List Host) : Prop :=
  IsHostTable raw hosts ∧ ∀ host ∈ hosts, host.IsShort

/-- What a parser accepts, where it stops, and that all else is a problem of the table. -/
structure ParsedBy {α : Type} (parse : List (Value × Value) → Outcome α)
    (IsTable : List (Value × Value) → α → Prop) (Stops : List (Value × Value) → Prop) : Prop where
  accepts : ∀ {raw a}, IsTable raw a → (parse raw).result = .ok a
  stops : ∀ {raw}, Stops raw → (parse raw).result = .error .tooManyDigits
  refuses : ∀ {raw}, (∀ a, ¬IsTable raw a) → ¬Stops raw → ∃ e, (parse raw).result = .error (.table e)

variable {raw entries : List (Value × Value)}

/-- Several values cannot be displayed if one of them cannot. -/
lemma mapM_text?_eq_none {vs : List Value} : vs.mapM text? = none ↔ ∃ v ∈ vs, v.text? = none := by
  induction vs with
  | nil => simp
  | cons v rest ih =>
    rw [List.mapM_cons]
    cases hv : v.text? with
    | none => simp [hv]
    | some t =>
      simp only [Option.pure_def, Option.bind_eq_bind, Option.bind_some, List.mem_cons, exists_eq_or_imp, hv,
        reduceCtorEq, false_or, ← ih]
      cases rest.mapM text? <;> simp

/-- The check of the keys stops at a key that it cannot display. -/
lemma checkKeys_eq_tooManyDigits {own : Text} {path : Hint.Place} :
    (checkKeys [own] raw path).result = .error .tooManyDigits ↔ HasLongKey own raw := by
  have other (k : Value) : k.same (.str own) = false ↔ k ≠ .str own := by rw [← Bool.not_eq_true, same_str]
  have long : HasLongKey own raw ↔ ∃ k ∈ extraKeys [own] raw, k.text? = none := by
    simp [HasLongKey, extraKeys, and_assoc, other]
  rw [long, ← mapM_text?_eq_none, checkKeys]
  cases extraKeys [own] raw with
  | nil => simp
  | cons k rest =>
    dsimp only
    split
    next hnone => simp [hnone]
    next hsome => simp [hsome, Fault.inTable]

/-- Languages are parsed from language tables. -/
lemma parsedBy_languages : ParsedBy parseLanguages IsLanguageTable LanguagesStop where
  accepts := parseLanguages_eq_ok.2
  stops := by
    rintro raw ⟨⟨items, found⟩, long⟩
    simp only [parseLanguages, found]
    exact result_bind_eq_error.2 (.inl (checkKeys_eq_tooManyDigits.2 long))
  refuses := by
    intro raw noTable noStop
    cases hresult : (parseLanguages raw).result with
    | ok languages => exact absurd (parseLanguages_eq_ok.1 hresult) (noTable languages)
    | error f =>
      cases parseLanguages_fault hresult with
      | problem e => exact ⟨e, rfl⟩
      | digits =>
        -- nothing but the check of the keys can have displayed a number
        unfold parseLanguages at hresult
        split at hresult
        next items found =>
          rcases result_bind_eq_error.1 hresult with hkeys | ⟨_, -, h₁⟩
          · exact absurd ⟨⟨items, found⟩, checkKeys_eq_tooManyDigits.1 hkeys⟩ noStop
          rcases result_bind_eq_error.1 h₁ with hbuilt | ⟨languages, -, h₂⟩
          · obtain ⟨e, he⟩ := buildLanguages_eq_error hbuilt
            cases he
          rcases result_bind_eq_error.1 h₂ with hchecked | ⟨_, -, h₃⟩
          · obtain ⟨e, -, he⟩ := checked_eq_error.1 hchecked
            cases he
          · cases h₃
        · cases hresult

/-- A host whose name cannot be displayed is not built. -/
lemma buildHost_eq_tooManyDigits {name body : Value} :
    (buildHost name body).result = .error .tooManyDigits ↔ name.text? = none := by
  constructor
  · intro h
    cases hstep : name.text? with
    | none => rfl
    | some step =>
      -- the path can be written, so whatever goes wrong has a place
      obtain ⟨e, he⟩ := exists_problem_of_buildHost hstep h
      cases he
  · intro hnone
    rw [buildHost, hnone]
    rfl

/-- The building of hosts stops at the first name that cannot be displayed, if the hosts before it are in order. -/
lemma buildHosts_eq_tooManyDigits :
    (buildHosts entries).result = .error .tooManyDigits ↔ ∃ before e after, entries = before ++ e :: after ∧
      e.1.text? = none ∧ ∀ e ∈ before, ∃ host, EntryDescribes e host ∧ host.IsShort := by
  induction entries with
  | nil =>
    refine iff_of_false nofun ?_
    rintro ⟨before, e, after, heq, -⟩
    cases before <;> cases heq
  | cons first rest ih =>
    obtain ⟨name, body⟩ := first
    constructor
    · intro h
      rcases result_bind_eq_error.1 h with hfirst | ⟨host, hhost, hrest⟩
      · exact ⟨[], _, rest, rfl, buildHost_eq_tooManyDigits.1 hfirst, List.forall_mem_nil _⟩
      rcases result_bind_eq_error.1 hrest with hothers | ⟨hosts, -, hpure⟩
      · obtain ⟨before, e, after, rfl, hnone, inOrder⟩ := ih.1 hothers
        refine ⟨(name, body) :: before, e, after, rfl, hnone, List.forall_mem_cons.2 ⟨?_, inOrder⟩⟩
        exact ⟨host, entryDescribes_iff.1 hhost⟩
      · cases hpure
    · rintro ⟨before, e, after, heq, hnone, inOrder⟩
      cases before with
      | nil =>
        cases heq
        exact result_bind_eq_error.2 (.inl (buildHost_eq_tooManyDigits.2 hnone))
      | cons _ before =>
        cases heq
        obtain ⟨⟨host, described⟩, others⟩ := List.forall_mem_cons.1 inOrder
        have stopped := ih.2 ⟨before, e, after, rfl, hnone, others⟩
        exact result_bind_eq_error.2 (.inr ⟨host, entryDescribes_iff.2 described,
          result_bind_eq_error.2 (.inl stopped)⟩)

/-- Hosts are parsed from host tables with group numbers that can be displayed. -/
lemma parsedBy_hosts : ParsedBy parseHosts IsShortHostTable HostsStop where
  accepts := parseHosts_eq_ok_iff.2
  stops := by
    rintro raw ⟨v, entries, found, hentries, long | ⟨only, stopped⟩⟩
    · rw [parseHosts_of_hasEntries found hentries]
      exact result_bind_eq_error.2 (.inl (checkKeys_eq_tooManyDigits.2 long))
    · have keys : (checkKeys [Text.ofString "hosts"] raw []).result = .ok () := checkKeys_eq_ok.2 (by simpa using only)
      rw [parseHosts_of_hasEntries found hentries, result_bind_of_ok keys]
      exact result_bind_eq_error.2 (.inl (buildHosts_eq_tooManyDigits.2 stopped))
  refuses := by
    intro raw noTable noStop
    cases hresult : (parseHosts raw).result with
    | ok hosts => exact absurd (parseHosts_eq_ok_iff.1 hresult) (noTable hosts)
    | error f =>
      cases parseHosts_fault hresult with
      | problem e => exact ⟨e, rfl⟩
      | digits =>
        have stops {v : Value} {entries : List (Value × Value)} (found : field? "hosts" raw = some v)
            (hentries : HasEntries v entries) : HostsStop raw := by
          refine ⟨v, entries, found, hentries, ?_⟩
          rw [parseHosts_of_hasEntries found hentries] at hresult
          rcases result_bind_eq_error.1 hresult with hkeys | ⟨_, hkeys, h₁⟩
          · exact .inl (checkKeys_eq_tooManyDigits.1 hkeys)
          rcases result_bind_eq_error.1 h₁ with hbuilt | ⟨hosts, -, h₂⟩
          · exact .inr ⟨by simpa using checkKeys_eq_ok.1 hkeys, buildHosts_eq_tooManyDigits.1 hbuilt⟩
          rcases result_bind_eq_error.1 h₂ with hchecked | ⟨_, -, h₃⟩
          · obtain ⟨e, -, he⟩ := checked_eq_error.1 hchecked
            cases he
          · cases h₃
        unfold parseHosts at hresult
        split at hresult
        next found => exact absurd (stops found (.map _)) noStop
        next found => exact absurd (stops found (.ordered _)) noStop
        · cases hresult

end Parsing

section Files

/-- What the file of a table gives to a reader with a memory. -/
inductive Judges {α : Type} (IsTable : List (Value × Value) → α → Prop) (Stops : List (Value × Value) → Prop)
    (d : Disk) (m : Yaml.Memory) (p : Files.Path) : Except Halt α → Prop where
  | missing :
    d.isFile p = .ok false →
    Judges IsTable Stops d m p (.error .problem)
  | unreadable {f} :
    Unreadable d p f →
    Judges IsTable Stops d m p (.error (.escape f))
  | malformed {text} :
    HasText d p text →
    (Yaml.read text m).1 = .error .malformed →
    Judges IsTable Stops d m p (.error .problem)
  /-- The text is well-formed, and one of its values cannot be made. -/
  | noValue {text defect} :
    HasText d p text →
    (Yaml.read text m).1 = .error (.unusable defect) →
    Judges IsTable Stops d m p (.error (.escape (.defect defect)))
  | noMapping {text v} :
    HasText d p text →
    (Yaml.read text m).1 = .ok v →
    (∀ raw, ¬MappingOf v raw) →
    Judges IsTable Stops d m p (.error .problem)
  | table {text v raw a} :
    HasText d p text →
    (Yaml.read text m).1 = .ok v →
    MappingOf v raw →
    IsTable raw a →
    Judges IsTable Stops d m p (.ok a)
  | noTable {text v raw} :
    HasText d p text →
    (Yaml.read text m).1 = .ok v →
    MappingOf v raw →
    (∀ a, ¬IsTable raw a) →
    ¬Stops raw →
    Judges IsTable Stops d m p (.error .problem)
  /-- A key would have to be displayed, and it has too many digits. -/
  | longKey {text v raw} :
    HasText d p text →
    (Yaml.read text m).1 = .ok v →
    MappingOf v raw →
    Stops raw →
    Judges IsTable Stops d m p (.error (.escape .tooManyDigits))

variable {α : Type} {IsTable : List (Value × Value) → α → Prop} {Stops : List (Value × Value) → Prop}
variable {parse : List (Value × Value) → Outcome α} {d : Disk} {m : Yaml.Memory} {p : Files.Path}

/-- Every file is judged. -/
lemma exists_judges (IsTable : List (Value × Value) → α → Prop) (Stops : List (Value × Value) → Prop) (d : Disk)
    (m : Yaml.Memory) (p : Files.Path) : ∃ v, Judges IsTable Stops d m p v := by
  rcases missing_or_unreadable_or_hasText d p with missing | ⟨f, unreadable⟩ | ⟨text, htext⟩
  · exact ⟨_, .missing missing⟩
  · exact ⟨_, .unreadable unreadable⟩
  cases hread : (Yaml.read text m).1 with
  | error t =>
    cases t with
    | malformed => exact ⟨_, .malformed htext hread⟩
    | unusable defect => exact ⟨_, .noValue htext hread⟩
  | ok v =>
    by_cases hmapping : ∃ raw, MappingOf v raw
    · obtain ⟨raw, hmapping⟩ := hmapping
      by_cases htable : ∃ a, IsTable raw a
      · obtain ⟨a, htable⟩ := htable
        exact ⟨_, .table htext hread hmapping htable⟩
      by_cases hstops : Stops raw
      · exact ⟨_, .longKey htext hread hmapping hstops⟩
      · exact ⟨_, .noTable htext hread hmapping (not_exists.1 htable) hstops⟩
    · exact ⟨_, .noMapping htext hread (not_exists.1 hmapping)⟩

/-- What the reader has kept once a table has been loaded. -/
def memoryAfter (d : Disk) (m : Yaml.Memory) : Option Files.Path → Yaml.Memory
  | none => .ofVersion m.version
  | some p => ((d.text? p).map fun text => (Yaml.read text m).2).getD m

/-- After a file that can be read the memory is what the reader has left. -/
lemma memoryAfter_of_hasText {text : List Char} (h : HasText d p text) :
    memoryAfter d m (some p) = (Yaml.read text m).2 := by
  rw [memoryAfter, h.text?_eq]
  rfl

/-- A file that gives a table is loaded, and leaves nothing half read. -/
lemma ends_of_judges {a : α} (parsed : ParsedBy parse IsTable Stops) (h : Judges IsTable Stops d m p (.ok a)) :
    Ends (do let raw ← readMapping p; ofOutcome (parse raw)) ⟨d, m⟩ (.ok a) ⟨d, memoryAfter d m (some p)⟩ ∧
      (m.tasks = [] → (memoryAfter d m (some p)).tasks = []) := by
  cases h with
  | table htext hread hmapping htable =>
    rw [memoryAfter_of_hasText htext]
    refine ⟨Ends.bind (ends_readMapping htext hread hmapping) ?_, Yaml.tasks_of_read hread⟩
    exact ends_ofOutcome.2 ⟨(parsed.accepts htable).symm, rfl⟩

/-- The loading of any other file stops as the file is judged. -/
lemma verdict_of_judges {halt : Halt} (parsed : ParsedBy parse IsTable Stops)
    (h : Judges IsTable Stops d m p (.error halt)) :
    verdict (do let raw ← readMapping p; ofOutcome (parse raw)) ⟨d, m⟩ = .error halt := by
  -- what stops the reading of the text stops the loading
  have unread {f : Fault} (stopped : Ends (readText p) ⟨d, m⟩ (.error f) ⟨d, m⟩) (hf : haltOf f = halt) :
      verdict (do let raw ← readMapping p; ofOutcome (parse raw)) ⟨d, m⟩ = .error halt := by
    rw [← hf]
    exact verdict_bind_of_halt (verdict_bind_of_halt stopped.verdict_error)
  have unmade {text : List Char} {f : Fault} {s : Session} (htext : HasText d p text)
      (stopped : Ends (readValue p.text text) ⟨d, m⟩ (.error f) s) (hf : haltOf f = halt) :
      verdict (do let raw ← readMapping p; ofOutcome (parse raw)) ⟨d, m⟩ = .error halt := by
    rw [← hf]
    apply verdict_bind_of_halt
    rw [readMapping, (ends_readText htext).verdict_bind]
    exact verdict_bind_of_halt stopped.verdict_error
  have refused {text : List Char} {v : Value} {raw : List (Value × Value)} {f : Fault} (htext : HasText d p text)
      (hread : (Yaml.read text m).1 = .ok v) (hmapping : MappingOf v raw) (failed : (parse raw).result = .error f)
      (hf : haltOf f = halt) :
      verdict (do let raw ← readMapping p; ofOutcome (parse raw)) ⟨d, m⟩ = .error halt := by
    rw [← hf, (ends_readMapping htext hread hmapping).verdict_bind]
    exact Ends.verdict_error (ends_ofOutcome.2 ⟨failed.symm, rfl⟩)
  cases h with
  | missing hmissing => exact unread (ends_readText_of_missing hmissing) rfl
  | unreadable hunreadable =>
    exact unread (ends_readText_of_unreadable hunreadable) (haltOf_of_not_user hunreadable.isUserFault)
  | malformed htext hread => exact unmade htext (ends_readValue hread fun s => ends_fail.2 ⟨rfl, rfl⟩) rfl
  | noValue htext hread => exact unmade htext (ends_readValue hread fun s => ends_fail.2 ⟨rfl, rfl⟩) rfl
  | noMapping htext hread hnone =>
    apply verdict_bind_of_halt
    have read := @ends_readValue d m _ p.text _ _ hread fun s => ends_pure.2 ⟨rfl, rfl⟩
    rw [readMapping, (ends_readText htext).verdict_bind, read.verdict_bind]
    exact Ends.verdict_error (ends_ofOutcome.2 ⟨(result_mappingOf_of_not hnone).symm, rfl⟩)
  | noTable htext hread hmapping htable hstops =>
    obtain ⟨e, failed⟩ := parsed.refuses htable hstops
    exact refused htext hread hmapping failed rfl
  | longKey htext hread hmapping hstops => exact refused htext hread hmapping (parsed.stops hstops) rfl

end Files

section Sources

/-- What the source of a table gives: the bundled table, or what its file gives. -/
inductive FromSource {α : Type} (bundled : α) (IsTable : List (Value × Value) → α → Prop)
    (Stops : List (Value × Value) → Prop) (d : Disk) (m : Yaml.Memory) : Option Files.Path → Except Halt α → Prop where
  | bundled :
    FromSource bundled IsTable Stops d m none (.ok bundled)
  | file {p v} :
    Judges IsTable Stops d m p v →
    FromSource bundled IsTable Stops d m (some p) v

/-- What the source of the language table gives. -/
abbrev LanguagesFrom : Disk → Yaml.Memory → Option Files.Path → Except Halt (List Language) → Prop :=
  FromSource Bundled.languages IsLanguageTable LanguagesStop

/-- What the source of the host table gives. -/
abbrev HostsFrom : Disk → Yaml.Memory → Option Files.Path → Except Halt (List Host) → Prop :=
  FromSource Bundled.hosts IsShortHostTable HostsStop

/-- What the sources of both tables give. The languages are read first, and the hosts with what is kept of them. -/
inductive Sources.Give (d : Disk) (sources : Sources) : Except Halt Tables → Prop where
  | tables {languages hosts} :
    LanguagesFrom d .fresh sources.languages (.ok languages) →
    HostsFrom d (memoryAfter d .fresh sources.languages) sources.hosts (.ok hosts) →
    Give d sources (.ok ⟨languages, hosts⟩)
  | noLanguages {halt} :
    LanguagesFrom d .fresh sources.languages (.error halt) →
    Give d sources (.error halt)
  | noHosts {languages halt} :
    LanguagesFrom d .fresh sources.languages (.ok languages) →
    HostsFrom d (memoryAfter d .fresh sources.languages) sources.hosts (.error halt) →
    Give d sources (.error halt)

variable {d : Disk} {m : Yaml.Memory} {path : Option Files.Path} {sources : Sources}

/-- Every source gives something. -/
lemma exists_fromSource {α : Type} (bundled : α) (IsTable : List (Value × Value) → α → Prop)
    (Stops : List (Value × Value) → Prop) (d : Disk) (m : Yaml.Memory) (path : Option Files.Path) :
    ∃ v, FromSource bundled IsTable Stops d m path v := by
  cases path with
  | none => exact ⟨_, .bundled⟩
  | some p =>
    obtain ⟨v, hv⟩ := exists_judges IsTable Stops d m p
    exact ⟨v, .file hv⟩

/-- The bundled language table is in order. -/
lemma isLanguageTable_bundled : IsLanguageTable (rawLanguages Bundled.languages) Bundled.languages := by
  have passed : (checked (checkLanguages Bundled.languages)).result = .ok () := checked_eq_ok.2 (by decide +kernel)
  rw [← parseLanguages_eq_ok, result_parseLanguages (writesLanguages_raw _), result_bind_of_ok passed]
  rfl

/-- The bundled hosts have mappings for captures. -/
lemma hasMappings_bundled : ∀ host ∈ Bundled.hosts, host.HasMappings := by
  have shape {b : Boundary} (hopening : (b.openingCaptures.map Prod.fst).Nodup)
      (hclosing : ∀ c ∈ b.closingCaptures, (c.map Prod.fst).Nodup) : b.HasMappings := ⟨hopening, hclosing⟩
  refine List.forall_mem_cons.2 ⟨⟨shape ?_ ?_, shape ?_ ?_⟩, List.forall_mem_singleton.2 ⟨shape ?_ ?_, shape ?_ ?_⟩⟩
  all_goals decide

/-- The bundled hosts have group numbers of one digit. -/
lemma isShort_bundled : ∀ host ∈ Bundled.hosts, host.IsShort := by
  have small {c : Captures} (h : ∀ e ∈ c, e.1.natAbs < 10) : c.IsShort := fun e he => isShort_of_lt_ten (h e he)
  have shape {b : Boundary} (hopening : ∀ e ∈ b.openingCaptures, e.1.natAbs < 10)
      (hclosing : ∀ c ∈ b.closingCaptures, ∀ e ∈ c, e.1.natAbs < 10) : b.IsShort :=
    ⟨small hopening, fun c hc => small (hclosing c hc)⟩
  refine List.forall_mem_cons.2 ⟨⟨shape ?_ ?_, shape ?_ ?_⟩, List.forall_mem_singleton.2 ⟨shape ?_ ?_, shape ?_ ?_⟩⟩
  all_goals decide

/-- The bundled host table is in order. -/
lemma isShortHostTable_bundled : IsShortHostTable (rawHosts Bundled.hosts) Bundled.hosts := by
  have passed : (checked (checkHosts Bundled.hosts)).result = .ok () := checked_eq_ok.2 (by decide +kernel)
  have written : WritesHosts (rawHosts Bundled.hosts) Bundled.hosts :=
    writesHosts_rawBy (by decide) hasMappings_bundled fun _ h => mapsBoundary_raw h
  rw [IsShortHostTable, ← parseHosts_eq_ok_iff, result_parseHosts written isShort_bundled, result_bind_of_ok passed]
  rfl

/-- The bundled languages are given. -/
lemma result_bundledLanguages : bundledLanguages.result = .ok Bundled.languages :=
  (result_bind_of_ok rfl).trans (parsedBy_languages.accepts isLanguageTable_bundled)

/-- The bundled hosts are given. -/
lemma result_bundledHosts : bundledHosts.result = .ok Bundled.hosts :=
  (result_bind_of_ok rfl).trans (parsedBy_hosts.accepts isShortHostTable_bundled)

/-- With nothing half read a bundled table settles what was kept. -/
lemma ends_settle {origin : Text} (idle : m.tasks = []) :
    Ends (settle origin) ⟨d, m⟩ (.ok ()) ⟨d, .ofVersion m.version⟩ := by
  have settled : Ends (reading Yaml.settle) ⟨d, m⟩ (.ok (.ok ())) ⟨d, .ofVersion m.version⟩ := by
    constructor
    · show Except.ok (Yaml.settle m).1 = _
      rw [Yaml.settle_of_idle idle]
    · show (⟨d, (Yaml.settle m).2⟩ : Session) = _
      rw [Yaml.settle_of_idle idle]
  exact Ends.bind settled (ends_pure.2 ⟨rfl, rfl⟩)

/-- Languages that their source gives are loaded. -/
lemma ends_loadLanguages {languages : List Language} (idle : m.tasks = [])
    (h : LanguagesFrom d m path (.ok languages)) :
    Ends (loadLanguages path) ⟨d, m⟩ (.ok languages) ⟨d, memoryAfter d m path⟩ ∧ (memoryAfter d m path).tasks = [] := by
  cases h with
  | bundled => exact ⟨Ends.bind (ends_settle idle) (ends_ofOutcome.2 ⟨result_bundledLanguages.symm, rfl⟩), rfl⟩
  | file hfile =>
    obtain ⟨loaded, tasks⟩ := ends_of_judges parsedBy_languages hfile
    exact ⟨loaded, tasks idle⟩

/-- Where a source gives no languages their loading stops as it says. -/
lemma verdict_loadLanguages {halt : Halt} (h : LanguagesFrom d m path (.error halt)) :
    verdict (loadLanguages path) ⟨d, m⟩ = .error halt := by
  cases h with
  | file hfile => exact verdict_of_judges parsedBy_languages hfile

/-- Hosts that their source gives are loaded. -/
lemma ends_loadHosts {hosts : List Host} (idle : m.tasks = []) (h : HostsFrom d m path (.ok hosts)) :
    Ends (loadHosts path) ⟨d, m⟩ (.ok hosts) ⟨d, memoryAfter d m path⟩ := by
  cases h with
  | bundled => exact Ends.bind (ends_settle idle) (ends_ofOutcome.2 ⟨result_bundledHosts.symm, rfl⟩)
  | file hfile => exact (ends_of_judges parsedBy_hosts hfile).1

/-- Where a source gives no hosts their loading stops as it says. -/
lemma verdict_loadHosts {halt : Halt} (h : HostsFrom d m path (.error halt)) :
    verdict (loadHosts path) ⟨d, m⟩ = .error halt := by
  cases h with
  | file hfile => exact verdict_of_judges parsedBy_hosts hfile

/-- The sources of the tables always give something. -/
lemma Sources.exists_give (d : Disk) (sources : Sources) : ∃ v, sources.Give d v := by
  obtain ⟨languages, hlanguages⟩ :=
    exists_fromSource Bundled.languages IsLanguageTable LanguagesStop d .fresh sources.languages
  cases languages with
  | error halt => exact ⟨_, .noLanguages hlanguages⟩
  | ok languages =>
    obtain ⟨hosts, hhosts⟩ := exists_fromSource Bundled.hosts IsShortHostTable HostsStop d
      (memoryAfter d .fresh sources.languages) sources.hosts
    cases hosts with
    | error halt => exact ⟨_, .noHosts hlanguages hhosts⟩
    | ok hosts => exact ⟨_, .tables hlanguages hhosts⟩

/-- Tables that their sources give are loaded, and the disk stays as it is. -/
lemma Sources.Give.ends_load {tables : Tables} (h : sources.Give d (.ok tables)) :
    ∃ m, Ends (load sources) (.start d) (.ok tables) ⟨d, m⟩ := by
  cases h with
  | tables hlanguages hhosts =>
    obtain ⟨loaded, idle⟩ := ends_loadLanguages rfl hlanguages
    exact ⟨_, Ends.bind loaded (Ends.bind (ends_loadHosts idle hhosts) (ends_pure.2 ⟨rfl, rfl⟩))⟩

/-- Where the sources give no tables the loading stops as they say. -/
lemma Sources.Give.verdict_load {halt : Halt} (h : sources.Give d (.error halt)) :
    verdict (load sources) (.start d) = .error halt := by
  cases h with
  | noLanguages hlanguages => exact verdict_bind_of_halt (verdict_loadLanguages hlanguages)
  | noHosts hlanguages hhosts =>
    rw [load, Session.start, (ends_loadLanguages rfl hlanguages).1.verdict_bind]
    exact verdict_bind_of_halt (verdict_loadHosts hhosts)

end Sources

end Table

end TaggedGrammar
