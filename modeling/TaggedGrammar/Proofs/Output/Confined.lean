import TaggedGrammar.Proofs.Output.Failure

/-!
# What an update may touch

However an update ends, it has made directories on the way to its output directory and changed entries of that
directory, all of them with the name of a document or of a file beside one. These names are different, and none of them
leads out of the directory.
-/

namespace TaggedGrammar.Output

open Files Files.Disk Run

/-- A place that may differ after a run that writes entries with some names into the directory of `target`. -/
inductive MayTouch (target : Files.Path) (names : List Text) (d d' : Disk) : Place → Prop where
  /-- A directory that was missing: the one of `target`, or one on the way to it. -/
  | made {front r} :
    front <+: target.parts → d'.LeadsTo ⟨target.slashes, front⟩ r →
    d.get r = none → d'.get r = some .directory →
    MayTouch target names d d' r
  /-- An entry of the directory. -/
  | entry {name q} :
    name ∈ names → d'.LeadsTo target q →
    MayTouch target names d d' (name :: q)

/-- The disk `d` has become `d'`, and only in places that may differ. -/
structure Confined (target : Files.Path) (names : List Text) (d d' : Disk) : Prop where
  keeps : Keeps d d'
  touched : ∀ r, d'.get r ≠ d.get r → MayTouch target names d d' r

/-- A run that touches nothing else if no link has one of the names. -/
def Confines {α : Type} (target : Files.Path) (names : List Text) (run : Run α) : Prop :=
  ∀ s, (∀ name ∈ names, s.disk.NoLinkNamed name) → Confined target names s.disk (run s).2.disk

section

variable {target : Files.Path} {names : List Text} {d d₁ d₂ d₃ : Disk} {q : Place} {name : Text}

namespace Confined

/-- A disk that stays as it is was changed nowhere else. -/
lemma refl (target : Files.Path) (names : List Text) (d : Disk) : Confined target names d d :=
  ⟨Keeps.refl d, fun _ h => absurd rfl h⟩

/-- Changes one after the other stay where each of them stays. -/
lemma trans (h₁ : Confined target names d₁ d₂) (h₂ : Confined target names d₂ d₃) : Confined target names d₁ d₃ := by
  refine ⟨h₁.keeps.trans h₂.keeps, fun r hr => ?_⟩
  by_cases first : d₂.get r = d₁.get r
  · cases h₂.touched r (first ▸ hr) with
    | made hfront way hnone hdirectory => exact .made hfront way (first ▸ hnone) hdirectory
    | entry hname way => exact .entry hname way
  · cases h₁.touched r first with
    | made hfront way hnone hdirectory =>
      exact .made hfront (way.mono h₂.keeps) hnone (h₂.keeps.directory hdirectory)
    | entry hname way => exact .entry hname (way.mono h₂.keeps)

/-- A change of an entry that is neither a directory nor a link, and becomes no link. -/
lemma of_sets {x : Option Entry} (h : Sets d₁ (name :: q) x d₂) (hname : name ∈ names) (hq : d₁.LeadsTo target q)
    (hd : d₁.get (name :: q) ≠ some .directory) (hl : d₁.NoLinkNamed name) (hx : ∀ link, x ≠ some (.link link)) :
    Confined target names d₁ d₂ := by
  have keeps := h.keeps hd (hl q) hx
  refine ⟨keeps, fun r hr => ?_⟩
  by_cases heq : r = name :: q
  · subst heq
    exact .entry hname (hq.mono keeps)
  · exact absurd (h.elsewhere heq) hr

end Confined

namespace Confines

variable {α β : Type} {run : Run α} {next : α → Run β}

/-- A run that only reads changes nothing anywhere. -/
lemma of_onlyReads (h : OnlyReads run) : Confines target names run := by
  intro s _
  rw [h s]
  exact .refl target names s.disk

/-- Runs one after the other stay where each of them stays. -/
lemma bind (h₁ : Confines target names run) (h₂ : ∀ a, Confines target names (next a)) :
    Confines target names (run >>= next) := by
  intro s noLink
  have first := h₁ s noLink
  cases hresult : (run s).1.result with
  | error f =>
    rw [bind_of_error hresult]
    exact first
  | ok a =>
    rw [bind_of_ok hresult]
    exact first.trans (h₂ a _ fun name hname => (noLink name hname).keeps first.keeps)

/-- A run that is attempted stays where the run stays. -/
lemma attempt (h : Confines target names run) : Confines target names run.attempt :=
  h

/-- An operation stays where its changes stay. -/
lemma change {op : Disk → Except Fault Disk}
    (h : ∀ d d', (∀ name ∈ names, d.NoLinkNamed name) → op d = .ok d' → Confined target names d d') :
    Confines target names (change op) := by
  intro s noLink
  rcases ends_change.1 (ends (Run.change op) s) with ⟨d, hd, -, hs⟩ | ⟨f, -, -, hs⟩
  · rw [hs]
    exact h _ _ noLink hd
  · rw [hs]
    exact .refl target names s.disk

end Confines

end

section Steps

variable {target : Files.Path} {names : List Text} {name text : Text}

/-- New directories are on the way of the path. -/
lemma confines_makeDirectories : Confines target names (makeDirectories target) := by
  intro s _
  have makes := ends_makeDirectories (ends (makeDirectories target) s)
  refine ⟨makes.grows.keeps, fun r hr => ?_⟩
  cases hg : s.disk.get r with
  | some e => exact absurd ((makes.grows.kept hg).trans hg.symm) hr
  | none =>
    have hdirectory := (makes.grows.new hg).resolve_left fun hnone => hr (hnone.trans hg.symm)
    obtain ⟨front, hfront, way⟩ := makes.onWay r hg (by simp [hdirectory])
    exact .made hfront way hg hdirectory

/-- A text is saved in the directory, under its name. -/
lemma confines_save (hname : name ∈ names) (hn : IsPlain name) :
    Confines target names (save (target.child name) text) := by
  have saved (content : ByteArray) : Confines target names (change (·.saveAt (target.child name) content)) := by
    refine .change fun d d' noLink h => ?_
    obtain ⟨-, q, hq, hd, sets⟩ := of_saveAt_child h hn (noLink name hname)
    exact .of_sets sets hname hq hd (noLink name hname) (by simp)
  unfold save
  cases text.bytes? with
  | some content => exact saved content
  | none => exact (saved .empty).bind fun _ => .of_onlyReads (onlyReads_fail _)

/-- A move changes the two names in the directory. -/
lemma confines_move {old : Text} (hold : old ∈ names) (hname : name ∈ names) (ho : IsPlain old) (hn : IsPlain name) :
    Confines target names (change (·.move (target.child old) (target.child name))) := by
  refine .change fun d d' noLink h => ?_
  obtain ⟨-, q, content, hq, hfile, hd, rfl⟩ := of_move_child h ho (noLink old hold) hn (noLink name hname)
  have erased := sets_erase d old q
  have first : Confined target names d (d.erase (old :: q)) :=
    .of_sets erased hold hq (by simp [hfile]) (noLink old hold) (by simp)
  have hd' : (d.erase (old :: q)).get (name :: q) ≠ some .directory := by
    rw [get_erase]
    split
    · simp
    · exact hd
  exact first.trans (.of_sets (sets_put _ name q _) hname (hq.mono first.keeps) hd'
    ((noLink name hname).keeps first.keeps) (by simp))

/-- A clean-up changes the one name in the directory. -/
lemma confines_cleanUp (hname : name ∈ names) (hn : IsPlain name) :
    Confines target names (cleanUp (target.child name)) := by
  refine .bind (.of_onlyReads (onlyReads_inspect _)) fun there => ?_
  split
  · refine .change fun d d' noLink h => ?_
    obtain ⟨q, hq, hd, sets⟩ := of_remove_child h hn (noLink name hname)
    exact .of_sets sets hname hq hd (noLink name hname) (by simp)
  · exact .of_onlyReads (onlyReads_pure _)

/-- The writing of a document touches the document and the file beside it. -/
lemma confines_writeDocument (hname : name ∈ names) (htemp : tempName name ∈ names) (hn : IsPlain name) :
    Confines target names (writeDocument (target.child name) text) := by
  have placed : Confines target names (place (target.child (tempName name)) (target.child name) text) := by
    unfold place
    rw [parent_child]
    refine .bind confines_makeDirectories fun _ => .bind (confines_save htemp (isPlain_tempName name)) fun _ => ?_
    exact confines_move htemp hname (isPlain_tempName name) hn
  unfold writeDocument
  simp only [temporary?_child]
  refine .bind placed.attempt fun x => ?_
  split
  · exact .of_onlyReads (onlyReads_note _)
  · exact .bind (confines_cleanUp htemp (isPlain_tempName name)) fun _ => .of_onlyReads (onlyReads_fail _)
  · exact .of_onlyReads (onlyReads_fail _)

/-- Documents are written in the directory, under their names and those beside them. -/
lemma confines_writeFiles {files : List GeneratedFile} (plain : ∀ f ∈ files, IsPlain f.name)
    (hnames : ∀ f ∈ files, f.name ∈ names ∧ tempName f.name ∈ names) :
    Confines target names (writeFiles target files) := by
  induction files with
  | nil => exact .of_onlyReads (onlyReads_pure _)
  | cons f rest ih =>
    obtain ⟨plain_f, plain_rest⟩ := List.forall_mem_cons.1 plain
    obtain ⟨names_f, names_rest⟩ := List.forall_mem_cons.1 hnames
    refine .bind (confines_writeDocument names_f.1 names_f.2 plain_f) fun _ => ?_
    exact .bind (ih plain_rest names_rest) fun _ => .of_onlyReads (onlyReads_pure _)

end Steps

section Names

/-- A name that can only stand for an entry of a directory: read as a path it is that one name, and it does not lead
up. -/
structure IsComponent (name : Text) : Prop where
  alone : Files.Path.ofText name = ⟨0, [name]⟩
  notParent : name ≠ ".."

/-- The names of all documents of some hosts, and of the files beside them. -/
def usedNames (hosts : List Host) : List Text :=
  let documents := (hosts.map Host.name).flatMap documentNames
  documents ++ documents.map tempName

/-- What hosts write can stand in one directory: the names differ, each is that of an entry, and the path of a file
beside a document is the one with the name that it should have. -/
structure ShareDirectory (hosts : List Host) : Prop where
  different : (usedNames hosts).Nodup
  component : ∀ name ∈ usedNames hosts, IsComponent name
  beside : ∀ host ∈ hosts, ∀ name ∈ documentNames host.name, ∀ p : Files.Path,
    (p.child name).temporary? = some (p.child (name ++ ".tmp"))

/-- The name of an entry without a slash is one part of a path. -/
lemma IsComponent.of_isPlain {name : Text} (plain : IsPlain name) (slash : .char '/' ∉ name) : IsComponent name := by
  have names : Files.Path.namesOf name = [name] := List.splitOn_eq_singleton slash
  have slashes : Files.Path.slashesOf name = 0 := by
    cases name with
    | nil => rfl
    | cons l rest => simp [Files.Path.slashesOf, Ne.symm (List.ne_of_not_mem_cons slash)]
  refine ⟨?_, plain.notParent⟩
  simp [Files.Path.ofText, names, slashes, plain.notEmpty, plain.notSelf]

/-- Different documents have different files beside them. -/
lemma tempName_injective : Function.Injective tempName :=
  fun _ _ h => List.append_cancel_right h

/-- The names that a run uses are those of documents and those beside them. -/
lemma mem_usedNames {hosts : List Host} {n : Text} :
    n ∈ usedNames hosts ↔ ∃ host ∈ hosts, ∃ name ∈ documentNames host.name, n = name ∨ n = tempName name := by
  simp only [usedNames, List.mem_append, List.mem_flatMap, List.mem_map]
  constructor
  · rintro (⟨_, ⟨host, hhost, rfl⟩, hname⟩ | ⟨name, ⟨_, ⟨host, hhost, rfl⟩, hname⟩, rfl⟩)
    · exact ⟨host, hhost, n, hname, .inl rfl⟩
    · exact ⟨host, hhost, name, hname, .inr rfl⟩
  · rintro ⟨host, hhost, name, hname, rfl | rfl⟩
    · exact .inl ⟨_, ⟨host, hhost, rfl⟩, hname⟩
    · exact .inr ⟨name, ⟨_, ⟨host, hhost, rfl⟩, hname⟩, rfl⟩

/-- Without links among the documents no used name is that of a link. -/
lemma NoLinkAmongDocuments.named {d : Disk} {tables : Tables} (h : NoLinkAmongDocuments d tables) :
    ∀ n ∈ usedNames tables.hosts, d.NoLinkNamed n := by
  intro n hn
  obtain ⟨host, hhost, name, hname, rfl | rfl⟩ := mem_usedNames.1 hn
  · exact (h host hhost _ hname).1
  · exact (h host hhost name hname).2

/-- Hosts with different names use no name twice. -/
lemma nodup_usedNames {hosts : List Host} (nodup : (hosts.map Host.name).Nodup) : (usedNames hosts).Nodup := by
  have documents := nodup_documentNames.2 nodup
  refine List.nodup_append'.2 ⟨documents, documents.map tempName_injective, fun n hn hn' => ?_⟩
  obtain ⟨host, -, hname⟩ := List.mem_flatMap.1 hn
  obtain ⟨front, rfl⟩ := exists_append_documentEnding hname
  obtain ⟨name, -, heq⟩ := List.mem_map.1 hn'
  exact append_documentEnding_ne_tempName front name heq.symm

/-- No name leads out of the directory if the names of hosts have no slash. -/
lemma isComponent_of_mem_usedNames {hosts : List Host} (slash : ∀ host ∈ hosts, .char '/' ∉ host.name) {n : Text}
    (hn : n ∈ usedNames hosts) : IsComponent n := by
  obtain ⟨host, hhost, name, hname, hn⟩ := mem_usedNames.1 hn
  have own : .char '/' ∉ name := by
    have := slash host hhost
    simp only [documentNames, List.mem_cons, List.not_mem_nil, or_false] at hname
    rcases hname with rfl | rfl
    · simpa [grammarFile, Text.ofString, Text.ofChars] using this
    · simpa [reinjectionFile, Text.ofString, Text.ofChars] using this
  rcases hn with rfl | rfl
  · obtain ⟨front, rfl⟩ := exists_append_documentEnding hname
    exact .of_isPlain (isPlain_append_documentEnding front) own
  · refine .of_isPlain (isPlain_tempName name) ?_
    simpa [tempName, Files.Path.temporaryEnding, Text.ofString, Text.ofChars] using own

/-- Checked hosts with different names can share a directory. -/
lemma shareDirectory_of_checkHosts {hosts : List Host} (checked : Table.checkHosts hosts = .ok ())
    (nodup : (hosts.map Host.name).Nodup) : ShareDirectory hosts where
  different := nodup_usedNames nodup
  component _ := isComponent_of_mem_usedNames fun host hhost =>
    (Table.checkHost_eq_ok.1 ((Table.checkHosts_eq_ok.1 checked).2 host hhost)).slash
  beside _ _ name _ p := temporary?_child p name

end Names

section

variable {out : Option Files.Path} {sources : Table.Sources} {s s' : Session} {res : Except Fault (List Files.Path)}

/-- An update that changes the disk has loaded tables and found a directory, and its documents were confined to it. -/
lemma confined_of_update (h : Ends (update out sources) s res s') (changed : s'.disk ≠ s.disk)
    (noLink : ∀ tables, (Table.load sources s).1.result = .ok tables → NoLinkAmongDocuments s.disk tables) :
    ∃ tables target, (Table.load sources s).1.result = .ok tables ∧ (directory out s).1.result = .ok target ∧
      ShareDirectory tables.hosts ∧ Confined target (usedNames tables.hosts) s.disk s'.disk := by
  obtain ⟨tables, s₁, hload, hdisk, h₁⟩ := (Table.onlyReads_load sources).of_bind h changed
  rw [← hdisk] at changed
  obtain ⟨files, s₂, hgenerate, -, h₂⟩ := (onlyReads_ofOutcome _).of_bind h₁ changed
  obtain ⟨hfiles, rfl⟩ := ends_ofOutcome.1 hgenerate
  have finding : OnlyReads (directory out) := fun s => congrArg Session.disk (ends_directory_eq (ends _ s))
  obtain ⟨target, s₃, htarget, -, h₃⟩ := finding.of_bind h₂ changed
  cases ends_directory_eq htarget
  have writes : Confines target (usedNames tables.hosts) (writeFiles target files) := by
    refine confines_writeFiles (isPlain_of_generate hfiles.symm) fun f hf => ?_
    obtain ⟨host, hhost, hname⟩ := exists_host_of_generate hfiles.symm hf
    exact ⟨mem_usedNames.2 ⟨host, hhost, _, hname, .inl rfl⟩, mem_usedNames.2 ⟨host, hhost, _, hname, .inr rfl⟩⟩
  have confined : Confined target (usedNames tables.hosts) s₂.disk s'.disk := by
    rw [← h₃.2]
    refine Confines.bind writes (fun paths => ?_) s₂ (hdisk ▸ (noLink tables hload.1).named)
    exact .of_onlyReads (.bind (onlyReads_note _) fun _ => onlyReads_pure paths)
  rw [hdisk] at confined
  have checked := (generate_eq_ok.1 hfiles.symm).2.1
  exact ⟨tables, target, hload.1, (directory_congr out hdisk).symm.trans htarget.1,
    shareDirectory_of_checkHosts checked (Table.nodup_of_load hload), confined⟩

/-- What the hosts of a parsed table write can share a directory, and an update stays in its directory: however it
ends, a place that it has changed is the directory itself, a missing one on the way to it, or an entry with the name
of a document or of a file beside one. -/
theorem update_stays_in_its_directory :
    (∀ (raw : List (Value × Value)) (hosts : List Host),
      (∀ {v entries}, Value.field? "hosts" raw = some v → Hint.HasEntries v entries → Value.DifferentKeys entries) →
      (Table.parseHosts raw).result = .ok hosts → ShareDirectory hosts) ∧
    ∀ (out : Option Files.Path) (sources : Table.Sources) (s : Session),
      (∀ tables, (Table.load sources s).1.result = .ok tables → NoLinkAmongDocuments s.disk tables) →
      ∀ r, (update out sources s).2.disk.get r ≠ s.disk.get r →
        ∃ tables target, (Table.load sources s).1.result = .ok tables ∧ (directory out s).1.result = .ok target ∧
          ShareDirectory tables.hosts ∧
          MayTouch target (usedNames tables.hosts) s.disk (update out sources s).2.disk r := by
  refine ⟨fun raw hosts hkeys parsed => ?_, fun out sources s noLink r changed => ?_⟩
  · exact shareDirectory_of_checkHosts (Table.parseHosts_eq_ok.1 parsed).2.2 (Table.nodup_of_parseHosts parsed hkeys)
  · have differs : (update out sources s).2.disk ≠ s.disk := fun heq => changed (by rw [heq])
    obtain ⟨tables, target, hload, htarget, share, confined⟩ := confined_of_update (ends _ s) differs noLink
    exact ⟨tables, target, hload, htarget, share, confined.touched r changed⟩

end

section Sample

/-- A host table whose second name looks like the end of a file beside a document of the first. -/
def lookalikeHosts : List (Value × Value) :=
  [(.str "hosts", .map [(.str "h", .ordered (Table.sampleBody (.int (-1)))),
    (.str "h.json.tmp", .ordered (Table.sampleBody (.int (-1))))])]

/-- The hosts of the sample have different keys. -/
lemma differentKeys_lookalike {v entries} (h : Value.field? "hosts" lookalikeHosts = some v)
    (hentries : Hint.HasEntries v entries) : Value.DifferentKeys entries := by
  rw [lookalikeHosts, Value.field?_cons, if_pos rfl] at h
  cases h
  cases hentries
  simp [Value.DifferentKeys, Value.same, Value.sameScalar, Text.ofString, Text.ofChars]

/-- Two hosts with names that look alike share a directory, and an update that fails has changed a file beside a
document. -/
theorem failed_update_stays_in_its_directory :
    (∃ hosts, (Table.parseHosts lookalikeHosts).result = .ok hosts ∧ hosts.length = 2 ∧ ShareDirectory hosts) ∧
      NoLinkAmongDocuments unwritableDisk unwritableTables ∧
      ∃ s', Ends (update (some sampleOut) sampleSources) (.start unwritableDisk) (.error .notEncodable) s' ∧
        MayTouch sampleOut (usedNames unwritableTables.hosts) unwritableDisk s'.disk
          [tempName (grammarFile "h"), Text.ofString "real"] := by
  have parsed : (Table.parseHosts lookalikeHosts).result =
      .ok [Table.sampleHost, { Table.sampleHost with name := "h.json.tmp" }] := by decide +kernel
  refine ⟨⟨_, parsed, rfl, update_stays_in_its_directory.1 _ _ differentKeys_lookalike parsed⟩,
    noLinkAmongDocuments_unwritable, _, ⟨unwritable_runs.2.2.1, rfl⟩, ?_⟩
  have before : unwritableDisk.get [tempName (grammarFile "h"), Text.ofString "real"] ≠ some (.file .empty) := by
    decide +kernel
  have noLink (tables) (h : (Table.load sampleSources (.start unwritableDisk)).1.result = .ok tables) :
      NoLinkAmongDocuments unwritableDisk tables := by
    cases h.symm.trans unwritable_runs.1
    exact noLinkAmongDocuments_unwritable
  obtain ⟨tables, target, hload, htarget, -, touch⟩ :=
    update_stays_in_its_directory.2 (some sampleOut) sampleSources (.start unwritableDisk) noLink
      [tempName (grammarFile "h"), Text.ofString "real"] fun heq => before (heq ▸ unwritable_runs.2.2.2)
  cases hload.symm.trans unwritable_runs.1
  cases htarget
  exact touch

end Sample

end TaggedGrammar.Output
