import TaggedGrammar.Proofs.Output.Update

/-!
# How far an update gets

Whatever stops an update before the first document is written leaves the disk as it is. After that the
documents in front of the one that could not be written are in their places, and those from it on are as they
were. `StopsAt` lists what can stop it: there is no directory, or a directory is in the document's place, and
then the fault says so and nothing is left beside the document; or the document has no bytes, and then an empty
file is left beside it; or a directory is where that file should be.
-/

namespace TaggedGrammar.Output

open Files Files.Disk Run

/-- Why an update that began on the disk `d` stops at a document, and what is beside it then. -/
inductive StopsAt (d d' : Disk) (target : Files.Path) (f : GeneratedFile) : Fault → Prop where
  | noDirectory {cause} :
    (∀ q, ¬d'.LeadsTo target q) →
    StopsAt d d' target f (.writeFailed (target.child f.name).text cause)
  | blocked {q content cause} :
    d'.LeadsTo target q →
    f.text.bytes? = some content →
    d'.get (f.name :: q) = some .directory →
    d'.get (tempName f.name :: q) = none →
    StopsAt d d' target f (.writeFailed (target.child f.name).text cause)
  | unwritable {q} :
    d'.LeadsTo target q →
    f.text.bytes? = none →
    d'.get (tempName f.name :: q) = some (.file .empty) →
    StopsAt d d' target f .notEncodable
  | obstructed {q cause} :
    d'.LeadsTo target q →
    d'.get (tempName f.name :: q) = some .directory →
    d.get (tempName f.name :: q) = some .directory ∨ tempName f.name ∈ target.parts →
    StopsAt d d' target f (.file cause)

/-- What an update has made of the disk `d` when some documents are done and others are still to do. -/
structure Leaves (d d' : Disk) (target : Files.Path) (done todo : List GeneratedFile) : Prop where
  here : d'.here = d.here
  /-- What is done is there, with nothing beside it. -/
  written : ∀ f ∈ done, ∃ q, d'.LeadsTo target q ∧ Settled d' q f
  /-- What is to do is as it was; only a directory that the path asks for can be new there. -/
  pending : ∀ f ∈ todo, ∀ q, d'.LeadsTo target q → f.name ∉ target.parts →
    d'.get (f.name :: q) = d.get (f.name :: q)
  /-- All else that was there is still there, files beside documents apart. -/
  kept : ∀ r e, d.get r = some e →
    (∀ q, d'.LeadsTo target q → (∀ f ∈ done, r ≠ f.name :: q) ∧
      ∀ f ∈ done ++ todo, r ≠ tempName f.name :: q) →
    d'.get r = some e

/-- No name is too long for the files of a run, and every path of a document can be used. -/
structure WithinLimits (d : Disk) (target : Files.Path) (files : List GeneratedFile) : Prop where
  parts : ∀ name ∈ target.parts, name.fileBytes ≤ nameLimit
  links : d.ShortLinks
  names : ∀ f ∈ files, ∀ name ∈ [f.name, tempName f.name],
    (target.child name).Fits ∧ name.fileBytes ≤ nameLimit

section

variable {target : Files.Path} {q : Place} {files : List GeneratedFile} {d d₁ d' : Disk} {fault : Fault}

/-- What was not there before has a name of the path. -/
lemma get_of_grows {name : Text} (grown : Grows d d₁) (new : NewAmong d d₁ target.parts)
    (hname : name ∉ target.parts) (q : Place) : d₁.get (name :: q) = d.get (name :: q) := by
  cases hg : d.get (name :: q) with
  | some e => exact grown.kept hg
  | none =>
    by_contra hsome
    exact hname (new name q hg hsome)

/-- What is left if nothing stops the writing. -/
lemma leaves_of_writesAll {paths} (all : WritesAll target q d₁ files (.ok paths) d') (grown : Grows d d₁)
    (hq : d'.LeadsTo target q) (hhere : d'.here = d.here) (settled : ∀ f ∈ files, Settled d' q f) :
    Leaves d d' target files [] := by
  refine ⟨hhere, fun f hf => ⟨q, hq, settled f hf⟩, by simp, fun r e hr hother => ?_⟩
  obtain ⟨hnames, htemps⟩ := hother q hq
  rw [all.elsewhere fun f hf => ⟨hnames f hf, htemps f (by simpa using hf)⟩]
  exact grown.kept hr

/-- What is left if one document cannot be written. -/
lemma leaves_of_stop {done rest : List GeneratedFile} {f : GeneratedFile} {d₂ : Disk} {paths}
    (all : WritesAll target q d₁ done (.ok paths) d₂) (failed : Writes d₂ target q f.name f.text (.error fault) d')
    (grown : Grows d d₁) (new : NewAmong d d₁ target.parts) (hq : d'.LeadsTo target q) (hhere : d'.here = d.here)
    (settled : ∀ g ∈ done, Settled d' q g) (apart : (done ++ f :: rest).Pairwise Apart) :
    Leaves d d' target done (f :: rest) := by
  obtain ⟨-, apart_rest, apart_done⟩ := List.pairwise_append.1 apart
  refine ⟨hhere, fun g hg => ⟨q, hq, settled g hg⟩, fun g hg q' hq' hname => ?_, fun r e hr hother => ?_⟩
  · cases hq.unique hq'
    have hbeside : g.name ≠ tempName f.name := by
      rcases List.mem_cons.1 hg with rfl | hg
      · exact (tempName_ne _).symm
      · exact ((List.pairwise_cons.1 apart_rest).1 g hg).right.symm
    rw [failed.elsewhere_of_error (by simp [hbeside]), all.elsewhere, get_of_grows grown new hname]
    intro x hx
    have apart_x := apart_done x hx g hg
    simp [apart_x.names.symm, apart_x.right.symm]
  · obtain ⟨hnames, htemps⟩ := hother q hq
    rw [failed.elsewhere_of_error (htemps f (by simp)),
      all.elsewhere fun g hg => ⟨hnames g hg, htemps g (by simp [hg])⟩]
    exact grown.kept hr

/-- Why a writing into a directory that was made has failed. -/
lemma stopsAt_of_writes {done rest : List GeneratedFile} {f : GeneratedFile} {d₂ : Disk} {paths}
    (all : WritesAll target q d₁ done (.ok paths) d₂) (failed : Writes d₂ target q f.name f.text (.error fault) d')
    (grown : Grows d d₁) (new : NewAmong d d₁ target.parts) (hq : d'.LeadsTo target q)
    (apart : (done ++ f :: rest).Pairwise Apart) : StopsAt d d' target f fault := by
  cases failed with
  | blocked hb _ hd h₁ =>
    refine .blocked hq hb ?_ h₁.at
    rw [h₁.elsewhere (by simp [(tempName_ne _).symm]), hd]
  | unwritable hb _ h₁ => exact .unwritable hq hb h₁.at
  | obstructed hd =>
    refine .obstructed hq hd ?_
    -- no other document makes a directory there, so it was there before or the path has made it
    have hd₁ : d₁.get (tempName f.name :: q) = some .directory := by
      rw [← hd, all.elsewhere]
      intro x hx
      have apart_x := (List.pairwise_append.1 apart).2.2 x hx f (by simp)
      simp [apart_x.left.symm, apart_x.temps.symm]
    by_cases hname : tempName f.name ∈ target.parts
    · exact .inr hname
    · exact .inl ((get_of_grows grown new hname q).symm.trans hd₁)

variable {s s' : Session}

/-- How far the writing of documents gets. -/
def GetsTo (d d' : Disk) (target : Files.Path) (files : List GeneratedFile) (res : Except Fault (List Files.Path)) :
    Prop :=
  ∃ done todo, files = done ++ todo ∧ Leaves d d' target done todo ∧
    ((todo = [] ∧ res = .ok (files.map (target.child ·.name))) ∨
      ∃ f rest fault, todo = f :: rest ∧ res = .error fault ∧ StopsAt d d' target f fault)

/-- With a directory, documents are written one after the other until one cannot be. -/
lemma getsTo_of_made {s₁ : Session} {res} (h : Ends (writeFiles target files) s res s') (hne : files ≠ [])
    (made : Ends (makeDirectories target) s (.ok ()) s₁) (hq : s₁.disk.LeadsTo target q)
    (ready : ∀ f ∈ files, Ready s₁.disk target f.name) (apart : files.Pairwise Apart) :
    GetsTo s.disk s'.disk target files res := by
  obtain ⟨-, all⟩ := ends_writeFiles h hne made hq ready
  have makes := ends_makeDirectories made
  have keeps := all.keeps ready
  have hq' := hq.mono keeps
  have hhere := keeps.here.trans makes.grows.here
  rcases all.split apart with ⟨rfl, settled⟩ | ⟨done, f, rest, fault, d₂, rfl, rfl, settled, all_done, failed⟩
  · exact ⟨files, [], by simp, leaves_of_writesAll all makes.grows hq' hhere settled, .inl ⟨rfl, rfl⟩⟩
  · refine ⟨done, f :: rest, rfl, ?_, .inr ⟨f, rest, fault, rfl, rfl, ?_⟩⟩
    · exact leaves_of_stop all_done failed makes.grows makes.new hq' hhere settled apart
    · exact stopsAt_of_writes all_done failed makes.grows makes.new hq' apart

/-- Without a directory no document is written, and nothing but directories has been made. -/
lemma getsTo_of_noDirectory {s₁ : Session} {f rest res} (h : Ends (writeFiles target (f :: rest)) s res s')
    (made : Ends (makeDirectories target) s (.error fault) s₁) (limits : WithinLimits s.disk target (f :: rest)) :
    GetsTo s.disk s'.disk target (f :: rest) res := by
  have makes := ends_makeDirectories made
  have names := limits.names f (by simp)
  have fits_temp := names (tempName f.name) (by simp)
  have hfit := fits_temp.1.of_child
  obtain ⟨cause, rfl⟩ := makes.cause rfl hfit.letters
  have hno : ∀ q, ¬s₁.disk.LeadsTo target q := fun q hq => makes.leadsNot rfl ⟨hfit, q, hq⟩
  -- nothing can have been left in a directory that is not there
  have links : s₁.disk.ShortLinks := fun p link hlink => limits.links p link (makes.grows.link hlink)
  have absent : s₁.disk.isThere (target.child (tempName f.name)) = .ok false := by
    refine isThere_child_of_noDirectory hno fits_temp.1 ?_ links
    exact List.forall_mem_append.2 ⟨limits.parts, by simpa using fits_temp.2⟩
  rcases ends_writeFiles_cons.1 h with ⟨fault, h₁, rfl⟩ | ⟨s₂, h₁, -⟩
  · obtain ⟨heq, rfl⟩ := ends_writeDocument_of_noDirectory h₁ made absent
    cases heq
    refine ⟨[], f :: rest, rfl, ⟨makes.grows.here, by simp, fun g _ q hq => absurd hq (hno q),
      fun r e hr _ => makes.grows.kept hr⟩, .inr ⟨f, rest, _, rfl, rfl, .noDirectory hno⟩⟩
  · cases (ends_writeDocument_of_noDirectory h₁ made absent).1

/-- How far the writing of documents gets, with or without a directory. -/
lemma getsTo_of_writeFiles {res} (h : Ends (writeFiles target files) s res s') (hne : files ≠ [])
    (plain : ∀ f ∈ files, IsPlain f.name)
    (noLink : ∀ f ∈ files, s.disk.NoLinkNamed f.name ∧ s.disk.NoLinkNamed (tempName f.name))
    (limits : WithinLimits s.disk target files) (apart : files.Pairwise Apart) :
    GetsTo s.disk s'.disk target files res := by
  obtain ⟨x, s₁, made⟩ : ∃ x s₁, Ends (makeDirectories target) s x s₁ := ⟨_, _, ends _ s⟩
  cases x with
  | error fault =>
    cases files with
    | nil => exact absurd rfl hne
    | cons f rest => exact getsTo_of_noDirectory h made limits
  | ok _ =>
    have makes := ends_makeDirectories made
    have keeps := makes.grows.keeps
    obtain ⟨-, q, hq⟩ := makes.leads rfl
    refine getsTo_of_made h hne made hq (fun f hf => ?_) apart
    have names := limits.names f hf
    obtain ⟨fits, short⟩ := names f.name (by simp)
    obtain ⟨fits_temp, short_temp⟩ := names (tempName f.name) (by simp)
    exact ⟨⟨⟨plain f hf, fits, short⟩, (noLink f hf).1.keeps keeps⟩,
      ⟨isPlain_tempName _, fits_temp, short_temp⟩, (noLink f hf).2.keeps keeps⟩

end

section

variable {out : Option Files.Path} {sources : Table.Sources} {s s' : Session} {res : Except Fault (List Files.Path)}

/-- What an update does once it has its documents and its directory. -/
lemma ends_writeFiles_of_update {tables files target s₁} (h : Ends (update out sources) s res s')
    (hload : Ends (Table.load sources) s (.ok tables) s₁)
    (hfiles : (generate tables.languages tables.hosts).result = .ok files)
    (htarget : Ends (directory out) s₁ (.ok target) s₁) : Ends (writeFiles target files) s₁ res s' := by
  have ended := ends (writeFiles target files) s₁
  cases hres : (writeFiles target files s₁).1.result with
  | ok paths =>
    rw [hres] at ended
    have updated := ends_update_ok.2 ⟨tables, s₁, files, target, s₁, hload, hfiles, htarget, ended⟩
    obtain ⟨rfl, rfl⟩ := h.unique updated
    exact ended
  | error fault =>
    rw [hres] at ended
    have updated : Ends (update out sources) s (.error fault) _ :=
      Ends.bind hload (Ends.bind (ends_ofOutcome.2 ⟨hfiles.symm, rfl⟩)
        (Ends.bind htarget (Ends.bind_error ended)))
    obtain ⟨rfl, rfl⟩ := h.unique updated
    exact ended

/-- The directory of an update depends on the disk only. -/
lemma directory_congr (out : Option Files.Path) {s₁ : Session} (hdisk : s₁.disk = s.disk) :
    (directory out s₁).1.result = (directory out s).1.result := by
  cases out with
  | none =>
    change (defaultDirectory none s₁).1.result = (defaultDirectory none s).1.result
    unfold defaultDirectory inspect
    rw [hdisk]
  | some p => rfl

/-- An update that gets no tables, no documents or no directory leaves the disk as it is. Otherwise it writes
one document after the other and stops at the first one that it cannot write. -/
theorem update_stops_at_first_failure (h : Ends (update out sources) s res s') :
    (∀ fault, (Table.load sources s).1.result = .error fault → res = .error fault ∧ s'.disk = s.disk) ∧
    ∀ tables, (Table.load sources s).1.result = .ok tables →
      (∀ fault, (generate tables.languages tables.hosts).result = .error fault →
        res = .error fault ∧ s'.disk = s.disk) ∧
      ∀ files, (generate tables.languages tables.hosts).result = .ok files →
        (∀ fault, (directory out s).1.result = .error fault → res = .error fault ∧ s'.disk = s.disk) ∧
        ∀ target, (directory out s).1.result = .ok target → NoLinkAmongDocuments s.disk tables →
          WithinLimits s.disk target files → GetsTo s.disk s'.disk target files res := by
  have loaded := ends (Table.load sources) s
  have hdisk := (Table.onlyReads_load sources).disk loaded
  have found := directory_congr out hdisk
  refine ⟨fun fault hload => ?_, fun tables hload => ⟨fun fault hfiles => ?_, fun files hfiles => ?_⟩⟩
  · rw [hload] at loaded
    have failed : Ends (update out sources) s (.error fault) _ := Ends.bind_error loaded
    obtain ⟨rfl, rfl⟩ := h.unique failed
    exact ⟨rfl, hdisk⟩
  · rw [hload] at loaded
    have failed : Ends (update out sources) s (.error fault) _ :=
      Ends.bind loaded (Ends.bind_error (ends_ofOutcome.2 ⟨hfiles.symm, rfl⟩))
    obtain ⟨rfl, rfl⟩ := h.unique failed
    exact ⟨rfl, hdisk⟩
  · rw [hload] at loaded
    have located := ends (directory out) (Table.load sources s).2
    rw [found, ends_directory_eq located] at located
    refine ⟨fun fault htarget => ?_, fun target htarget noLink limits => ?_⟩
    · rw [htarget] at located
      have failed : Ends (update out sources) s (.error fault) _ :=
        Ends.bind loaded (Ends.bind (ends_ofOutcome.2 ⟨hfiles.symm, rfl⟩) (Ends.bind_error located))
      obtain ⟨rfl, rfl⟩ := h.unique failed
      exact ⟨rfl, hdisk⟩
    · rw [htarget] at located
      have written := ends_writeFiles_of_update h loaded hfiles located
      rw [← hdisk] at noLink limits ⊢
      refine getsTo_of_writeFiles written (ne_nil_of_generate hfiles) (isPlain_of_generate hfiles) ?_ limits
        (apart_of_generate hfiles (Table.nodup_of_load loaded))
      intro f hf
      obtain ⟨host, hhost, hname⟩ := exists_host_of_generate hfiles hf
      exact noLink host hhost _ hname

end

section Sample

/-- The sample with half a surrogate pair as an alias. -/
def unwritableDisk : Disk :=
  sampleDisk.put [Text.ofString "languages"]
    (.file "languages: [\x7bname: a, identifiers: [\"\\udcff\"], source: c\x7d]".toUTF8)

/-- The tables of that sample. -/
def unwritableTables : Tables :=
  { sampleTables with languages := [{ name := "a", identifiers := [[.half 0x4ff]], source := .one "c" }] }

/-- Another table leaves the ways of the sample as they are. -/
lemma keeps_unwritableDisk : Keeps sampleDisk unwritableDisk := by
  have hfile : ∃ content, sampleDisk.get [Text.ofString "languages"] = some (.file content) := ⟨_, rfl⟩
  obtain ⟨content, hfile⟩ := hfile
  exact (sets_put _ _ _ _).keeps (by simp [hfile]) (by simp [hfile]) (by simp)

/-- The documents of the sample have short names. -/
lemma withinLimits_sample {files}
    (h : (generate unwritableTables.languages unwritableTables.hosts).result = .ok files) :
    WithinLimits unwritableDisk sampleOut files := by
  refine ⟨by decide, fun p link hlink => ?_, fun f hf => ?_⟩
  · cases p with
    | nil => cases hlink
    | cons name q =>
      rw [(eq_of_get_sample (keeps_unwritableDisk.link.1 hlink)).2]
      decide
  · obtain ⟨host, hhost, hname⟩ := exists_host_of_generate h hf
    cases List.mem_singleton.1 hhost
    have fits : ∀ name ∈ documentNames (Text.ofString "h"), ∀ n ∈ [name, tempName name],
        unfitPath? (sampleOut.child n) = none ∧ (sampleOut.child n).text.fileBytes ≤ pathLimit ∧
          n.fileBytes ≤ nameLimit := by decide +kernel
    intro n hn
    obtain ⟨letters, short, hshort⟩ := fits f.name hname n hn
    exact ⟨⟨letters, short⟩, hshort⟩

/-- How the sample runs. -/
lemma unwritable_runs :
    (Table.load sampleSources (.start unwritableDisk)).1.result = .ok unwritableTables ∧
      (generate unwritableTables.languages unwritableTables.hosts).result.toOption.isSome ∧
      (update (some sampleOut) sampleSources (.start unwritableDisk)).1.result = .error .notEncodable ∧
      (update (some sampleOut) sampleSources (.start unwritableDisk)).2.disk.get
        [tempName (grammarFile "h"), Text.ofString "real"] = some (.file .empty) := by
  decide +kernel

/-- The sample has no link with the name of a document. -/
lemma noLinkAmongDocuments_unwritable : NoLinkAmongDocuments unwritableDisk unwritableTables := by
  intro host hhost name hname
  obtain ⟨own, beside⟩ := noLinkAmongDocuments_sample host hhost name hname
  exact ⟨own.keeps keeps_unwritableDisk, beside.keeps keeps_unwritableDisk⟩

/-- An update that stops at a document without bytes and leaves a file beside it. -/
theorem update_leaves_file_beside_unwritable_document :
    ∃ files s', (generate unwritableTables.languages unwritableTables.hosts).result = .ok files ∧
      Ends (update (some sampleOut) sampleSources) (.start unwritableDisk) (.error .notEncodable) s' ∧
      NoLinkAmongDocuments unwritableDisk unwritableTables ∧ WithinLimits unwritableDisk sampleOut files ∧
      GetsTo unwritableDisk s'.disk sampleOut files (.error .notEncodable) ∧
      s'.disk.get [tempName (grammarFile "h"), Text.ofString "real"] = some (.file .empty) := by
  obtain ⟨loaded, generated, stopped, left⟩ := unwritable_runs
  have ended := ends (update (some sampleOut) sampleSources) (.start unwritableDisk)
  rw [stopped] at ended
  cases hfiles : (generate unwritableTables.languages unwritableTables.hosts).result with
  | error fault =>
    rw [hfiles] at generated
    cases generated
  | ok files =>
    obtain ⟨-, gets⟩ := (update_stops_at_first_failure ended).2 _ loaded |>.2 files hfiles
    exact ⟨files, _, rfl, ended, noLinkAmongDocuments_unwritable, withinLimits_sample hfiles,
      gets sampleOut rfl noLinkAmongDocuments_unwritable (withinLimits_sample hfiles), left⟩

end Sample

end TaggedGrammar.Output
