import TaggedGrammar.Proofs.Files.Resolve
import TaggedGrammar.Proofs.Output.Check
import TaggedGrammar.Proofs.Table.Load

/-!
# Repeating an update

An update that has succeeded leaves nothing to do: a check finds nothing outdated, and a second update writes
the same documents over themselves.
-/

namespace TaggedGrammar.Output

open Files Files.Disk Run

variable {out : Option Files.Path} {sources : Table.Sources} {s s' : Session} {tables : Tables}

/-- No link has the name of a document of the tables, or of a file beside one. -/
def NoLinkAmongDocuments (d : Disk) (tables : Tables) : Prop :=
  ∀ host ∈ tables.hosts, ∀ name ∈ documentNames host.name, d.NoLinkNamed name ∧ d.NoLinkNamed (tempName name)

/-- An update ends well if each of its parts does. -/
lemma ends_update_ok {paths} :
    Ends (update out sources) s (.ok paths) s' ↔
      ∃ tables s₁ files target s₂, Ends (Table.load sources) s (.ok tables) s₁ ∧
        (generate tables.languages tables.hosts).result = .ok files ∧
        Ends (directory out) s₁ (.ok target) s₂ ∧ Ends (writeFiles target files) s₂ (.ok paths) s' := by
  simp only [update, ends_bind_ok, ends_ofOutcome, ends_note, ends_pure]
  constructor
  · rintro ⟨tables, s₁, hload, files, _, ⟨hfiles, rfl⟩, target, s₂, htarget, _, _, hwrite, _, _, ⟨-, rfl⟩, heq, rfl⟩
    cases heq
    exact ⟨tables, _, files, target, s₂, hload, hfiles.symm, htarget, hwrite⟩
  · rintro ⟨tables, s₁, files, target, s₂, hload, hfiles, htarget, hwrite⟩
    exact ⟨tables, s₁, hload, files, s₁, ⟨hfiles.symm, rfl⟩, target, s₂, htarget, paths, s', hwrite, (), s',
      ⟨trivial, rfl⟩, rfl, rfl⟩

/-- The search for the directory changes nothing. -/
lemma ends_directory_eq {res} (h : Ends (directory out) s res s') : s' = s := by
  cases out with
  | none => exact (ends_inspect.1 h).2
  | some p => exact (ends_pure.1 h).2

/-- The output directory stays the same as long as the links do, if there is a directory. -/
lemma ends_directory_of_keeps {target : Files.Path} {q : Place} {s₁ : Session}
    (h : Ends (directory out) s (.ok target) s') (hk : Keeps s.disk s₁.disk) (hfit : target.Fits)
    (hq : s₁.disk.LeadsTo target q) : Ends (directory out) s₁ (.ok target) s₁ := by
  cases out with
  | none =>
    have hresolve := (ends_inspect.1 h).1.symm
    refine ends_inspect.2 ⟨?_, rfl⟩
    rw [hk.here]
    exact (resolve_of_leadsTo hresolve hk hfit hq).symm
  | some p =>
    obtain ⟨heq, -⟩ := ends_pure.1 h
    cases heq
    exact ends_pure.2 ⟨rfl, rfl⟩

/-- All documents are in a directory, can be written there again, and have no file beside them. -/
def UpToDate (d : Disk) (target : Files.Path) (files : List GeneratedFile) : Prop :=
  ∃ q, d.LeadsTo target q ∧ ∀ f ∈ files, Ready d target f.name ∧ Settled d q f

/-- Documents that were all written are up to date, and no link was lost or made. -/
lemma upToDate_of_writeFiles {target : Files.Path} {files : List GeneratedFile} {paths}
    (h : Ends (writeFiles target files) s (.ok paths) s') (hne : files ≠ [])
    (plain : ∀ f ∈ files, IsPlain f.name)
    (noLink : ∀ f ∈ files, s.disk.NoLinkNamed f.name ∧ s.disk.NoLinkNamed (tempName f.name))
    (apart : files.Pairwise Apart) :
    paths = files.map (target.child ·.name) ∧ Keeps s.disk s'.disk ∧ UpToDate s'.disk target files := by
  obtain ⟨s₁, q, made, hq, ready⟩ := ready_of_writeFiles h hne plain noLink
  obtain ⟨-, all⟩ := ends_writeFiles h hne made hq ready
  have keeps := all.keeps ready
  rcases all.split apart with ⟨hpaths, settled⟩ | ⟨_, _, _, _, _, _, hres, _⟩
  · refine ⟨Except.ok.inj hpaths, (ends_makeDirectories made).grows.keeps.trans keeps, q, hq.mono keeps, ?_⟩
    exact fun f hf => ⟨(ready f hf).keeps keeps, settled f hf⟩
  · cases hres

/-- Writing documents that are up to date succeeds and changes nothing. -/
lemma ends_writeFiles_of_upToDate {target : Files.Path} {files : List GeneratedFile} (hne : files ≠ [])
    (h : UpToDate s.disk target files) :
    ∃ s', Ends (writeFiles target files) s (.ok (files.map (target.child ·.name))) s' ∧ Agrees s.disk s'.disk := by
  obtain ⟨q, hq, hall⟩ := h
  obtain ⟨f, hf⟩ := List.exists_mem_of_ne_nil files hne
  have made := makeDirectories_of_leadsTo (hall f hf).1.own.fits.of_child hq
  have ended := ends (writeFiles target files) s
  obtain ⟨-, all⟩ := ends_writeFiles ended hne made hq fun f hf => (hall f hf).1
  obtain ⟨hres, same⟩ := all.of_settled fun f hf => (hall f hf).2
  exact ⟨_, hres ▸ ended, same⟩

/-- An update that has succeeded leaves nothing to do as long as the tables stay the same: a check finds no
outdated document, and another update writes the same documents and changes nothing. -/
theorem update_idempotent {paths} (loaded : (Table.load sources s).1.result = .ok tables)
    (noLink : NoLinkAmongDocuments s.disk tables) (updated : (update out sources s).1.result = .ok paths)
    (reloaded : (Table.load sources (update out sources s).2).1.result = .ok tables) :
    (check out sources (update out sources s).2).1.result = .ok [] ∧
      (update out sources (update out sources s).2).1.result = .ok paths ∧
      Agrees (update out sources s).2.disk (update out sources (update out sources s).2).2.disk := by
  generalize hs' : (update out sources s).2 = s' at reloaded ⊢
  obtain ⟨tables', s₁, files, target, s₂, hload, hfiles, htarget, hwrite⟩ := ends_update_ok.1 ⟨updated, hs'⟩
  -- what the first run has done
  cases loaded.symm.trans hload.1
  cases ends_directory_eq htarget
  have hdisk := (Table.onlyReads_load sources).disk hload
  have hne := ne_nil_of_generate hfiles
  have apart := apart_of_generate hfiles (Table.nodup_of_load hload)
  have noLink_files : ∀ f ∈ files, s₁.disk.NoLinkNamed f.name ∧ s₁.disk.NoLinkNamed (tempName f.name) := by
    intro f hf
    obtain ⟨host, hhost, hname⟩ := exists_host_of_generate hfiles hf
    rw [hdisk]
    exact noLink host hhost _ hname
  obtain ⟨rfl, keeps, upToDate⟩ :=
    upToDate_of_writeFiles hwrite hne (isPlain_of_generate hfiles) noLink_files apart
  -- both later runs load the tables and find the directory of the first one
  obtain ⟨s₃, hs₃⟩ : ∃ s₃, Ends (Table.load sources) s' (.ok tables) s₃ := ⟨_, reloaded, rfl⟩
  have hdisk₃ := (Table.onlyReads_load sources).disk hs₃
  rw [← hdisk₃] at keeps upToDate ⊢
  obtain ⟨q, hq, hall⟩ := upToDate
  obtain ⟨f, hf⟩ := List.exists_mem_of_ne_nil files hne
  have htarget₃ := ends_directory_of_keeps htarget keeps (hall f hf).1.own.fits.of_child hq
  refine ⟨?_, ?_⟩
  · have checked := ends_outdated_of_settled hq (fun f hf => (hall f hf).1.own) (fun f hf => (hall f hf).2)
      (return_notMem_of_generate hfiles)
    exact (Ends.bind hs₃ (Ends.bind htarget₃ (Ends.bind (ends_ofOutcome.2 ⟨hfiles.symm, rfl⟩) checked))).1
  · obtain ⟨s₄, hwrite₄, same⟩ := ends_writeFiles_of_upToDate hne ⟨q, hq, hall⟩
    have again := ends_update_ok.2 ⟨tables, s₃, files, target, s₃, hs₃, hfiles, htarget₃, hwrite₄⟩
    rw [again.2]
    exact ⟨again.1, same⟩

section Sample

/-- A disk with both tables in files and an output directory behind a link. In that directory there are an old
document and a file that was left beside it. -/
def sampleDisk : Disk where
  entries :=
    [([Text.ofString "languages"], .file "languages: [\x7bname: a, identifiers: [b], source: c\x7d]".toUTF8),
      ([Text.ofString "hosts"],
        .file ("hosts: \x7bh: \x7btarget_scopes: [t], basic_grammar_pattern: &p \x7bbegin: '\x7baliases\x7d', " ++
          "end: e, begin_captures: \x7b\x7d\x7d, basic_grammar: *p\x7d\x7d").toUTF8),
      ([Text.ofString "out"], .link "real"),
      ([Text.ofString "real"], .directory),
      ([grammarFile "h", Text.ofString "real"], .file "old".toUTF8),
      ([tempName (grammarFile "h"), Text.ofString "real"], .file "left".toUTF8)]
  here := []

/-- The table files of the sample. -/
def sampleSources : Table.Sources :=
  ⟨some ⟨0, [Text.ofString "languages"]⟩, some ⟨0, [Text.ofString "hosts"]⟩⟩

/-- The tables of the sample. -/
def sampleTables : Tables :=
  { languages := [{ name := "a", identifiers := [Text.ofString "b"], source := .one "c" }]
    hosts := [slotHost "h" [Text.ofString "t"] []] }

/-- The output directory of the sample. -/
def sampleOut : Files.Path :=
  ⟨0, [Text.ofString "out"]⟩

/-- The link to the output directory is the only one. -/
lemma eq_of_get_sample {name : Text} {q : Place} {link : Text}
    (h : sampleDisk.get (name :: q) = some (.link link)) : name = "out" ∧ link = "real" := by
  have hmem := mem_entries_of_get h
  simp only [sampleDisk, List.mem_cons, Prod.mk.injEq, reduceCtorEq, and_false, List.not_mem_nil, or_false,
    false_or, List.cons.injEq, Entry.link.injEq] at hmem
  exact ⟨hmem.1.1, hmem.2⟩

/-- The sample has no link with the name of a document. -/
lemma noLinkAmongDocuments_sample : NoLinkAmongDocuments sampleDisk sampleTables := by
  have noLink {name : Text} (hname : name ≠ "out") : sampleDisk.NoLinkNamed name :=
    fun q link hlink => hname (eq_of_get_sample hlink).1
  intro host hhost name hname
  cases List.mem_singleton.1 hhost
  simp only [documentNames, List.mem_cons, List.not_mem_nil, or_false] at hname
  rcases hname with rfl | rfl
  · exact ⟨noLink (by decide), noLink (by decide)⟩
  · exact ⟨noLink (by decide), noLink (by decide)⟩

/-- How the sample runs, and that its tables are the same afterwards. -/
lemma sample_runs :
    (Table.load sampleSources (.start sampleDisk)).1.result = .ok sampleTables ∧
      (update (some sampleOut) sampleSources (.start sampleDisk)).1.result =
        .ok ((documentNames "h").map sampleOut.child) ∧
      (Table.load sampleSources (update (some sampleOut) sampleSources (.start sampleDisk)).2).1.result =
        .ok sampleTables := by
  decide +kernel

/-- An update over an old document and a file beside it. -/
theorem update_idempotent_sample :
    NoLinkAmongDocuments sampleDisk sampleTables ∧
      ∃ s', (update (some sampleOut) sampleSources (.start sampleDisk)).2 = s' ∧
        (check (some sampleOut) sampleSources s').1.result = .ok [] ∧
        (update (some sampleOut) sampleSources s').1.result = .ok ((documentNames "h").map sampleOut.child) ∧
        Agrees s'.disk (update (some sampleOut) sampleSources s').2.disk :=
  ⟨noLinkAmongDocuments_sample, _, rfl,
    update_idempotent sample_runs.1 noLinkAmongDocuments_sample sample_runs.2.1 sample_runs.2.2⟩

end Sample

end TaggedGrammar.Output
