import TaggedGrammar.Proofs.Grammar.Document
import TaggedGrammar.Proofs.Output.Update

/-!
# Stale documents

Between an update and a check the documents may be changed. The check reports those that are gone, that are
directories or that hold another text, in the order of generation, and it changes nothing. A document with
other line ends still holds its text.
-/

namespace TaggedGrammar.Output

open Files Files.Disk Run

/-- The documents in the directory at `q` were changed, and those with the given names are stale. No directory is
lost, and the links are the same. -/
structure Edits (d d' : Disk) (q : Place) (files : List GeneratedFile) (names : List Text) : Prop where
  keeps : Keeps d d'
  stale : ∀ f ∈ files, f.name ∈ names → Stale f.text (d'.get (f.name :: q))
  current : ∀ f ∈ files, f.name ∉ names → Current f.text (d'.get (f.name :: q))

/-- A path leads to a document in the directory at `q`. -/
structure HeldAt (d : Disk) (q : Place) (path : Files.Path) (f : GeneratedFile) : Prop where
  located : d.locate .follow path = .ok ⟨f.name :: q, d.get (f.name :: q)⟩
  held : ∃ content, f.text.bytes? = some content ∧ d.get (f.name :: q) = some (.file content)

section

variable {out : Option Files.Path} {sources : Table.Sources} {s s' : Session} {tables : Tables}

/-- What an update has done when it has succeeded. -/
lemma upToDate_of_update {paths} (loaded : (Table.load sources s).1.result = .ok tables)
    (noLink : NoLinkAmongDocuments s.disk tables) (updated : Ends (update out sources) s (.ok paths) s') :
    ∃ files target s₁, (generate tables.languages tables.hosts).result = .ok files ∧ files.Pairwise Apart ∧
      Ends (directory out) s₁ (.ok target) s₁ ∧ Keeps s₁.disk s'.disk ∧ UpToDate s'.disk target files ∧
      paths = files.map (target.child ·.name) := by
  obtain ⟨tables', s₁, files, target, s₂, hload, hfiles, htarget, hwrite⟩ := ends_update_ok.1 updated
  cases loaded.symm.trans hload.1
  cases ends_directory_eq htarget
  have hdisk := (Table.onlyReads_load sources).disk hload
  have apart := apart_of_generate hfiles (Table.nodup_of_load hload)
  have noLink_files : ∀ f ∈ files, s₁.disk.NoLinkNamed f.name ∧ s₁.disk.NoLinkNamed (tempName f.name) := by
    intro f hf
    obtain ⟨host, hhost, hname⟩ := exists_host_of_generate hfiles hf
    rw [hdisk]
    exact noLink host hhost _ hname
  obtain ⟨hpaths, keeps, upToDate⟩ :=
    upToDate_of_writeFiles hwrite (ne_nil_of_generate hfiles) (isPlain_of_generate hfiles) noLink_files apart
  exact ⟨files, target, s₁, hfiles, apart, htarget, keeps, upToDate, hpaths⟩

/-- After an update that has succeeded, and any change of its documents, a check reports the stale ones. -/
theorem check_reports_stale_documents {paths} (loaded : (Table.load sources s).1.result = .ok tables)
    (noLink : NoLinkAmongDocuments s.disk tables) (updated : (update out sources s).1.result = .ok paths) :
    ∃ files q, (generate tables.languages tables.hosts).result = .ok files ∧ (files.map (·.name)).Nodup ∧
      List.Forall₂ (HeldAt (update out sources s).2.disk q) paths files ∧
      ∀ names t, Edits (update out sources s).2.disk t.disk q files names →
        (Table.load sources t).1.result = .ok tables →
        (check out sources t).1.result = .ok ((files.map (·.name)).filter (· ∈ names)) ∧
          (check out sources t).2.disk = t.disk := by
  generalize hs' : (update out sources s).2 = s'
  obtain ⟨files, target, s₁, hfiles, apart, htarget, keeps, ⟨q, hq, hall⟩, rfl⟩ :=
    upToDate_of_update loaded noLink ⟨updated, hs'⟩
  refine ⟨files, q, hfiles, ?_, ?_, ?_⟩
  · exact List.pairwise_map.2 (apart.imp fun h => h.names)
  · refine List.forall₂_map_left_iff.2 (List.forall₂_same.2 fun f hf => ?_)
    exact ⟨(hall f hf).1.own.locate hq, (hall f hf).2.held⟩
  · intro names t edits reloaded
    obtain ⟨t₁, hload⟩ : ∃ t₁, Ends (Table.load sources) t (.ok tables) t₁ := ⟨_, reloaded, rfl⟩
    have hdisk := (Table.onlyReads_load sources).disk hload
    rw [← hdisk] at edits ⊢
    obtain ⟨f, hf⟩ := List.exists_mem_of_ne_nil files (ne_nil_of_generate hfiles)
    have hq₁ := hq.mono edits.keeps
    have htarget₁ := ends_directory_of_keeps htarget (keeps.trans edits.keeps) (hall f hf).1.own.fits.of_child hq₁
    have found := ends_outdated hq₁ (fun f hf => (hall f hf).1.own.keeps edits.keeps) edits.stale edits.current
      (return_notMem_of_generate hfiles)
    have checked : Ends (check out sources) t _ t₁ :=
      Ends.bind hload (Ends.bind htarget₁ (Ends.bind (ends_ofOutcome.2 ⟨hfiles.symm, rfl⟩) found))
    exact ⟨checked.1, congrArg _ checked.2⟩

end

section Sample

/-- The characters of the second document of the sample. -/
def sampleDocument : List Char :=
  (sampleTables.hosts.flatMap fun host => (Grammar.reinjection host sampleTables.languages).render).filterMap
    Letter.char?

/-- A directory in the place of the first document of the sample, and CR LF in the second one. -/
def editSample (d : Disk) (q : Place) : Disk :=
  (d.put (grammarFile "h" :: q) .directory).put (reinjectionFile "h" :: q)
    (.file (String.ofList (Text.withLineEnd ['\r', '\n'] sampleDocument)).toUTF8)

/-- The sample after its update and these changes. -/
def editedSample : Session :=
  .start (editSample (update (some sampleOut) sampleSources (.start sampleDisk)).2.disk [Text.ofString "real"])

/-- The changes to the sample make one document stale and keep the other current. -/
lemma edits_sample {d : Disk} {q : Place} {p₁ p₂ : Files.Path} {basic : Text}
    (first : HeldAt d q p₁ ⟨grammarFile "h", basic⟩)
    (second : HeldAt d q p₂ ⟨reinjectionFile "h", Text.ofChars sampleDocument⟩) :
    Edits d (editSample d q) q
      [⟨grammarFile "h", basic⟩, ⟨reinjectionFile "h", Text.ofChars sampleDocument⟩] [grammarFile "h"] := by
  have hne : grammarFile "h" ≠ reinjectionFile "h" := by decide
  obtain ⟨content₁, -, hget₁⟩ := first.held
  obtain ⟨content₂, -, hget₂⟩ := second.held
  have emptied := sets_put d (grammarFile "h") q .directory
  rw [← emptied.elsewhere (by simpa using hne.symm)] at hget₂
  have rewritten : Sets (d.put (grammarFile "h" :: q) .directory) (reinjectionFile "h" :: q) _ (editSample d q) :=
    sets_put _ _ _ _
  have keeps := (emptied.keeps (by simp [hget₁]) (by simp [hget₁]) (by simp)).trans
    (rewritten.keeps (by simp [hget₂]) (by simp [hget₂]) (by simp))
  refine ⟨keeps, ?_, ?_⟩
  · simp only [List.forall_mem_cons]
    refine ⟨fun _ => ?_, fun hname => ?_, List.forall_mem_nil _⟩
    · rw [rewritten.elsewhere (by simpa using hne), emptied.at]
      exact .directory
    · exact absurd (List.mem_singleton.1 hname) hne.symm
  · simp only [List.forall_mem_cons]
    refine ⟨fun hname => ?_, fun _ => ?_, List.forall_mem_nil _⟩
    · exact absurd List.mem_cons_self hname
    · rw [rewritten.at]
      exact .file (by simp [Text.lineEnds]) rfl

/-- The documents of the sample. -/
lemma sample_documents :
    ∃ basic, (generate sampleTables.languages sampleTables.hosts).result =
      .ok [⟨grammarFile "h", basic⟩, ⟨reinjectionFile "h", Text.ofChars sampleDocument⟩] := by
  refine ⟨(Grammar.basicOf (sampleTables.hosts.head (by simp [sampleTables])) sampleTables.languages).render, ?_⟩
  decide +kernel

/-- Where the first document is found, and that the tables can still be loaded. -/
lemma editedSample_runs :
    ((update (some sampleOut) sampleSources (.start sampleDisk)).2.disk.locate .follow
      (sampleOut.child (grammarFile "h"))).map (·.place) = .ok [grammarFile "h", Text.ofString "real"] ∧
    (Table.load sampleSources editedSample).1.result = .ok sampleTables := by
  decide +kernel

/-- The directory is reported, and the document with other line ends is not. -/
theorem check_reports_stale_documents_sample :
    NoLinkAmongDocuments sampleDisk sampleTables ∧
      (check (some sampleOut) sampleSources editedSample).1.result = .ok [grammarFile "h"] ∧
      (check (some sampleOut) sampleSources editedSample).2.disk = editedSample.disk := by
  refine ⟨noLinkAmongDocuments_sample, ?_⟩
  obtain ⟨files, q, hfiles, -, held, reports⟩ :=
    check_reports_stale_documents sample_runs.1 noLinkAmongDocuments_sample sample_runs.2.1
  obtain ⟨basic, hgenerated⟩ := sample_documents
  cases hgenerated.symm.trans hfiles
  obtain ⟨first, held⟩ := List.forall₂_cons.1 held
  obtain ⟨second, -⟩ := List.forall₂_cons.1 held
  have place := editedSample_runs.1
  rw [first.located] at place
  cases place
  exact reports _ editedSample (edits_sample first second) editedSample_runs.2

end Sample

end TaggedGrammar.Output
