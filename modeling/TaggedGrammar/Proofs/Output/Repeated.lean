import TaggedGrammar.Proofs.Output.Update

/-!
# Documents with one name

The documents of hosts with different names have different names. Hosts that are given as data may share a name, and
then the documents of the last one take the places of the others.
-/

namespace TaggedGrammar.Output

open Files Files.Disk Run

section

variable {p : Files.Path} {q : Place} {d d' : Disk} {before after : List GeneratedFile} {f : GeneratedFile}
  {paths : List Files.Path}

/-- The last documents are written from some disk on. -/
lemma WritesAll.behind (h : WritesAll p q d (before ++ after) (.ok paths) d') :
    ∃ d₁ paths', WritesAll p q d₁ after (.ok paths') d' := by
  induction before generalizing d paths with
  | nil => exact ⟨d, paths, h⟩
  | cons f rest ih =>
    cases h with
    | cons _ all => exact ih all

/-- A document stays in its place if the documents behind it can be written beside it. -/
lemma WritesAll.settled (h : WritesAll p q d (before ++ f :: after) (.ok paths) d') (apart : ∀ g ∈ after, Apart g f) :
    Settled d' q f := by
  obtain ⟨d₁, paths', behind⟩ := h.behind
  cases behind with
  | cons w all => exact w.settled.writesAll all apart

/-- One place holds one document. -/
lemma Settled.eq_of_name {g : GeneratedFile} (hf : Settled d q f) (hg : Settled d q g) (hname : f.name = g.name)
    (noReturn_f : .char '\r' ∉ f.text) (noReturn_g : .char '\r' ∉ g.text) : f = g := by
  obtain ⟨⟨content, bytes_f, get_f⟩, -⟩ := hf
  obtain ⟨⟨content', bytes_g, get_g⟩, -⟩ := hg
  rw [hname] at get_f
  cases get_f.symm.trans get_g
  obtain ⟨cs, read_f, text_f⟩ := Text.ofBytes?_of_noReturn bytes_f noReturn_f
  obtain ⟨cs', read_g, text_g⟩ := Text.ofBytes?_of_noReturn bytes_g noReturn_g
  cases read_f.symm.trans read_g
  obtain ⟨name, text⟩ := f
  cases hname
  cases text_f.symm.trans text_g
  rfl

end

/-- Documents have different names if and only if their hosts have. Once all are written, the last document of each name
is in its place, and no other document of that name is. So every document is in its place if the names of the hosts are
different. -/
theorem last_document_of_a_name_is_in_place {languages : List Language} {hosts : List Host}
    {files : List GeneratedFile} (generated : (generate languages hosts).result = .ok files) :
    ((files.map (·.name)).Nodup ↔ (hosts.map Host.name).Nodup) ∧
      ∀ (target : Files.Path) (s s' : Session) (paths : List Files.Path),
        Ends (writeFiles target files) s (.ok paths) s' →
        (∀ f ∈ files, s.disk.NoLinkNamed f.name ∧ s.disk.NoLinkNamed (tempName f.name)) →
        ∃ q, s'.disk.LeadsTo target q ∧
          (∀ before f after, files = before ++ f :: after → f.name ∉ after.map (·.name) → Settled s'.disk q f) ∧
          (∀ f ∈ files, ∀ g ∈ files, Settled s'.disk q f → Settled s'.disk q g → f.name = g.name → f = g) ∧
          ((hosts.map Host.name).Nodup → ∀ f ∈ files, Settled s'.disk q f) := by
  have hnames := names_of_filesOfHosts (generate_eq_ok.1 generated).2.2
  have noReturn := return_notMem_of_generate generated
  have nodup : (files.map (·.name)).Nodup ↔ (hosts.map Host.name).Nodup := by
    rw [hnames]
    exact nodup_documentNames
  refine ⟨nodup, fun target s s' paths written noLink => ?_⟩
  have hne := ne_nil_of_generate generated
  obtain ⟨s₁, q, made, hq, ready⟩ := ready_of_writeFiles written hne (isPlain_of_generate generated) noLink
  obtain ⟨-, all⟩ := ends_writeFiles written hne made hq ready
  have last (before f after) (hfiles : files = before ++ f :: after) (hlast : f.name ∉ after.map (·.name)) :
      Settled s'.disk q f := by
    have apart (g) (hg : g ∈ after) : Apart g f := by
      refine apart_of_ne hnames (by simp [hfiles, hg]) (by simp [hfiles]) fun heq => hlast ?_
      exact List.mem_map.2 ⟨g, hg, heq⟩
    rw [hfiles] at all
    exact all.settled apart
  refine ⟨q, hq.mono (all.keeps ready), last, ?_, fun different f hf => ?_⟩
  · intro f hf g hg settled_f settled_g hname
    exact settled_f.eq_of_name settled_g hname (noReturn f hf) (noReturn g hg)
  · obtain ⟨before, after, hfiles⟩ := List.append_of_mem hf
    have distinct := nodup.2 different
    rw [hfiles, List.map_append, List.map_cons] at distinct
    exact last before f after hfiles (List.nodup_cons.1 (List.nodup_append.1 distinct).2.1).1

section Sample

/-- A host with a chosen target scope. -/
def twin (scope : Text) : Host :=
  slotHost "h" [scope] []

/-- The documents of the hosts with one name and two scopes. -/
def twinFiles : List GeneratedFile :=
  [twin "t", twin "u"].flatMap (documentsOf sampleTables.languages)

/-- Two hosts with one name have four documents. -/
lemma generate_twins : (generate sampleTables.languages [twin "t", twin "u"]).result = .ok twinFiles := by
  refine generate_eq_ok.2 ⟨rfl, rfl, result_filesOfHosts (by decide) ?_⟩
  have short (scope : Text) : (twin scope).IsShort := isShort_slotHost.2 (List.forall_mem_nil _)
  simp [short]

/-- All four of them are written. -/
lemma writeFiles_twins :
    (writeFiles sampleOut twinFiles (.start sampleDisk)).1.result =
      .ok ((documentNames "h" ++ documentNames "h").map sampleOut.child) := by
  decide +kernel

/-- The sample has no link with a name of theirs. -/
lemma noLink_twins : ∀ f ∈ twinFiles, sampleDisk.NoLinkNamed f.name ∧ sampleDisk.NoLinkNamed (tempName f.name) := by
  intro f hf
  obtain ⟨host, hhost, hname⟩ := exists_host_of_generate generate_twins hf
  have same : host.name = "h" := by
    simp only [List.mem_cons, List.not_mem_nil, or_false] at hhost
    rcases hhost with rfl | rfl <;> rfl
  rw [same] at hname
  exact noLinkAmongDocuments_sample _ List.mem_cons_self _ hname

/-- The two basic grammars differ. -/
lemma render_twins_ne :
    (Grammar.basicOf (twin "t") sampleTables.languages).render ≠
      (Grammar.basicOf (twin "u") sampleTables.languages).render := by
  intro h
  have documents := Grammar.document_eq_of_render h
  simp only [Grammar.Basic.document, Value.ofFields, List.map_cons, Value.map.injEq, List.cons.injEq] at documents
  have selectors : Grammar.basicSelector [Text.ofString "t"] = Grammar.basicSelector [Text.ofString "u"] :=
    Value.str.inj (Prod.mk.inj documents.2.1).2
  exact absurd selectors (by decide)

/-- Two hosts with one name pass all checks. Their documents have repeated names, and when all are written the grammar
of the first host is lost. -/
theorem last_of_two_hosts_with_one_name_is_in_place :
    (generate sampleTables.languages [twin "t", twin "u"]).result = .ok twinFiles ∧
      ¬(twinFiles.map (·.name)).Nodup ∧
      ∃ s' q, Ends (writeFiles sampleOut twinFiles) (.start sampleDisk)
          (.ok ((documentNames "h" ++ documentNames "h").map sampleOut.child)) s' ∧
        s'.disk.LeadsTo sampleOut q ∧
        Settled s'.disk q ⟨grammarFile "h", (Grammar.basicOf (twin "u") sampleTables.languages).render⟩ ∧
        ¬Settled s'.disk q ⟨grammarFile "h", (Grammar.basicOf (twin "t") sampleTables.languages).render⟩ := by
  obtain ⟨nodup, written⟩ := last_document_of_a_name_is_in_place generate_twins
  obtain ⟨q, hq, last, alone, -⟩ := written sampleOut _ _ _ ⟨writeFiles_twins, rfl⟩ noLink_twins
  have second := last (documentsOf sampleTables.languages (twin "t")) _ _ rfl
    (by simp [grammarFile_ne_reinjectionFile])
  refine ⟨generate_twins, fun h => ?_, _, q, ⟨writeFiles_twins, rfl⟩, hq, second, fun first => ?_⟩
  · exact absurd (nodup.1 h) (by decide)
  · have same := alone _ (.head _) _ (.tail _ (.tail _ (.head _))) first second rfl
    exact render_twins_ne (congrArg GeneratedFile.text same)

end Sample

end TaggedGrammar.Output
