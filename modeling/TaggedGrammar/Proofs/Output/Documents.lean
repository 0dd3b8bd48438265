import TaggedGrammar.Proofs.Grammar.Document
import TaggedGrammar.Proofs.Json.Letters
import TaggedGrammar.Proofs.Outcomes
import TaggedGrammar.Proofs.Output.WriteAll
import TaggedGrammar.Proofs.Table.Check

/-!
# The documents of a run

The names of the documents of all hosts, which are different if the hosts have different names, and what all
their texts have in common.
-/

namespace TaggedGrammar

open Files Output

/-- The names of a host's documents. -/
def documentNames (host : Text) : List Text :=
  [grammarFile host, reinjectionFile host]

section Names

/-- The ending of every document's name. -/
def documentEnding : Text := ".json"

/-- The name of a basic grammar tells its host. -/
lemma grammarFile_injective {a b : Text} (h : grammarFile a = grammarFile b) : a = b :=
  List.append_cancel_left (List.append_cancel_right h)

/-- The name of a reinjection grammar tells its host. -/
lemma reinjectionFile_injective {a b : Text} (h : reinjectionFile a = reinjectionFile b) : a = b :=
  List.append_cancel_left (List.append_cancel_right h)

/-- No basic grammar has the name of a reinjection grammar. -/
lemma grammarFile_ne_reinjectionFile (a b : Text) : grammarFile a ≠ reinjectionFile b := by
  intro h
  have hfirst := congrArg List.head? h
  revert hfirst
  simp [grammarFile, reinjectionFile, Text.ofString, Text.ofChars]

/-- Different hosts share no document name. -/
lemma documentNames_disjoint {a b : Text} (h : a ≠ b) : (documentNames a).Disjoint (documentNames b) := by
  intro name ha hb
  simp only [documentNames, List.mem_cons, List.not_mem_nil, or_false] at ha hb
  rcases ha with rfl | rfl <;> rcases hb with hb | hb
  · exact h (grammarFile_injective hb)
  · exact grammarFile_ne_reinjectionFile a b hb
  · exact grammarFile_ne_reinjectionFile b a hb.symm
  · exact h (reinjectionFile_injective hb)

/-- The two documents of a host have different names. -/
lemma documentNames_nodup (a : Text) : (documentNames a).Nodup := by
  simp [documentNames, grammarFile_ne_reinjectionFile]

/-- Every document's name has the ending, and something in front of it. -/
lemma exists_append_documentEnding {host name : Text} (h : name ∈ documentNames host) :
    ∃ front, name = front ++ documentEnding := by
  simp only [documentNames, List.mem_cons, List.not_mem_nil, or_false] at h
  rcases h with rfl | rfl
  · exact ⟨_, rfl⟩
  · exact ⟨_, rfl⟩

/-- What ends as a document does is the name of an entry. -/
lemma isPlain_append_documentEnding (front : Text) : IsPlain (front ++ documentEnding) := by
  have hlength : 5 ≤ (front ++ documentEnding).length := by
    simp [documentEnding, Text.ofString, Text.ofChars]
  constructor <;> intro h <;> rw [h] at hlength <;> revert hlength <;> decide

/-- A document and the file beside another one have different names. -/
lemma append_documentEnding_ne_tempName (front name : Text) : front ++ documentEnding ≠ tempName name := by
  intro h
  have hlast := congrArg List.getLast? h
  revert hlast
  simp [tempName, Files.Path.temporaryEnding, documentEnding, Text.ofString, Text.ofChars]

/-- Documents have different names if and only if their hosts do. -/
lemma nodup_documentNames {hosts : List Text} : (hosts.flatMap documentNames).Nodup ↔ hosts.Nodup := by
  rw [List.nodup_flatMap]
  constructor
  · intro h
    refine h.2.imp fun {a b} disjoint heq => ?_
    subst heq
    exact disjoint (List.mem_cons_self : grammarFile a ∈ documentNames a) List.mem_cons_self
  · intro h
    exact ⟨fun a _ => documentNames_nodup a, h.imp fun hne => documentNames_disjoint hne⟩

/-- Two documents with different names can be written into one directory. -/
lemma apart_of_ne {files : List GeneratedFile} {hosts : List Text}
    (hnames : files.map (·.name) = hosts.flatMap documentNames) {f g : GeneratedFile} (hf : f ∈ files) (hg : g ∈ files)
    (hne : f.name ≠ g.name) : Apart f g := by
  have ending : ∀ f ∈ files, ∃ front, f.name = front ++ documentEnding := by
    intro f hf
    have hmem : f.name ∈ hosts.flatMap documentNames := hnames ▸ List.mem_map.2 ⟨f, hf, rfl⟩
    obtain ⟨host, -, hname⟩ := List.mem_flatMap.1 hmem
    exact exists_append_documentEnding hname
  obtain ⟨a, ha⟩ := ending f hf
  obtain ⟨b, hb⟩ := ending g hg
  exact ⟨hne, ha ▸ append_documentEnding_ne_tempName a _, hb ▸ (append_documentEnding_ne_tempName b _).symm⟩

/-- The documents of hosts with different names do not get in each other's way. -/
lemma pairwise_apart {files : List GeneratedFile} {hosts : List Text}
    (hnames : files.map (·.name) = hosts.flatMap documentNames) (nodup : hosts.Nodup) :
    files.Pairwise Apart := by
  have different : (files.map (·.name)).Nodup := hnames ▸ nodup_documentNames.2 nodup
  exact (List.pairwise_map.1 different).imp_of_mem fun hf hg hne => apart_of_ne hnames hf hg hne

end Names

variable {languages : List Language} {hosts : List Host} {files : List GeneratedFile}

/-- The documents of a host are there exactly if its basic grammar is built. -/
lemma hostFiles_eq_ok {host : Host} :
    (hostFiles host languages).result = .ok files ↔
      ∃ basic, (Grammar.buildBasic host languages).result = .ok basic ∧
        files = [⟨grammarFile host.name, basic.render⟩,
          ⟨reinjectionFile host.name, (Grammar.reinjection host languages).render⟩] := by
  simp only [hostFiles, Outcome.result_bind_eq_ok, Outcome.result_pure, Except.ok.injEq]
  simp only [eq_comm]

/-- The documents of a host for languages with different names, if its group numbers can be displayed. -/
def documentsOf (languages : List Language) (host : Host) : List GeneratedFile :=
  [⟨grammarFile host.name, (Grammar.basicOf host languages).render⟩,
    ⟨reinjectionFile host.name, (Grammar.reinjection host languages).render⟩]

/-- The documents of a host are built if its group numbers can be displayed. -/
lemma result_hostFiles {host : Host} (nodup : (languages.map Language.name).Nodup) (short : host.IsShort) :
    (hostFiles host languages).result = .ok (documentsOf languages host) :=
  hostFiles_eq_ok.2 ⟨_, Grammar.result_buildBasic nodup short, rfl⟩

/-- The documents of all hosts are built if all their group numbers can be displayed. -/
lemma result_filesOfHosts (nodup : (languages.map Language.name).Nodup) (short : ∀ host ∈ hosts, host.IsShort) :
    (filesOfHosts languages hosts).result = .ok (hosts.flatMap (documentsOf languages)) := by
  induction hosts with
  | nil => rfl
  | cons host rest ih =>
    obtain ⟨first, others⟩ := List.forall_mem_cons.1 short
    rw [filesOfHosts, Outcome.result_bind_of_ok (result_hostFiles nodup first), Outcome.result_bind_of_ok (ih others)]
    rfl

/-- One host with a number that is too long keeps the documents of all hosts from being built. -/
lemma result_filesOfHosts_of_not_isShort (hne : languages ≠ []) (nodup : (languages.map Language.name).Nodup)
    (long : ¬∀ host ∈ hosts, host.IsShort) : (filesOfHosts languages hosts).result = .error .tooManyDigits := by
  induction hosts with
  | nil => exact absurd (List.forall_mem_nil _) long
  | cons host rest ih =>
    rw [filesOfHosts]
    by_cases first : host.IsShort
    · have others : ¬∀ host ∈ rest, host.IsShort := fun short => long (List.forall_mem_cons.2 ⟨first, short⟩)
      rw [Outcome.result_bind_of_ok (result_hostFiles nodup first)]
      exact Outcome.result_bind_eq_error.2 (.inl (ih others))
    · have failed := Grammar.result_buildBasic_of_not_isShort hne nodup first
      have own : (hostFiles host languages).result = .error .tooManyDigits :=
        Outcome.result_bind_eq_error.2 (.inl failed)
      exact Outcome.result_bind_eq_error.2 (.inl own)

/-- The names of all documents are those of the hosts, in their order. -/
lemma names_of_filesOfHosts (h : (filesOfHosts languages hosts).result = .ok files) :
    files.map (·.name) = (hosts.map Host.name).flatMap documentNames := by
  induction hosts generalizing files with
  | nil =>
    cases h
    rfl
  | cons host rest ih =>
    simp only [filesOfHosts, Outcome.result_bind_eq_ok, Outcome.result_pure, Except.ok.injEq] at h
    obtain ⟨own, hown, others, hothers, rfl⟩ := h
    obtain ⟨basic, -, rfl⟩ := hostFiles_eq_ok.1 hown
    simp [documentNames, ih hothers]

/-- Every document is the text of a value. -/
lemma text_of_filesOfHosts (h : (filesOfHosts languages hosts).result = .ok files) :
    ∀ f ∈ files, ∃ v, f.text = Json.document v := by
  induction hosts generalizing files with
  | nil =>
    cases h
    simp
  | cons host rest ih =>
    simp only [filesOfHosts, Outcome.result_bind_eq_ok, Outcome.result_pure, Except.ok.injEq] at h
    obtain ⟨own, hown, others, hothers, rfl⟩ := h
    obtain ⟨basic, -, rfl⟩ := hostFiles_eq_ok.1 hown
    intro f hf
    rcases List.mem_append.1 hf with hf | hf
    · simp only [List.mem_cons, List.not_mem_nil, or_false] at hf
      rcases hf with rfl | rfl
      · exact ⟨_, rfl⟩
      · exact ⟨_, rfl⟩
    · exact ih hothers f hf

/-- Documents are generated exactly if both tables pass their checks and all documents are built. -/
lemma generate_eq_ok :
    (generate languages hosts).result = .ok files ↔
      Table.checkLanguages languages = .ok () ∧ Table.checkHosts hosts = .ok () ∧
        (filesOfHosts languages hosts).result = .ok files := by
  simp [generate, Outcome.result_bind_eq_ok, Table.checked_eq_ok]

/-- All documents of checked tables are built if the group numbers can be displayed. -/
lemma result_generate_of_checked (hlanguages : Table.checkLanguages languages = .ok ())
    (hhosts : Table.checkHosts hosts = .ok ()) (short : ∀ host ∈ hosts, host.IsShort) :
    (generate languages hosts).result = .ok (hosts.flatMap (documentsOf languages)) := by
  have names := (Table.checkLanguages_eq_ok.1 hlanguages).2.2
  exact generate_eq_ok.2 ⟨hlanguages, hhosts, result_filesOfHosts names short⟩

/-- Otherwise none is built, though the checks pass. -/
lemma result_generate_of_not_isShort (hlanguages : Table.checkLanguages languages = .ok ())
    (hhosts : Table.checkHosts hosts = .ok ()) (long : ¬∀ host ∈ hosts, host.IsShort) :
    (generate languages hosts).result = .error .tooManyDigits := by
  obtain ⟨hne, -, names⟩ := Table.checkLanguages_eq_ok.1 hlanguages
  have passed : (Table.checked (.ok ())).result = .ok () := rfl
  rw [generate, hlanguages, hhosts, Outcome.result_bind_of_ok passed, Outcome.result_bind_of_ok passed,
    Outcome.result_after]
  exact result_filesOfHosts_of_not_isShort hne names long

/-- The documents of checked tables are those of their hosts, or there are none. -/
lemma generate_eq_ok_of_checked (hlanguages : Table.checkLanguages languages = .ok ())
    (hhosts : Table.checkHosts hosts = .ok ()) :
    (generate languages hosts).result = .ok files ↔
      (∀ host ∈ hosts, host.IsShort) ∧ files = hosts.flatMap (documentsOf languages) := by
  by_cases short : ∀ host ∈ hosts, host.IsShort
  · rw [result_generate_of_checked hlanguages hhosts short, Except.ok.injEq, eq_comm, and_iff_right short]
  · rw [result_generate_of_not_isShort hlanguages hhosts short]
    exact iff_of_false nofun fun h => short h.1

/-- Some document is always generated. -/
lemma ne_nil_of_generate (h : (generate languages hosts).result = .ok files) : files ≠ [] := by
  obtain ⟨-, hhosts, hfiles⟩ := generate_eq_ok.1 h
  have hnames := names_of_filesOfHosts hfiles
  cases hosts with
  | nil => cases hhosts
  | cons host rest =>
    rintro rfl
    simp [documentNames] at hnames

/-- Every document belongs to a host. -/
lemma exists_host_of_generate (h : (generate languages hosts).result = .ok files) {f : GeneratedFile}
    (hf : f ∈ files) : ∃ host ∈ hosts, f.name ∈ documentNames host.name := by
  have hmem : f.name ∈ files.map (·.name) := List.mem_map.2 ⟨f, hf, rfl⟩
  rw [names_of_filesOfHosts (generate_eq_ok.1 h).2.2] at hmem
  simpa using hmem

/-- Documents have names of entries. -/
lemma isPlain_of_generate (h : (generate languages hosts).result = .ok files) :
    ∀ f ∈ files, IsPlain f.name := by
  intro f hf
  obtain ⟨host, -, hname⟩ := exists_host_of_generate h hf
  obtain ⟨front, heq⟩ := exists_append_documentEnding hname
  rw [heq]
  exact isPlain_append_documentEnding front

/-- No document has a carriage return. -/
lemma return_notMem_of_generate (h : (generate languages hosts).result = .ok files) :
    ∀ f ∈ files, .char '\r' ∉ f.text := by
  intro f hf
  obtain ⟨v, heq⟩ := text_of_filesOfHosts (generate_eq_ok.1 h).2.2 f hf
  rw [heq]
  exact Json.return_notMem_document v

/-- The documents of hosts with different names can be written into one directory. -/
lemma apart_of_generate (h : (generate languages hosts).result = .ok files)
    (nodup : (hosts.map Host.name).Nodup) : files.Pairwise Apart :=
  pairwise_apart (names_of_filesOfHosts (generate_eq_ok.1 h).2.2) nodup

end TaggedGrammar
