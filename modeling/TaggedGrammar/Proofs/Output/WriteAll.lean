import TaggedGrammar.Output.Update
import TaggedGrammar.Proofs.Output.Write

/-!
# What the writing of all documents does

The documents are written one after the other into one directory. None of them disturbs another one if their
names, and those of the files beside them, are all different: `Apart`. `WritesAll` puts the ways in which the
single writings end together, and `ends_writeFiles` says that every writing of documents ends so.
-/

namespace TaggedGrammar.Output

open Files Files.Disk Run

/-- Two documents that can be written into one directory. -/
structure Apart (f g : GeneratedFile) : Prop where
  names : f.name ≠ g.name
  left : f.name ≠ tempName g.name
  right : tempName f.name ≠ g.name

/-- Documents that are apart are so both ways. -/
lemma Apart.symm {f g} (h : Apart f g) : Apart g f :=
  ⟨h.names.symm, h.right.symm, h.left.symm⟩

/-- The files beside them are apart as well. -/
lemma Apart.temps {f g} (h : Apart f g) : tempName f.name ≠ tempName g.name :=
  fun heq => h.names (List.append_cancel_right heq)

/-- The directory at `q` holds a document and no file beside it. -/
structure Settled (d : Disk) (q : Place) (f : GeneratedFile) : Prop where
  held : ∃ content, f.text.bytes? = some content ∧ d.get (f.name :: q) = some (.file content)
  alone : d.get (tempName f.name :: q) = none

section

variable {d d' : Disk} {p : Files.Path} {q : Place} {f g : GeneratedFile} {res : Except Fault Unit}

/-- A writing leaves all but the document and the file beside it alone. -/
lemma Writes.elsewhere {r} (h : Writes d p q f.name f.text res d') (hn : r ≠ f.name :: q)
    (ht : r ≠ tempName f.name :: q) : d'.get r = d.get r := by
  cases h with
  | placed _ _ _ h₁ h₂ => rw [h₂.elsewhere hn, h₁.elsewhere ht]
  | blocked _ _ _ h₁ => exact h₁.elsewhere ht
  | unwritable _ _ h₁ => exact h₁.elsewhere ht
  | obstructed _ => rfl

/-- A writing that fails leaves all but the file beside the document alone. -/
lemma Writes.elsewhere_of_error {fault r} (h : Writes d p q f.name f.text (.error fault) d')
    (ht : r ≠ tempName f.name :: q) : d'.get r = d.get r := by
  cases h with
  | blocked _ _ _ h₁ => exact h₁.elsewhere ht
  | unwritable _ _ h₁ => exact h₁.elsewhere ht
  | obstructed _ => rfl

/-- A document that is written keeps all ways. -/
lemma Writes.keeps (h : Writes d p q f.name f.text res d') (ready : Ready d p f.name) : Keeps d d' := by
  cases h with
  | placed _ hfree hd h₁ h₂ =>
    have hne : f.name :: q ≠ tempName f.name :: q := fun h => tempName_ne f.name (List.cons.inj h).1.symm
    have keeps₁ := h₁.keeps hfree (ready.beside.noLink q) (by simp)
    have hd₁ := h₁.elsewhere hne ▸ hd
    exact keeps₁.trans (h₂.keeps hd₁ (ready.own.noLink.keeps keeps₁ q) (by simp))
  | blocked _ hfree _ h₁ => exact h₁.keeps hfree (ready.beside.noLink q) (by simp)
  | unwritable _ hfree h₁ => exact h₁.keeps hfree (ready.beside.noLink q) (by simp)
  | obstructed _ => exact Keeps.refl _

/-- A document that was written is settled. -/
lemma Writes.settled (h : Writes d p q f.name f.text (.ok ()) d') : Settled d' q f := by
  cases h with
  | placed hb _ _ h₁ h₂ =>
    refine ⟨⟨_, hb, h₂.at⟩, ?_⟩
    rw [h₂.elsewhere fun h => tempName_ne f.name (List.cons.inj h).1, h₁.at]

/-- A document stays as it is when another one is written. -/
lemma Settled.writes (h : Settled d q g) (w : Writes d p q f.name f.text res d') (apart : Apart f g) :
    Settled d' q g := by
  obtain ⟨⟨content, hb, hg⟩, ht⟩ := h
  refine ⟨⟨content, hb, ?_⟩, ?_⟩
  · rw [w.elsewhere (by simp [apart.names.symm]) (by simp [apart.right.symm]), hg]
  · rw [w.elsewhere (by simp [apart.left.symm]) (by simp [apart.temps.symm]), ht]

/-- Writing a document that is there succeeds and changes nothing. -/
lemma Writes.of_settled (h : Writes d p q f.name f.text res d') (settled : Settled d q f) :
    res = .ok () ∧ Agrees d d' := by
  obtain ⟨⟨content, hb, hg⟩, ht⟩ := settled
  cases h with
  | placed hb' _ _ h₁ h₂ =>
    cases hb.symm.trans hb'
    refine ⟨rfl, h₂.here.trans h₁.here, fun r => ?_⟩
    rw [h₂.get, h₁.get]
    split
    · simp_all
    · split
      · simp_all
      · rfl
  | blocked _ _ hd _ => cases hg.symm.trans hd
  | unwritable hb' _ _ => cases hb.symm.trans hb'
  | obstructed hd => cases ht.symm.trans hd

/-- A settled document is settled on a disk with the same entries. -/
lemma Settled.agrees (h : Settled d q f) (same : Agrees d d') : Settled d' q f := by
  obtain ⟨⟨content, hb, hg⟩, ht⟩ := h
  exact ⟨⟨content, hb, (same.get _).trans hg⟩, (same.get _).trans ht⟩

end

/-- How the writing of documents into the directory at `q` can end: all are written, or it ends at the first one that is
not. -/
inductive WritesAll (p : Files.Path) (q : Place) :
    Disk → List GeneratedFile → Except Fault (List Files.Path) → Disk → Prop where
  | nil {d} :
    WritesAll p q d [] (.ok []) d
  | cons {d d₁ d' f rest paths} :
    Writes d p q f.name f.text (.ok ()) d₁ →
    WritesAll p q d₁ rest (.ok paths) d' →
    WritesAll p q d (f :: rest) (.ok (p.child f.name :: paths)) d'
  | later {d d₁ d' f rest fault} :
    Writes d p q f.name f.text (.ok ()) d₁ →
    WritesAll p q d₁ rest (.error fault) d' →
    WritesAll p q d (f :: rest) (.error fault) d'
  | stop {d d' f rest fault} :
    Writes d p q f.name f.text (.error fault) d' →
    WritesAll p q d (f :: rest) (.error fault) d'

section

variable {p : Files.Path} {q : Place} {files : List GeneratedFile} {s s₁ s' : Session}

/-- A document is written, and then the others; the first fault is the end. -/
lemma ends_writeFiles_cons {f rest res} :
    Ends (writeFiles p (f :: rest)) s res s' ↔
      (∃ fault, Ends (writeDocument (p.child f.name) f.text) s (.error fault) s' ∧ res = .error fault) ∨
      (∃ s₂, Ends (writeDocument (p.child f.name) f.text) s (.ok ()) s₂ ∧
        ((∃ paths, Ends (writeFiles p rest) s₂ (.ok paths) s' ∧ res = .ok (p.child f.name :: paths)) ∨
          ∃ fault, Ends (writeFiles p rest) s₂ (.error fault) s' ∧ res = .error fault)) := by
  rw [writeFiles, ends_bind]
  simp only [ends_bind, ends_pure]
  constructor
  · rintro (⟨⟨⟩, s₂, h₁, ⟨paths, s₃, h₂, rfl, rfl⟩ | h₂⟩ | h₁)
    · exact .inr ⟨s₂, h₁, .inl ⟨paths, h₂, rfl⟩⟩
    · exact .inr ⟨s₂, h₁, .inr h₂⟩
    · exact .inl h₁
  · rintro (h₁ | ⟨s₂, h₁, ⟨paths, h₂, rfl⟩ | h₂⟩)
    · exact .inr h₁
    · exact .inl ⟨(), s₂, h₁, .inl ⟨paths, s', h₂, rfl, rfl⟩⟩
    · exact .inl ⟨(), s₂, h₁, .inr h₂⟩

/-- Documents are written one after the other once their directory has been made. -/
lemma ends_writeFiles {res} (h : Ends (writeFiles p files) s res s') (hne : files ≠ [])
    (made : Ends (makeDirectories p) s (.ok ()) s₁) (hq : s₁.disk.LeadsTo p q)
    (ready : ∀ f ∈ files, Ready s₁.disk p f.name) :
    s'.memory = s₁.memory ∧ WritesAll p q s₁.disk files res s'.disk := by
  induction files generalizing s s₁ res with
  | nil => exact absurd rfl hne
  | cons f rest ih =>
    obtain ⟨ready_f, ready_rest⟩ := List.forall_mem_cons.1 ready
    have written {x s₂} (h : Ends (writeDocument (p.child f.name) f.text) s x s₂) :=
      ends_writeDocument h made hq ready_f
    rcases ends_writeFiles_cons.1 h with ⟨fault, h₁, rfl⟩ | ⟨s₂, h₁, h₂⟩
    · obtain ⟨hm, w⟩ := written h₁
      exact ⟨hm, .stop w⟩
    · obtain ⟨hm, w⟩ := written h₁
      -- from here on the directory is there
      have others {x} (h₂ : Ends (writeFiles p rest) s₂ x s') :
          s'.memory = s₂.memory ∧ WritesAll p q s₂.disk rest x s'.disk := by
        by_cases hrest : rest = []
        · subst hrest
          obtain ⟨rfl, rfl⟩ := ends_pure.1 h₂
          exact ⟨rfl, .nil⟩
        · have keeps := w.keeps ready_f
          have hq₂ := hq.mono keeps
          refine ih h₂ hrest (makeDirectories_of_leadsTo ready_f.own.fits.of_child hq₂) hq₂ ?_
          exact fun g hg => (ready_rest g hg).keeps keeps
      rcases h₂ with ⟨paths, h₂, rfl⟩ | ⟨fault, h₂, rfl⟩
      · obtain ⟨hm₂, all⟩ := others h₂
        exact ⟨hm₂.trans hm, .cons w all⟩
      · obtain ⟨hm₂, all⟩ := others h₂
        exact ⟨hm₂.trans hm, .later w all⟩

/-- Documents that were all written had a directory to be written into, and names that could be used. -/
lemma ready_of_writeFiles {paths} (h : Ends (writeFiles p files) s (.ok paths) s') (hne : files ≠ [])
    (plain : ∀ f ∈ files, IsPlain f.name)
    (noLink : ∀ f ∈ files, s.disk.NoLinkNamed f.name ∧ s.disk.NoLinkNamed (tempName f.name)) :
    ∃ s₁ q, Ends (makeDirectories p) s (.ok ()) s₁ ∧ s₁.disk.LeadsTo p q ∧
      ∀ f ∈ files, Ready s₁.disk p f.name := by
  induction files generalizing s paths with
  | nil => exact absurd rfl hne
  | cons f rest ih =>
    obtain ⟨plain_f, plain_rest⟩ := List.forall_mem_cons.1 plain
    obtain ⟨noLink_f, noLink_rest⟩ := List.forall_mem_cons.1 noLink
    rcases ends_writeFiles_cons.1 h with ⟨fault, -, hf⟩ | ⟨s₂, h₁, ⟨paths', h₂, -⟩ | ⟨fault, -, hf⟩⟩
    · cases hf
    · obtain ⟨s₁, q, made, hq, ready_f⟩ := of_writeDocument h₁ plain_f noLink_f.1 noLink_f.2
      obtain ⟨-, w⟩ := ends_writeDocument h₁ made hq ready_f
      have keeps₁ := (ends_makeDirectories made).grows.keeps
      have keeps₂ := keeps₁.trans (w.keeps ready_f)
      refine ⟨s₁, q, made, hq, List.forall_mem_cons.2 ⟨ready_f, fun g hg => ?_⟩⟩
      have noLink₂ : ∀ g ∈ rest, s₂.disk.NoLinkNamed g.name ∧ s₂.disk.NoLinkNamed (tempName g.name) :=
        fun g hg => (noLink_rest g hg).imp (·.keeps keeps₂) (·.keeps keeps₂)
      obtain ⟨_, _, -, -, ready_rest⟩ := ih h₂ (List.ne_nil_of_mem hg) plain_rest noLink₂
      -- what is to be known of a name does not depend on the disk, links apart
      have ready_g := ready_rest g hg
      have noLink_g := noLink_rest g hg
      exact ⟨⟨ready_g.own.toNameable, noLink_g.1.keeps keeps₁⟩, ready_g.beside.toNameable,
        noLink_g.2.keeps keeps₁⟩
    · cases hf

end

section

variable {p : Files.Path} {q : Place} {files : List GeneratedFile} {d d' : Disk}
  {res : Except Fault (List Files.Path)}

/-- The documents and the files beside them are all that changes. -/
lemma WritesAll.elsewhere {r} (h : WritesAll p q d files res d')
    (hr : ∀ f ∈ files, r ≠ f.name :: q ∧ r ≠ tempName f.name :: q) : d'.get r = d.get r := by
  induction h with
  | nil => rfl
  | cons w _ ih | later w _ ih =>
    rw [ih fun f hf => hr f (by simp [hf]), w.elsewhere (hr _ (by simp)).1 (hr _ (by simp)).2]
  | stop w => exact w.elsewhere (hr _ (by simp)).1 (hr _ (by simp)).2

/-- Documents that are written keep all ways. -/
lemma WritesAll.keeps (h : WritesAll p q d files res d') (ready : ∀ f ∈ files, Ready d p f.name) :
    Keeps d d' := by
  induction h with
  | nil => exact Keeps.refl _
  | cons w _ ih | later w _ ih =>
    obtain ⟨ready_f, ready_rest⟩ := List.forall_mem_cons.1 ready
    have keeps := w.keeps ready_f
    exact keeps.trans (ih fun g hg => (ready_rest g hg).keeps keeps)
  | stop w => exact w.keeps (ready _ (by simp))

/-- A settled document stays settled while others are written. -/
lemma Settled.writesAll {g} (h : Settled d q g) (all : WritesAll p q d files res d')
    (apart : ∀ f ∈ files, Apart f g) : Settled d' q g := by
  induction all with
  | nil => exact h
  | cons w _ ih | later w _ ih => exact ih (h.writes w (apart _ (by simp))) fun f hf => apart f (by simp [hf])
  | stop w => exact h.writes w (apart _ (by simp))

/-- What documents have become when their writing ends: those in front are there, and the first one that is not,
if there is one, is where it ended. -/
lemma WritesAll.split (h : WritesAll p q d files res d') (apart : files.Pairwise Apart) :
    (res = .ok (files.map (p.child ·.name)) ∧ ∀ f ∈ files, Settled d' q f) ∨
      ∃ done f rest fault d₁, files = done ++ f :: rest ∧ res = .error fault ∧ (∀ g ∈ done, Settled d' q g) ∧
        WritesAll p q d done (.ok (done.map (p.child ·.name))) d₁ ∧
        Writes d₁ p q f.name f.text (.error fault) d' := by
  induction h with
  | nil => exact .inl ⟨rfl, by simp⟩
  | @cons d d₁ d' f rest paths w all ih =>
    obtain ⟨apart_f, apart_rest⟩ := List.pairwise_cons.1 apart
    have settled : Settled d' q f := w.settled.writesAll all fun g hg => (apart_f g hg).symm
    rcases ih apart_rest with ⟨hres, settled_rest⟩ | ⟨_, _, _, _, _, _, hres, _⟩
    · cases hres
      exact .inl ⟨rfl, by simpa using ⟨settled, settled_rest⟩⟩
    · cases hres
  | @later d d₁ d' f rest fault w all ih =>
    obtain ⟨apart_f, apart_rest⟩ := List.pairwise_cons.1 apart
    have settled : Settled d' q f := w.settled.writesAll all fun g hg => (apart_f g hg).symm
    rcases ih apart_rest with ⟨hres, _⟩ | ⟨done, g, rest, fault, d₂, rfl, hres, settled_done, all_done, failed⟩
    · cases hres
    · refine .inr ⟨f :: done, g, rest, fault, d₂, rfl, hres, ?_, .cons w all_done, failed⟩
      simpa using ⟨settled, settled_done⟩
  | @stop d d' f rest fault w => exact .inr ⟨[], f, rest, fault, d, rfl, rfl, by simp, .nil, w⟩

/-- Settled documents are written again, and that changes nothing. -/
lemma WritesAll.of_settled (h : WritesAll p q d files res d') (settled : ∀ f ∈ files, Settled d q f) :
    res = .ok (files.map (p.child ·.name)) ∧ Agrees d d' := by
  induction h with
  | nil => exact ⟨rfl, Agrees.refl _⟩
  | cons w _ ih =>
    obtain ⟨-, same⟩ := w.of_settled (settled _ (by simp))
    obtain ⟨hres, same'⟩ := ih fun f hf => (settled f (by simp [hf])).agrees same
    cases hres
    exact ⟨rfl, same.trans same'⟩
  | later w _ ih =>
    obtain ⟨-, same⟩ := w.of_settled (settled _ (by simp))
    cases (ih fun f hf => (settled f (by simp [hf])).agrees same).1
  | stop w => cases (w.of_settled (settled _ (by simp))).1

end

end TaggedGrammar.Output
