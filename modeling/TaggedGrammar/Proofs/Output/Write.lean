import TaggedGrammar.Proofs.Output.Completion

/-!
# What the writing of one document does

`Writes` lists all that can happen once there is a directory to write into: the document takes its place; or a
directory is in its place, and then nothing but the file beside it has changed; or the document has no bytes,
and then the file beside it is left, empty; or a directory is where that file should be, and then nothing has
changed. `ends_writeDocument` says that a writing ends in one of these ways.
-/

namespace TaggedGrammar.Output

open Files Files.Disk Run

/-- The names of a document and of the file beside it can be used in a directory. -/
structure Ready (d : Disk) (p : Files.Path) (name : Text) : Prop where
  own : d.Reachable p name
  beside : d.Reachable p (tempName name)

/-- A document that could be written still can where ways are kept. -/
lemma Ready.keeps {d d' p name} (h : Ready d p name) (hk : Keeps d d') : Ready d' p name :=
  ⟨h.own.keeps hk, h.beside.keeps hk⟩

/-- How the writing of a document into the directory at `q` can end. -/
inductive Writes (d : Disk) (directory : Files.Path) (q : Place) (name text : Text) :
    Except Fault Unit → Disk → Prop where
  /-- The document is in its place. -/
  | placed {d₁ d' content} :
    text.bytes? = some content →
    d.get (tempName name :: q) ≠ some .directory →
    d.get (name :: q) ≠ some .directory →
    Sets d (tempName name :: q) none d₁ →
    Sets d₁ (name :: q) (some (.file content)) d' →
    Writes d directory q name text (.ok ()) d'
  /-- A directory is in its place. -/
  | blocked {d' content cause} :
    text.bytes? = some content →
    d.get (tempName name :: q) ≠ some .directory →
    d.get (name :: q) = some .directory →
    Sets d (tempName name :: q) none d' →
    Writes d directory q name text (.error (.writeFailed (directory.child name).text cause)) d'
  /-- The document has no bytes. -/
  | unwritable {d'} :
    text.bytes? = none →
    d.get (tempName name :: q) ≠ some .directory →
    Sets d (tempName name :: q) (some (.file .empty)) d' →
    Writes d directory q name text (.error .notEncodable) d'
  /-- A directory is beside its place. -/
  | obstructed {cause} :
    d.get (tempName name :: q) = some .directory →
    Writes d directory q name text (.error (.file cause)) d

section

variable {d d' : Disk} {p : Files.Path} {q : Place} {name text : Text} {s s₁ s' : Session}

/-- Where no link has the names, a writing ends in the directory. -/
lemma Ready.writes {res} (ready : Ready d p name) (hq : d.LeadsTo p q)
    (h : Completes d (p.child name) (p.child (tempName name)) text res d') : Writes d p q name text res d' := by
  have own := @Reachable.locate d p q name .keep ready.own hq
  have beside {e : Ending} := @Reachable.locate d p q _ e ready.beside hq
  cases h with
  | noDirectory hno =>
    rw [parent_child] at hno
    exact absurd hq (hno q)
  | moved hb opened located hx target hy _ saved hget erased put =>
    obtain ⟨x, opening, -⟩ := opened
    cases beside.symm.trans opening
    cases beside.symm.trans located
    cases own.symm.trans target
    cases saved.at.symm.trans hget
    exact .placed hb hx hy (saved.trans erased) put
  | blocked hb opened located hx target saved erased =>
    obtain ⟨x, opening, -⟩ := opened
    cases beside.symm.trans opening
    cases beside.symm.trans located
    refine .blocked hb hx ?_ (saved.trans erased)
    exact (Spot.mk.inj (Except.ok.inj (own.symm.trans target))).2
  | unwritable hb opened saved =>
    obtain ⟨x, opening, hx⟩ := opened
    cases beside.symm.trans opening
    exact .unwritable hb (free_iff.1 hx).1 saved
  | unopened located =>
    have hlink := (Spot.mk.inj (Except.ok.inj (beside.symm.trans located))).2
    exact absurd hlink (ready.beside.noLink q _)
  | obstructed located => exact .obstructed (Spot.mk.inj (Except.ok.inj (beside.symm.trans located))).2
  | unseen failed => simp [find, beside] at failed

/-- Once the directory of a document is there, its writing ends in one of four ways. -/
lemma ends_writeDocument {res} (h : Ends (writeDocument (p.child name) text) s res s')
    (made : Ends (makeDirectories p) s (.ok ()) s₁) (hq : s₁.disk.LeadsTo p q)
    (ready : Ready s₁.disk p name) :
    s'.memory = s₁.memory ∧ Writes s₁.disk p q name text res s'.disk := by
  have made' : Ends (makeDirectories (p.child name).parent) s (.ok ()) s₁ := by rwa [parent_child]
  obtain ⟨hm, completed⟩ := completes_writeDocument h (temporary?_child p name) ready.own.fits.letters made'
  exact ⟨hm, ready.writes hq completed⟩

/-- There is nothing to clean up where nothing is. -/
lemma ends_cleanUp_of_absent {r : Files.Path} (h : s.disk.isThere r = .ok false) :
    Ends (cleanUp r) s (.ok ()) s :=
  Ends.bind (ends_inspect.2 ⟨h.symm, rfl⟩) (ends_pure.2 ⟨rfl, rfl⟩)

/-- Without a directory a document is not written, and nothing but directories has been made. -/
lemma ends_writeDocument_of_noDirectory {cause : Failure} {res}
    (h : Ends (writeDocument (p.child name) text) s res s')
    (made : Ends (makeDirectories p) s (.error (.file cause)) s₁)
    (absent : s₁.disk.isThere (p.child (tempName name)) = .ok false) :
    res = .error (.writeFailed (p.child name).text cause) ∧ s' = s₁ := by
  have tried : Ends (place (p.child (tempName name)) (p.child name) text) s (.error (.file cause)) s₁ := by
    unfold place
    rw [parent_child]
    exact Ends.bind_error made
  have failed : Ends (writeDocument (p.child name) text) s
      (.error (.writeFailed (p.child name).text cause)) s₁ := by
    unfold writeDocument
    simp only [temporary?_child]
    refine ends_attempt_bind.2 ⟨_, s₁, tried, ?_⟩
    exact Ends.bind (ends_cleanUp_of_absent absent) (ends_fail.2 ⟨rfl, rfl⟩)
  exact h.unique failed

/-- A document that was written had a directory to be written into, and names that could be used. -/
lemma of_writeDocument (h : Ends (writeDocument (p.child name) text) s (.ok ()) s') (hn : IsPlain name)
    (hl : s.disk.NoLinkNamed name) (hlt : s.disk.NoLinkNamed (tempName name)) :
    ∃ s₁ q, Ends (makeDirectories p) s (.ok ()) s₁ ∧ s₁.disk.LeadsTo p q ∧ Ready s₁.disk p name := by
  unfold writeDocument at h
  simp only [temporary?_child] at h
  obtain ⟨x, s₃, tried, hrest⟩ := ends_attempt_bind.1 h
  cases x with
  | error f =>
    cases f with
    | file cause =>
      obtain ⟨_, _, -, hfail⟩ := ends_bind_ok.1 hrest
      cases (ends_fail.1 hfail).1
    | _ => cases (ends_fail.1 hrest).1
  | ok _ =>
    unfold place at tried
    rw [parent_child] at tried
    obtain ⟨_, s₁, made, hrest₁⟩ := ends_bind_ok.1 tried
    obtain ⟨_, s₂, saved, moved⟩ := ends_bind_ok.1 hrest₁
    have grown := (ends_makeDirectories made).grows
    cases hb : text.bytes? with
    | none =>
      simp only [save, hb] at saved
      obtain ⟨_, _, -, hfail⟩ := ends_bind_ok.1 saved
      cases (ends_fail.1 hfail).1
    | some content =>
      simp only [save, hb] at saved
      rcases ends_change.1 saved with ⟨d₂, hd₂, -, rfl⟩ | ⟨f, -, hf, -⟩
      · obtain ⟨ht, q, hq, hdir, beside⟩ :=
          of_saveAt_child hd₂ (isPlain_tempName name) (hlt.keeps grown.keeps)
        rcases ends_change.1 moved with ⟨d₃, hd₃, -, -⟩ | ⟨f, -, hf, -⟩
        · have hl₁ := hl.keeps grown.keeps
          have keeps := beside.keeps hdir (ht.noLink q) (by simp)
          obtain ⟨reach, -⟩ :=
            of_move_child hd₃ (isPlain_tempName name) (ht.keeps keeps).noLink hn (hl₁.keeps keeps)
          exact ⟨s₁, q, made, hq, ⟨reach.toNameable, hl₁⟩, ht⟩
        · cases hf
      · cases hf

end

end TaggedGrammar.Output
