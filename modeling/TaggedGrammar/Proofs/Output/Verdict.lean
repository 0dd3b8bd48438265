import TaggedGrammar.Proofs.Output.Check
import TaggedGrammar.Proofs.Output.Failure
import TaggedGrammar.Proofs.Table.Verdict

/-!
# What becomes of documents

A document that an update writes gets into its place, or the user is told that it cannot be written, or a fault escapes.
`Fares` says which of these it is, by what is on the disk once the document's directory has been made. A document that a
check compares is in its place, or it is not, or it cannot be read. Every document fares in one way, and an update and a
check end at the first document that stops them.
-/

namespace TaggedGrammar.Output

open Files Files.Disk Run

/-- The disk once the directory of a path has been made, as far as that can be done. -/
def withDirectory (d : Disk) (p : Files.Path) : Disk :=
  (makeDirectories p (.start d)).2.disk

/-- The disk once a document has been written. -/
def withDocument (d : Disk) (target : Files.Path) (f : GeneratedFile) : Disk :=
  (writeDocument (target.child f.name) f.text (.start d)).2.disk

/-- No file can be opened beside a document, and that is not for the letters of its path. Without a directory the name
of the document is not looked at. -/
structure Unopened (d : Disk) (target : Files.Path) (name : Text) : Prop where
  directory : unfitPath? target = none
  letters : target.Fits → (∃ q, d.LeadsTo target q) → unfitPath? (target.child name) = none
  opens : ∀ r, ¬d.Opens (target.child (tempName name)) r

/-- What comes of writing a document, on the disk `d` with its directory. -/
inductive Fares (d : Disk) (target : Files.Path) (f : GeneratedFile) : Except Halt Unit → Prop where
  | written {r content place x} :
    d.Opens (target.child (tempName f.name)) r →
    f.text.bytes? = some content →
    d.locate .keep (target.child f.name) = .ok ⟨place, x⟩ →
    x ≠ some .directory →
    Fares d target f (.ok ())
  /-- A directory is in the place. -/
  | blocked {r content place} :
    d.Opens (target.child (tempName f.name)) r →
    f.text.bytes? = some content →
    d.locate .keep (target.child f.name) = .ok ⟨place, some .directory⟩ →
    Fares d target f (.error .problem)
  | noBytes {r} :
    d.Opens (target.child (tempName f.name)) r →
    f.text.bytes? = none →
    Fares d target f (.error (.escape .notEncodable))
  | unopened {found} :
    Unopened d target f.name →
    d.find (target.child (tempName f.name)) = .ok found →
    (∀ place, d.locate .keep (target.child (tempName f.name)) ≠ .ok ⟨place, some .directory⟩) →
    Fares d target f (.error .problem)
  /-- Whether there is anything to clean up cannot be found out. -/
  | unseen {fault} :
    Unopened d target f.name →
    d.find (target.child (tempName f.name)) = .error fault →
    Fares d target f (.error (.escape fault))
  /-- What should be cleaned up is a directory. -/
  | obstructed {place} :
    Unopened d target f.name →
    d.locate .keep (target.child (tempName f.name)) = .ok ⟨place, some .directory⟩ →
    Fares d target f (.error (.escape (.file ⟨.isDirectory, (target.child (tempName f.name)).text, none⟩)))
  | unfitDirectory {fault} :
    unfitPath? target = some fault →
    Fares d target f (.error (.escape fault))
  | unfitName {q fault} :
    target.Fits →
    d.LeadsTo target q →
    unfitPath? (target.child f.name) = some fault →
    Fares d target f (.error (.escape fault))

section Document

variable {d : Disk} {target : Files.Path} {f : GeneratedFile} {s s' : Session} {res : Except Fault Unit} {r : Place}

/-- Where a file can be opened beside a document there is a directory. -/
lemma leadsTo_of_opens {p : Files.Path} {name : Text} (h : d.Opens (p.child name) r) :
    p.Fits ∧ (∃ q, d.LeadsTo p q) ∧ unfitPath? (p.child name) = none := by
  obtain ⟨x, located, -⟩ := h
  have fits := (of_locate located).1
  exact ⟨fits.of_child, exists_leadsTo_of_locate located, fits.letters⟩

/-- Every document fares in some way. -/
lemma exists_fares (d : Disk) (target : Files.Path) (f : GeneratedFile) : ∃ v, Fares d target f v := by
  cases htarget : unfitPath? target with
  | some fault => exact ⟨_, .unfitDirectory htarget⟩
  | none =>
  by_cases hopens : ∃ r, d.Opens (target.child (tempName f.name)) r
  · obtain ⟨r, opened⟩ := hopens
    cases hb : f.text.bytes? with
    | none => exact ⟨_, .noBytes opened hb⟩
    | some content =>
      obtain ⟨x, located, -⟩ := id opened
      obtain ⟨q, hq⟩ := exists_leadsTo_of_locate located
      obtain ⟨fits, short⟩ :=
        fits_of_tempName (of_locate located).1 (short_of_locate located (isPlain_tempName f.name))
      obtain ⟨⟨place, y⟩, hplace⟩ := exists_locate_child hq fits short
      by_cases hy : y = some .directory
      · subst hy
        exact ⟨_, .blocked opened hb hplace⟩
      · exact ⟨_, .written opened hb hplace hy⟩
  by_cases hname : target.Fits ∧ (∃ q, d.LeadsTo target q) ∧ unfitPath? (target.child f.name) ≠ none
  · obtain ⟨fits, ⟨q, hq⟩, hunfit⟩ := hname
    obtain ⟨fault, hfault⟩ := Option.ne_none_iff_exists'.1 hunfit
    exact ⟨_, .unfitName fits hq hfault⟩
  have unopened : Unopened d target f.name :=
    ⟨htarget, fun fits led => not_not.1 fun hunfit => hname ⟨fits, led, hunfit⟩, not_exists.1 hopens⟩
  cases hfind : d.find (target.child (tempName f.name)) with
  | error fault => exact ⟨_, .unseen unopened hfind⟩
  | ok found =>
    by_cases hplace : ∃ place, d.locate .keep (target.child (tempName f.name)) = .ok ⟨place, some .directory⟩
    · obtain ⟨place, hplace⟩ := hplace
      exact ⟨_, .obstructed unopened hplace⟩
    · exact ⟨_, .unopened unopened hfind (not_exists.1 hplace)⟩

/-- The directory of a document is made before anything else is done about it. -/
lemma ends_withDirectory (target : Files.Path) (s : Session) :
    ∃ made s₁, Ends (makeDirectories target) s made s₁ ∧ s₁.disk = withDirectory s.disk target :=
  ⟨_, _, ends _ s, (ignoresTables_makeDirectories target).disk s⟩

/-- A document beside which a file can be opened gets into its place, or a directory is there, or it has no bytes. -/
lemma cases_of_opens (h : Ends (writeDocument (target.child f.name) f.text) s res s')
    (opened : (withDirectory s.disk target).Opens (target.child (tempName f.name)) r) :
    (∃ content place x, f.text.bytes? = some content ∧ x ≠ some .directory ∧ res = .ok () ∧
        (withDirectory s.disk target).locate .keep (target.child f.name) = .ok ⟨place, x⟩) ∨
      (∃ content place cause, f.text.bytes? = some content ∧
        res = .error (.writeFailed (target.child f.name).text cause) ∧
        (withDirectory s.disk target).locate .keep (target.child f.name) = .ok ⟨place, some .directory⟩) ∨
      (f.text.bytes? = none ∧ res = .error .notEncodable) := by
  obtain ⟨made, s₁, hmade, disk⟩ := ends_withDirectory target s
  rw [← disk] at opened ⊢
  obtain ⟨-, ⟨q, hq⟩, letters⟩ := leadsTo_of_opens opened
  rw [unfitPath?_tempName] at letters
  rw [← parent_child target f.name] at hmade hq
  obtain ⟨-, completed⟩ := completes_writeDocument h (temporary?_child target f.name) letters hmade
  generalize s'.disk = d' at completed
  cases completed with
  | moved hb _ _ _ located hy => exact .inl ⟨_, _, _, hb, hy, rfl, located⟩
  | blocked hb _ _ _ located => exact .inr (.inl ⟨_, _, _, hb, rfl, located⟩)
  | unwritable hb => exact .inr (.inr ⟨hb, rfl⟩)
  | noDirectory hno => exact absurd hq (hno q)
  | unopened _ hno => exact absurd opened (hno r)
  | obstructed _ hno => exact absurd opened (hno r)
  | unseen _ hno => exact absurd opened (hno r)

/-- Nothing is written to a file that cannot be opened. -/
lemma of_save_of_unopened {temp : Files.Path} {text : Text} (h : Ends (save temp text) s res s')
    (letters : unfitPath? temp = none) (unopened : ∀ r, ¬s.disk.Opens temp r) :
    ∃ cause, res = .error (.file cause) ∧ s' = s := by
  rcases of_save h letters with ⟨r, _, -, opened, -⟩ | ⟨r, -, opened, -⟩ | ⟨-, refused⟩
  · exact absurd opened (unopened r)
  · exact absurd opened (unopened r)
  · exact refused

/-- A document beside which no file can be opened is cleaned up after. -/
lemma tidies_of_unopened (h : Ends (writeDocument (target.child f.name) f.text) s res s')
    (unopened : Unopened (withDirectory s.disk target) target f.name) :
    ∃ cause d', Tidies (withDirectory s.disk target) (target.child f.name) (target.child (tempName f.name)) cause res
      d' := by
  obtain ⟨made, s₁, hmade, disk⟩ := ends_withDirectory target s
  rw [← disk] at unopened ⊢
  have directory := ends_makeDirectories hmade
  unfold writeDocument at h
  simp only [temporary?_child] at h
  obtain ⟨tried, s₂, placed, rest⟩ := ends_attempt_bind.1 h
  unfold place at placed
  rw [parent_child] at placed
  rcases ends_bind.1 placed with ⟨_, s₃, hmade', placed⟩ | ⟨fault, hmade', rfl⟩
  · obtain ⟨rfl, rfl⟩ := hmade.unique hmade'
    obtain ⟨fits, led⟩ := directory.leads rfl
    have letters := (unfitPath?_tempName target f.name).trans (unopened.letters fits led)
    -- nothing was written, so that there is nothing to move either
    rcases ends_bind.1 placed with ⟨_, s₄, saved, -⟩ | ⟨fault, saved, rfl⟩
    · obtain ⟨_, heq, -⟩ := of_save_of_unopened saved letters unopened.opens
      cases heq
    · obtain ⟨cause, heq, rfl⟩ := of_save_of_unopened saved letters unopened.opens
      cases heq
      exact ⟨cause, _, (of_tidy rest).2⟩
  · obtain ⟨rfl, rfl⟩ := hmade.unique hmade'
    obtain ⟨cause, rfl⟩ := directory.cause rfl unopened.directory
    exact ⟨cause, _, (of_tidy rest).2⟩

/-- A document is not written if its path has no fitting letters. -/
lemma ends_of_unfit {fault : Fault} {s₁ : Session} (hfault : fault = .notEncodable ∨ fault = .nullInPath)
    (h : Ends (place (target.child (tempName f.name)) (target.child f.name) f.text) s (.error fault) s₁) :
    Ends (writeDocument (target.child f.name) f.text) s (.error fault) s₁ := by
  unfold writeDocument
  simp only [temporary?_child]
  refine ends_attempt_bind.2 ⟨_, _, h, ?_⟩
  rcases hfault with rfl | rfl <;> exact ends_fail.2 ⟨rfl, rfl⟩

/-- Nothing is written to a path that has no fitting letters. -/
lemma ends_save_of_unfit {p : Files.Path} {text : Text} {fault : Fault} (h : unfitPath? p = some fault) :
    Ends (save p text) s (.error fault) s := by
  have refused (content : ByteArray) : Ends (change (·.saveAt p content)) s (.error fault) s := by
    refine ends_change.2 (.inr ⟨fault, ?_, rfl, rfl⟩)
    rw [saveAt, locate_of_unfit h]
    rfl
  unfold save
  cases text.bytes? with
  | some content => exact refused content
  | none => exact Ends.bind_error (refused .empty)

/-- Letters that no path has are nothing that the user is told about. -/
lemma haltOf_of_unfit {p : Files.Path} {fault : Fault} (h : unfitPath? p = some fault) :
    haltOf fault = .escape fault := by
  rcases unfitPath?_cases h with rfl | rfl <;> rfl

/-- A document is written as it fares. -/
lemma verdict_writeDocument {v : Except Halt Unit} (h : Fares (withDirectory s.disk target) target f v) :
    verdict (writeDocument (target.child f.name) f.text) s = v := by
  obtain ⟨res, s', ended⟩ : ∃ res s', Ends (writeDocument (target.child f.name) f.text) s res s' :=
    ⟨_, _, ends _ s⟩
  cases h with
  | written opened hb located hx =>
    rcases cases_of_opens ended opened with ⟨_, _, _, -, -, rfl, -⟩ | ⟨_, _, _, -, -, located'⟩ | ⟨hnone, -⟩
    · exact ended.verdict_ok
    · cases located.symm.trans located'
      exact absurd rfl hx
    · cases hb.symm.trans hnone
  | blocked opened hb located =>
    rcases cases_of_opens ended opened with ⟨_, _, _, -, hx, -, located'⟩ | ⟨_, _, _, -, rfl, -⟩ | ⟨hnone, -⟩
    · cases located.symm.trans located'
      exact absurd rfl hx
    · exact ended.verdict_error
    · cases hb.symm.trans hnone
  | noBytes opened hnone =>
    rcases cases_of_opens ended opened with ⟨_, _, _, hb, -⟩ | ⟨_, _, _, hb, -⟩ | ⟨-, rfl⟩
    · cases hb.symm.trans hnone
    · cases hb.symm.trans hnone
    · exact ended.verdict_error
  | unopened unopened hfind hno =>
    obtain ⟨cause, d', tidied⟩ := tidies_of_unopened ended unopened
    cases tidied with
    | unseen failed => cases hfind.symm.trans failed
    | absent => exact ended.verdict_error
    | removed => exact ended.verdict_error
    | obstructed located => exact absurd located (hno _)
  | unseen unopened failed =>
    obtain ⟨cause, d', tidied⟩ := tidies_of_unopened ended unopened
    cases tidied with
    | unseen failed' =>
      cases failed.symm.trans failed'
      cases find_eq_error failed
      exact ended.verdict_error
    | absent hfind => cases hfind.symm.trans failed
    | removed _ _ hfind => cases hfind.symm.trans failed
    | obstructed _ hfind => cases hfind.symm.trans failed
  | obstructed unopened located =>
    have found := find_eq_some.2 ⟨_, locate_follow_iff.2 (leadsTo_of_locate located)⟩
    obtain ⟨cause, d', tidied⟩ := tidies_of_unopened ended unopened
    cases tidied with
    | obstructed => exact ended.verdict_error
    | unseen failed => cases found.symm.trans failed
    | absent hnone => cases found.symm.trans hnone
    | removed located' hx =>
      cases located.symm.trans located'
      exact absurd rfl hx
  | unfitDirectory hunfit =>
    rw [← haltOf_of_unfit hunfit]
    have unmade := @ends_makeDirectories_of_unfit target s _ hunfit
    rw [← parent_child target f.name] at unmade
    exact (ends_of_unfit (unfitPath?_cases hunfit) (Ends.bind_error unmade)).verdict_error
  | unfitName fits hq hunfit =>
    rw [← haltOf_of_unfit hunfit]
    obtain ⟨made, s₁, hmade, disk⟩ := ends_withDirectory target s
    have directory := ends_makeDirectories hmade
    cases made with
    | error fault => exact absurd ⟨fits, _, disk ▸ hq⟩ (directory.leadsNot rfl)
    | ok _ =>
      rw [← parent_child target f.name] at hmade
      have unsaved := @ends_save_of_unfit s₁ _ f.text _ ((unfitPath?_tempName target f.name).trans hunfit)
      exact (ends_of_unfit (unfitPath?_cases hunfit) (Ends.bind hmade (Ends.bind_error unsaved))).verdict_error

end Document

section Update

/-- What comes of writing documents one after the other. -/
inductive Stores (target : Files.Path) : Disk → List GeneratedFile → Except Halt Unit → Prop where
  | done {d} :
    Stores target d [] (.ok ())
  | stopped {d f rest halt} :
    Fares (withDirectory d target) target f (.error halt) →
    Stores target d (f :: rest) (.error halt)
  | next {d f rest v} :
    Fares (withDirectory d target) target f (.ok ()) →
    Stores target (withDocument d target f) rest v →
    Stores target d (f :: rest) v

variable {target : Files.Path} {files : List GeneratedFile}

/-- Something comes of writing any documents. -/
lemma exists_stores (target : Files.Path) (d : Disk) (files : List GeneratedFile) : ∃ v, Stores target d files v := by
  induction files generalizing d with
  | nil => exact ⟨_, .done⟩
  | cons f rest ih =>
    obtain ⟨v, fares⟩ := exists_fares (withDirectory d target) target f
    cases v with
    | error halt => exact ⟨_, .stopped fares⟩
    | ok _ =>
      obtain ⟨v, stores⟩ := ih (withDocument d target f)
      exact ⟨v, .next fares stores⟩

/-- Documents are written whatever tables were read. -/
lemma ignoresTables_writeDocument (path : Files.Path) (text : Text) : IgnoresTables (writeDocument path text) := by
  have save (temp : Files.Path) : IgnoresTables (save temp text) := by
    unfold Output.save
    split
    · exact ignoresTables_change _
    · exact (ignoresTables_change _).bind fun _ => ignoresTables_fail _
  have cleanUp (temp : Files.Path) : IgnoresTables (cleanUp temp) := by
    refine (ignoresTables_inspect _).bind fun there => ?_
    split
    · exact ignoresTables_change _
    · exact ignoresTables_pure ()
  unfold writeDocument
  split
  · exact ignoresTables_fail _
  next temp _ =>
    have place : IgnoresTables (place temp path text) :=
      (ignoresTables_makeDirectories _).bind fun _ => (save temp).bind fun _ => ignoresTables_change _
    refine place.attempt.bind fun tried => ?_
    split
    · exact ignoresTables_note _
    · exact (cleanUp temp).bind fun _ => ignoresTables_fail _
    · exact ignoresTables_fail _

/-- Documents are written as they fare one after the other. -/
lemma verdict_writeFiles {s : Session} {v : Except Halt Unit} (h : Stores target s.disk files v) :
    (verdict (writeFiles target files) s).map (fun _ => ()) = v := by
  generalize hd : s.disk = d at h
  induction h generalizing s with
  | done => rfl
  | stopped fares =>
    subst hd
    rw [writeFiles, verdict_bind_of_halt (verdict_writeDocument fares)]
    rfl
  | @next d f rest v fares _ ih =>
    subst hd
    have written := ends_of_verdict (verdict_writeDocument fares)
    have disk := (ignoresTables_writeDocument (target.child f.name) f.text).disk s
    rw [writeFiles, written.verdict_bind, ← ih disk, verdict_bind_of_total fun _ _ => rfl]
    cases verdict (writeFiles target rest) _ <;> rfl

end Update

section Check

/-- A document is in its place, line ends apart. -/
def Holds (d : Disk) (p : Files.Path) (text : Text) : Prop :=
  ∃ found, HasText d p found ∧ Text.ofChars found = text

/-- What a check of documents comes to: whether all of them are in their places. -/
inductive Compares (d : Disk) (target : Files.Path) (files : List GeneratedFile) : Except Halt Bool → Prop where
  | current :
    (∀ f ∈ files, Holds d (target.child f.name) f.text) →
    Compares d target files (.ok true)
  | outdated {f} :
    (∀ g ∈ files, ∀ fault, ¬Unreadable d (target.child g.name) fault) →
    f ∈ files →
    ¬Holds d (target.child f.name) f.text →
    Compares d target files (.ok false)
  /-- The first document that cannot be read ends the check. -/
  | unread {before f after fault} :
    files = before ++ f :: after →
    (∀ g ∈ before, ∀ fault, ¬Unreadable d (target.child g.name) fault) →
    Unreadable d (target.child f.name) fault →
    Compares d target files (.error (.escape fault))

variable {d : Disk} {p target : Files.Path} {text : Text} {s : Session} {files : List GeneratedFile}

/-- A check of any documents comes to something. -/
lemma exists_compares (d : Disk) (target : Files.Path) (files : List GeneratedFile) :
    ∃ v, Compares d target files v := by
  classical
  cases first : files.find? fun f => ∃ fault, Unreadable d (target.child f.name) fault with
  | some f =>
    obtain ⟨hf, before, after, hfiles, hbefore⟩ := List.find?_eq_some_iff_append.1 first
    obtain ⟨fault, unreadable⟩ := of_decide_eq_true hf
    exact ⟨_, .unread hfiles (by simpa using hbefore) unreadable⟩
  | none =>
    by_cases held : ∀ f ∈ files, Holds d (target.child f.name) f.text
    · exact ⟨_, .current held⟩
    · obtain ⟨f, hf, hnot⟩ := by simpa using held
      exact ⟨_, .outdated (by simpa using first) hf hnot⟩

/-- A document that is in its place can be read. -/
lemma Holds.readable (h : Holds d p text) (fault : Fault) : ¬Unreadable d p fault := by
  obtain ⟨found, hfound, -⟩ := h
  exact hfound.readable fault

/-- A document that cannot be read is not compared. -/
lemma ends_holds_of_unreadable {fault : Fault} (h : Unreadable s.disk p fault) :
    Ends (holds p text) s (.error fault) s := by
  cases h with
  | @longName cause hfind =>
    have failed : s.disk.isFile p = .error (.file cause) := by
      rw [isFile, hfind]
      rfl
    exact Ends.bind_error (ends_inspect.2 ⟨failed.symm, rfl⟩)
  | notText hcontent hnone =>
    refine Ends.bind (ends_inspect.2 ⟨(isFile_of_contentAt hcontent).symm, rfl⟩) ?_
    refine Ends.bind (ends_inspect.2 ⟨hcontent.symm, rfl⟩) ?_
    rw [hnone]
    exact Ends.bind_error (ends_ofOutcome.2 ⟨rfl, rfl⟩)

/-- All other documents are compared. -/
lemma exists_ends_holds (h : ∀ fault, ¬Unreadable s.disk p fault) :
    ∃ held, Ends (holds p text) s (.ok held) s ∧ (held = true ↔ Holds s.disk p text) := by
  rcases missing_or_unreadable_or_hasText s.disk p with missing | ⟨fault, unreadable⟩ | ⟨found, hfound⟩
  · refine ⟨false, ends_holds_of_noFile missing text, nofun, fun held => ?_⟩
    obtain ⟨found, hfound, -⟩ := held
    cases missing.symm.trans hfound.isFile
  · exact absurd unreadable (h fault)
  · refine ⟨Text.ofChars found = text, ?_, ?_⟩
    · obtain ⟨content, hcontent, hread⟩ := id hfound
      refine Ends.bind (ends_inspect.2 ⟨hfound.isFile.symm, rfl⟩) ?_
      refine Ends.bind (ends_inspect.2 ⟨hcontent.symm, rfl⟩) ?_
      rw [hread]
      exact Ends.bind (ends_ofOutcome.2 ⟨rfl, rfl⟩) (ends_pure.2 ⟨rfl, rfl⟩)
    · rw [decide_eq_true_eq]
      constructor
      · exact fun heq => ⟨found, hfound, heq⟩
      · rintro ⟨found', hfound', heq⟩
        rwa [hfound.unique hfound']

/-- A check of documents that can be read names those that are not in their places. -/
lemma exists_ends_outdated (h : ∀ f ∈ files, ∀ fault, ¬Unreadable s.disk (target.child f.name) fault) :
    ∃ names, Ends (outdated target files) s (.ok names) s ∧
      (names = [] ↔ ∀ f ∈ files, Holds s.disk (target.child f.name) f.text) := by
  induction files with
  | nil => exact ⟨[], ends_pure.2 ⟨rfl, rfl⟩, by simp⟩
  | cons f rest ih =>
    obtain ⟨first, others⟩ := List.forall_mem_cons.1 h
    obtain ⟨names, ended, hnames⟩ := ih others
    obtain ⟨held, compared, hheld⟩ := @exists_ends_holds _ f.text _ first
    cases held with
    | true =>
      refine ⟨names, Ends.bind compared ended, ?_⟩
      rw [hnames, List.forall_mem_cons]
      exact (and_iff_right (hheld.1 rfl)).symm
    | false =>
      refine ⟨f.name :: names, Ends.bind compared (Ends.bind (ends_note.2 ⟨rfl, rfl⟩) ?_), nofun, fun all => ?_⟩
      · exact Ends.bind ended (ends_pure.2 ⟨rfl, rfl⟩)
      · cases hheld.2 (all f List.mem_cons_self)

/-- A check comes to the first document that cannot be read. -/
lemma ends_outdated_of_unreadable {before after : List GeneratedFile} {f : GeneratedFile} {fault : Fault}
    (h : ∀ g ∈ before, ∀ fault, ¬Unreadable s.disk (target.child g.name) fault)
    (unreadable : Unreadable s.disk (target.child f.name) fault) :
    Ends (outdated target (before ++ f :: after)) s (.error fault) s := by
  induction before with
  | nil => exact Ends.bind_error (ends_holds_of_unreadable unreadable)
  | cons g rest ih =>
    obtain ⟨first, others⟩ := List.forall_mem_cons.1 h
    have ended := ih others
    obtain ⟨held, compared, -⟩ := @exists_ends_holds _ g.text _ first
    cases held with
    | true => exact Ends.bind compared ended
    | false => exact Ends.bind compared (Ends.bind (ends_note.2 ⟨rfl, rfl⟩) (Ends.bind_error ended))

/-- A check ends as the comparison of its documents says. -/
lemma verdict_outdated {v : Except Halt Bool} (h : Compares s.disk target files v) :
    (verdict (outdated target files) s).map List.isEmpty = v := by
  cases h with
  | current held =>
    obtain ⟨names, ended, hnames⟩ := exists_ends_outdated fun f hf => (held f hf).readable
    rw [ended.verdict_ok, hnames.2 held]
    rfl
  | outdated readable hf hnot =>
    obtain ⟨names, ended, hnames⟩ := exists_ends_outdated readable
    have found : names ≠ [] := fun hnil => hnot (hnames.1 hnil _ hf)
    rw [ended.verdict_ok]
    exact congrArg Except.ok (List.isEmpty_eq_false_iff.2 found)
  | unread hfiles readable unreadable =>
    subst hfiles
    rw [(ends_outdated_of_unreadable readable unreadable).verdict_error, haltOf_of_not_user unreadable.isUserFault]
    rfl

end Check

end TaggedGrammar.Output
