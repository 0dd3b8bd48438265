import TaggedGrammar.Proofs.Files.Directories

/-!
# What operations are refused for

An operation at a path fails because of what is on the disk, or because no path has such letters.
-/

namespace TaggedGrammar.Files

/-- A path has no letters but those of the directory, those of the name and a slash. -/
lemma Path.unfitPath?_child {p : Path} {name : Text} :
    Disk.unfitPath? (p.child name) = none ↔
      Disk.unfitPath? p = none ∧ ∀ l ∈ name, Text.canBeInName l = true ∧ l ≠ .char '\x00' := by
  constructor
  · intro h
    refine ⟨letters_of_child h, fun l hl => unfitPath?_eq_none.1 h l ?_⟩
    rcases p.text_child name with hc | ⟨-, hc⟩
    · rw [hc]
      exact List.mem_append_right _ hl
    · rw [hc]
      exact List.mem_append_right _ hl
  · rintro ⟨hp, hname⟩
    rw [unfitPath?_eq_none] at hp ⊢
    have slash : Text.canBeInName (.char '/') = true ∧ Letter.char '/' ≠ .char '\x00' := ⟨rfl, by decide⟩
    intro l hl
    rcases p.text_child name with hc | ⟨-, hc⟩
    · rw [hc, List.mem_append, List.mem_append, List.mem_singleton] at hl
      rcases hl with (hl | rfl) | hl
      · exact hp l hl
      · exact slash
      · exact hname l hl
    · rw [hc, List.mem_append] at hl
      rcases hl with hl | hl
      · rw [(List.mem_replicate.1 hl).2]
        exact slash
      · exact hname l hl

namespace Disk

/-- A fault of an operation at a path. -/
inductive Refuses (p : Path) : Fault → Prop where
  | file {cause} :
    Refuses p (.file cause)
  | unfit {f} :
    unfitPath? p ≠ none →
    f = .notEncodable ∨ f = .nullInPath →
    Refuses p f

variable {d : Disk} {p q : Path} {f : Fault}

/-- A fault at one path is one at another that is fit only if the first is. -/
lemma Refuses.of_imp (h : Refuses p f) (hfit : unfitPath? q = none → unfitPath? p = none) : Refuses q f := by
  cases h with
  | file => exact .file
  | unfit hunfit hf => exact .unfit (mt hfit hunfit) hf

/-- Letters that no path has are a reason to refuse. -/
lemma refuses_of_unfit (h : unfitPath? p = some f) : Refuses p f := by
  refine .unfit ?_ (unfitPath?_cases h)
  rw [h]
  exact Option.some_ne_none f

/-- A search fails for the disk or for the letters of its path. -/
lemma refuses_of_locate {e : Ending} (h : d.locate e p = .error f) : Refuses p f := by
  cases hfit : unfitPath? p with
  | none =>
    obtain ⟨problem, rfl⟩ := exists_cause_of_locate h hfit
    exact .file
  | some g =>
    cases (locate_of_unfit hfit).symm.trans h
    exact refuses_of_unfit hfit

/-- So does a saving. -/
lemma refuses_of_saveAt {content : ByteArray} (h : d.saveAt p content = .error f) : Refuses p f := by
  unfold saveAt at h
  cases hl : d.locate .make p with
  | error g =>
    rw [hl] at h
    cases h
    exact refuses_of_locate hl
  | ok spot =>
    rw [hl] at h
    simp only [bind, Except.bind] at h
    split at h
    · cases h
      exact .file
    · cases h
      exact .file
    · cases h
    · cases h

/-- So does a move, whose source is fit whenever its target is. -/
lemma refuses_of_move {source : Path} (hsource : unfitPath? p = none → unfitPath? source = none)
    (h : d.move source p = .error f) : Refuses p f := by
  unfold move at h
  split at h
  next g hunfit =>
    cases h
    rcases Option.or_eq_some_iff.1 hunfit with hfirst | ⟨-, hsecond⟩
    · exact (refuses_of_unfit hfirst).of_imp hsource
    · exact refuses_of_unfit hsecond
  split at h
  · cases h
    exact .file
  · cases h
    exact .file
  · split at h
    · cases h
      exact .file
    · split at h
      · cases h
        exact .file
      · cases h
        exact .file
      · cases h
        exact .file
      · cases h

/-- What is there can be removed, unless it is a directory. -/
lemma remove_eq_error (hthere : d.isThere p = .ok true) (h : d.remove p = .error f) :
    (∃ place, d.locate .keep p = .ok ⟨place, some .directory⟩) ∧ f = .file ⟨.isDirectory, p.text, none⟩ := by
  obtain ⟨x, hfind⟩ : ∃ x, d.find p = .ok (some x) := by
    unfold isThere at hthere
    cases hfind : d.find p with
    | error g =>
      rw [hfind] at hthere
      cases hthere
    | ok found =>
      rw [hfind] at hthere
      cases found with
      | none => cases hthere
      | some x => exact ⟨x, rfl⟩
  obtain ⟨q, located⟩ := find_eq_some.1 hfind
  obtain ⟨hfits, walked⟩ := of_locate located
  obtain ⟨⟨place, entry⟩, kept, hentry⟩ := exists_walk_keep walked
  have hkeep : d.locate .keep p = .ok ⟨place, entry⟩ := by
    rw [locate_eq hfits, kept]
    rfl
  rw [Disk.remove, hkeep] at h
  cases entry with
  | none => exact absurd rfl hentry
  | some x =>
    cases x with
    | directory =>
      cases h
      exact ⟨⟨place, hkeep⟩, rfl⟩
    | file content => cases h
    | link target => cases h

end Disk

open Disk Run

/-- No directory is made at a path that has no fitting letters. -/
lemma ends_makeDirectories_of_unfit {p : Path} {s : Session} {f : Fault} (h : unfitPath? p = some f) :
    Ends (makeDirectories p) s (.error f) s := by
  have refused : s.disk.makeDirectory p = .error f := by
    rw [makeDirectory, locate_of_unfit h]
    rfl
  have tried : Ends (change (·.makeDirectory p)) s (.error f) s := ends_change.2 (.inr ⟨f, refused, rfl, rfl⟩)
  unfold makeDirectories
  cases hparts : p.parts.reverse with
  | nil =>
    have hp : p = ⟨p.slashes, []⟩ := by
      cases p
      simp_all
    rw [makeAll, makeLast, ← hp]
    refine ends_attempt_bind.2 ⟨_, _, tried, ?_⟩
    rcases unfitPath?_cases h with rfl | rfl <;> exact ends_fail.2 ⟨rfl, rfl⟩
  | cons name rest =>
    have hp : p = ⟨p.slashes, (name :: rest).reverse⟩ := by
      cases p
      simp_all [List.reverse_eq_iff]
    rw [makeAll, ← hp]
    refine ends_attempt_bind.2 ⟨_, _, tried, ?_⟩
    rcases unfitPath?_cases h with rfl | rfl <;> exact ends_fail.2 ⟨rfl, rfl⟩

section IgnoresTables

/-- Whether a directory is there does not depend on tables. -/
lemma ignoresTables_unlessDirectory (p : Path) (f : Fault) : IgnoresTables (unlessDirectory p f) := by
  refine (ignoresTables_inspect _).bind fun there => ?_
  cases there with
  | true => exact ignoresTables_pure ()
  | false => exact ignoresTables_fail f

/-- One directory is made whatever tables were read. -/
lemma ignoresTables_makeLast (p : Path) : IgnoresTables (makeLast p) := by
  refine (ignoresTables_change _).attempt.bind fun res => ?_
  split
  · exact ignoresTables_pure ()
  · split
    · exact ignoresTables_fail _
    · exact ignoresTables_unlessDirectory p _
  · exact ignoresTables_fail _

/-- A directory is made with those above it whatever tables were read. -/
lemma ignoresTables_makeAll (slashes : Nat) (names : List Text) : IgnoresTables (makeAll slashes names) := by
  induction names with
  | nil => exact ignoresTables_makeLast _
  | cons name rest ih =>
    refine (ignoresTables_change _).attempt.bind fun res => ?_
    split
    · exact ignoresTables_pure ()
    · split
      · exact ih.bind fun _ => ignoresTables_makeLast _
      · exact ignoresTables_unlessDirectory _ _
    · exact ignoresTables_fail _

/-- Directories are made whatever tables were read. -/
lemma ignoresTables_makeDirectories (p : Path) : IgnoresTables (makeDirectories p) :=
  ignoresTables_makeAll _ _

end IgnoresTables

end TaggedGrammar.Files
