import TaggedGrammar.Files.Directories
import TaggedGrammar.Proofs.Files.Locate
import TaggedGrammar.Proofs.Runs

/-!
# What the making of directories does

Making the directory of a path only adds directories. If it ends well, the path leads to a directory; if it
fails, the path leads to none. A path that leads to a directory is left alone.
-/

namespace TaggedGrammar.Files

open Run

namespace Disk

variable {d d' : Disk}

/-- A fault of the search for a path that operations take is a failure of the search. -/
lemma exists_cause_of_locate {e : Ending} {p : Path} {f : Fault} (h : d.locate e p = .error f)
    (hfit : unfitPath? p = none) : ∃ problem, f = .file ⟨problem, p.text, none⟩ := by
  simp only [locate, hfit] at h
  cases hw : d.walkPath e p with
  | ok spot => simp [hw, Except.mapError] at h
  | error problem =>
    rw [hw] at h
    cases h
    exact ⟨problem, rfl⟩

/-- No operation takes a path that has no fitting letters. -/
lemma locate_of_unfit {e : Ending} {p : Path} {f : Fault} (h : unfitPath? p = some f) :
    d.locate e p = .error f := by
  simp only [locate, h]

/-- A path is unfit because it cannot be encoded or because it has the character with code zero. -/
lemma unfitPath?_cases {p : Path} {f : Fault} (h : unfitPath? p = some f) :
    f = .notEncodable ∨ f = .nullInPath := by
  unfold unfitPath? at h
  split at h
  · exact .inl (Option.some.inj h).symm
  · split at h
    · exact .inr (Option.some.inj h).symm
    · cases h

/-- What is asked about the entry at a path fails only if the path does. -/
lemma find_of_map_eq_error {α : Type} {p : Path} {ask : Option Entry → α} {f : Fault}
    (h : (d.find p).map ask = .error f) : d.find p = .error f := by
  cases hfind : d.find p with
  | ok found =>
    rw [hfind] at h
    cases h
  | error g =>
    rw [hfind] at h
    cases h
    rfl

/-- A look at a path fails only if a name on the way is too long. -/
lemma find_eq_error {p : Path} {f : Fault} (h : d.find p = .error f) :
    f = .file ⟨.nameTooLong, p.text, none⟩ := by
  cases hfit : unfitPath? p with
  | none =>
    cases hl : d.locate .follow p with
    | ok spot => simp [find, hl] at h
    | error g =>
      obtain ⟨problem, rfl⟩ := exists_cause_of_locate hl hfit
      simp only [find, hl] at h
      split at h
      · cases h
      next hpresent =>
        cases h
        have walked : d.walkPath .follow p = .error problem := by
          simp only [locate, hfit] at hl
          cases hw : d.walkPath .follow p with
          | ok spot => simp [hw, Except.mapError] at hl
          | error problem' =>
            rw [hw] at hl
            cases hl
            rfl
        unfold walkPath at walked
        split at walked
        · cases walked
          rfl
        · rw [((of_walk_error walked).resolve_left hpresent).1]
  | some g =>
    have hl : d.locate .follow p = .error g := locate_of_unfit hfit
    rcases unfitPath?_cases hfit with rfl | rfl <;> simp [find, hl] at h

/-- A path is that of a directory exactly if a search that follows links finds one. -/
lemma isDirectory_iff {p : Path} :
    d.isDirectory p = .ok true ↔ ∃ q, d.locate .follow p = .ok ⟨q, some .directory⟩ := by
  rw [← find_eq_some]
  unfold isDirectory
  cases d.find p with
  | error f => simp [Except.map]
  | ok found =>
    cases found with
    | none => simp [Except.map]
    | some x => cases x <;> simp [Except.map]

/-- What is new on the second disk has one of the names. -/
def NewAmong (d d' : Disk) (names : List Text) : Prop :=
  ∀ name q, d.get (name :: q) = none → d'.get (name :: q) ≠ none → name ∈ names

/-- Nothing is new on the same disk. -/
lemma NewAmong.refl (d : Disk) (names : List Text) : NewAmong d d names :=
  fun _ _ hnone hsome => absurd hnone hsome

/-- What is new after two changes is new after one of them. -/
lemma NewAmong.trans {d₁ d₂ d₃ : Disk} {names : List Text} (h₁ : NewAmong d₁ d₂ names)
    (h₂ : NewAmong d₂ d₃ names) : NewAmong d₁ d₃ names := by
  intro name q hnone hsome
  by_cases h : d₂.get (name :: q) = none
  · exact h₂ name q h hsome
  · exact h₁ name q hnone h

/-- More names allow more that is new. -/
lemma NewAmong.mono {names more : List Text} (h : NewAmong d d' names) (hsub : names ⊆ more) :
    NewAmong d d' more :=
  fun name q hnone hsome => hsub (h name q hnone hsome)

/-- Some names in front of a path lead to what is new on the second disk. -/
def NewOnWay (d d' : Disk) (p : Path) : Prop :=
  ∀ r, d.get r = none → d'.get r ≠ none → ∃ front, front <+: p.parts ∧ d'.LeadsTo ⟨p.slashes, front⟩ r

/-- Nothing is new on the same disk. -/
lemma NewOnWay.refl (d : Disk) (p : Path) : NewOnWay d d p :=
  fun _ hnone hsome => absurd hnone hsome

/-- What is new after two changes is on the way as the second disk has it. -/
lemma NewOnWay.trans {d₁ d₂ d₃ : Disk} {p : Path} (h₁ : NewOnWay d₁ d₂ p) (h₂ : NewOnWay d₂ d₃ p)
    (hk : Keeps d₂ d₃) : NewOnWay d₁ d₃ p := by
  intro r hnone hsome
  by_cases h : d₂.get r = none
  · exact h₂ r h hsome
  · obtain ⟨front, hfront, way⟩ := h₁ r hnone h
    exact ⟨front, hfront, way.mono hk⟩

/-- The way to a directory is part of the way to what is in it. -/
lemma NewOnWay.of_parent {p : Path} {name : Text} (h : NewOnWay d d' p) : NewOnWay d d' (p.child name) := by
  intro r hnone hsome
  obtain ⟨front, hfront, way⟩ := h r hnone hsome
  exact ⟨front, hfront.trans (List.prefix_append _ _), way⟩

/-- A new directory is one more directory, with the last name of its path, and its path leads to it. -/
lemma of_makeDirectory {p : Path} (h : d.makeDirectory p = .ok d') :
    p.Fits ∧ Grows d d' ∧ NewAmong d d' p.parts ∧ NewOnWay d d' p ∧ ∃ q, d'.LeadsTo p q := by
  cases hl : d.locate .keep p with
  | error f => simp [makeDirectory, hl, bind, Except.bind] at h
  | ok spot =>
    obtain ⟨place, entry⟩ := spot
    obtain ⟨hfit, hw⟩ := of_locate hl
    simp only [makeDirectory, hl, bind, Except.bind] at h
    cases entry with
    | some x => simp [failure] at h
    | none =>
      cases h
      obtain ⟨front, name, m, q, hparts, rfl, hn, hs, way, habsent⟩ := exists_leads_of_entry hw (by simp)
      have grown := grows_put habsent
      have new {r} (hnone : d.get r = none) (hsome : (d.put (name :: q) .directory).get r ≠ none) : r = name :: q := by
        rw [get_put] at hsome
        split at hsome
        · assumption
        · exact absurd hnone hsome
      have leads : (d.put (name :: q) .directory).LeadsTo p (name :: q) := by
        refine ⟨m, ?_⟩
        rw [hparts]
        refine (way.mono grown.keeps).append (.enter hn hs ?_ .done)
        rw [get_put, if_pos rfl]
      refine ⟨hfit, grown, fun n r hnone hsome => ?_, fun r hnone hsome => ?_, name :: q, leads⟩
      · cases new hnone hsome
        simp [hparts]
      · cases new hnone hsome
        exact ⟨p.parts, List.prefix_rfl, leads⟩

/-- A directory that is there already is not made again. -/
lemma makeDirectory_of_leadsTo {p : Path} {q} (hfit : p.Fits) (h : d.LeadsTo p q) :
    d.makeDirectory p = .error (.file ⟨.alreadyThere, p.text, none⟩) := by
  obtain ⟨m, way⟩ := h
  obtain ⟨spot, hw, hentry⟩ := way.walk_keep
  have hl : d.locate .keep p = .ok spot := by
    rw [locate_eq hfit, hw]
    rfl
  simp only [makeDirectory, hl, bind, Except.bind]
  cases hx : spot.entry with
  | none => exact absurd hx hentry
  | some x => rfl

/-- A path with fitting letters is refused for something on the disk. -/
lemma exists_cause_of_makeDirectory {p : Path} {f : Fault} (h : d.makeDirectory p = .error f)
    (hfit : unfitPath? p = none) : ∃ cause, f = .file cause := by
  cases hl : d.locate .keep p with
  | error g =>
    obtain ⟨problem, rfl⟩ := exists_cause_of_locate hl hfit
    simp only [makeDirectory, hl, bind, Except.bind] at h
    cases h
    exact ⟨_, rfl⟩
  | ok spot =>
    simp only [makeDirectory, hl, bind, Except.bind] at h
    split at h
    · cases h
      exact ⟨_, rfl⟩
    · cases h

end Disk

open Disk

/-- How the making of the directory of a path ends: directories on the way of the path, with names of the path, are all
that is added, and the path leads to a directory afterwards exactly if it ends well. -/
structure MakesDirectory (p : Path) (s : Session) (res : Except Fault Unit) (s' : Session) : Prop where
  memory : s'.memory = s.memory
  grows : Grows s.disk s'.disk
  new : NewAmong s.disk s'.disk p.parts
  onWay : NewOnWay s.disk s'.disk p
  leads : res = .ok () → p.Fits ∧ ∃ q, s'.disk.LeadsTo p q
  leadsNot : ∀ {f}, res = .error f → ¬(p.Fits ∧ ∃ q, s'.disk.LeadsTo p q)
  cause : ∀ {f}, res = .error f → unfitPath? p = none → ∃ cause, f = .file cause

/-- A directory that could be made at once is all that is made. -/
lemma makesDirectory_of_makeDirectory {p : Path} {s : Session} {d : Disk} (h : s.disk.makeDirectory p = .ok d) :
    MakesDirectory p s (.ok ()) { s with disk := d } := by
  obtain ⟨hfit, grown, new, onWay, hlead⟩ := of_makeDirectory h
  exact ⟨rfl, grown, new, onWay, fun _ => ⟨hfit, hlead⟩, by simp, by simp⟩

/-- A refusal makes nothing, if it is right that there is no directory. -/
lemma makesDirectory_of_refusal {p : Path} {s : Session} {f : Fault} (hno : ¬(p.Fits ∧ ∃ q, s.disk.LeadsTo p q))
    (hcause : unfitPath? p = none → ∃ cause, f = .file cause) : MakesDirectory p s (.error f) s := by
  refine ⟨rfl, Grows.refl _, NewAmong.refl _ _, NewOnWay.refl _ _, by simp, fun _ => hno, fun hf hfit => ?_⟩
  cases hf
  exact hcause hfit

/-- A directory that is there is accepted, and all else is refused. -/
lemma ends_unlessDirectory {p : Path} {cause : Failure} {s res s'}
    (h : Ends (unlessDirectory p (.file cause)) s res s') : MakesDirectory p s res s' := by
  have same_iff : s.disk.isDirectory p = .ok true ↔ p.Fits ∧ ∃ q, s.disk.LeadsTo p q := by
    rw [isDirectory_iff]
    simp only [locate_follow_iff, exists_and_left]
  rcases ends_bind.1 h with ⟨there, s₁, hlook, hrest⟩ | ⟨f, hlook, rfl⟩
  · obtain ⟨heq, rfl⟩ := ends_inspect.1 hlook
    cases there with
    | true =>
      obtain ⟨rfl, rfl⟩ := ends_pure.1 hrest
      exact ⟨rfl, Grows.refl _, NewAmong.refl _ _, NewOnWay.refl _ _, fun _ => same_iff.1 heq.symm, by simp, by simp⟩
    | false =>
      obtain ⟨rfl, rfl⟩ := ends_fail.1 hrest
      refine makesDirectory_of_refusal (fun hp => ?_) fun _ => ⟨cause, rfl⟩
      rw [same_iff.2 hp] at heq
      cases heq
  · obtain ⟨heq, rfl⟩ := ends_inspect.1 hlook
    refine makesDirectory_of_refusal (fun hp => ?_) fun _ => ?_
    · rw [same_iff.2 hp] at heq
      cases heq
    · -- the look itself has failed, and its fault is handed on
      refine ⟨_, @find_eq_error s'.disk p _ ?_⟩
      unfold isDirectory at heq
      cases hfind : s'.disk.find p with
      | ok found => simp [hfind, Except.map] at heq
      | error g => simpa [hfind, Except.map, eq_comm] using heq

/-- One directory is made in a directory that is there. -/
lemma ends_makeLast {p : Path} {s res s'} (h : Ends (makeLast p) s res s') :
    MakesDirectory p s res s' := by
  obtain ⟨x, s₁, hmake, hrest⟩ := ends_attempt_bind.1 h
  rcases ends_change.1 hmake with ⟨d, hd, rfl, rfl⟩ | ⟨f, hd, rfl, rfl⟩
  · obtain ⟨rfl, rfl⟩ := ends_pure.1 hrest
    exact makesDirectory_of_makeDirectory hd
  · have leads_not : (∀ cause, f = .file cause → cause.problem ≠ .alreadyThere) →
        ¬(p.Fits ∧ ∃ q, s₁.disk.LeadsTo p q) := by
      rintro hf ⟨hfit, q, hq⟩
      rw [makeDirectory_of_leadsTo hfit hq] at hd
      cases hd
      exact hf _ rfl rfl
    cases f with
    | file cause =>
      by_cases hc : cause.problem = .missing
      · simp only [if_pos hc] at hrest
        obtain ⟨rfl, rfl⟩ := ends_fail.1 hrest
        refine makesDirectory_of_refusal (leads_not ?_) fun _ => ⟨cause, rfl⟩
        rintro cause' hf
        cases hf
        simp [hc]
      · simp only [if_neg hc] at hrest
        exact ends_unlessDirectory hrest
    | _ =>
      obtain ⟨rfl, rfl⟩ := ends_fail.1 hrest
      exact makesDirectory_of_refusal (leads_not (by simp)) (exists_cause_of_makeDirectory hd)

/-- A directory is made with those above it. The names come from the innermost one, so that the names behind
the first one are those of the directory above. -/
lemma ends_makeAll {slashes : Nat} {names : List Text} {s res s'}
    (h : Ends (makeAll slashes names) s res s') : MakesDirectory ⟨slashes, names.reverse⟩ s res s' := by
  induction names generalizing s res s' with
  | nil => exact ends_makeLast h
  | cons name rest ih =>
    let above : Path := ⟨slashes, rest.reverse⟩
    have hpath : (⟨slashes, (name :: rest).reverse⟩ : Path) = above.child name := by
      simp [above, Path.child]
    have above_parts : above.parts ⊆ (above.child name).parts := List.subset_append_left _ _
    -- a way to the directory passes the one above it
    have above_leads {d : Disk} {q} (hq : d.LeadsTo (above.child name) q) : ∃ r, d.LeadsTo above r := by
      obtain ⟨m, way⟩ := hq
      have hw : d.walk .follow linkLimit (d.startOf above) (above.parts ++ [name]) = _ :=
        walk_follow_iff.2 ⟨m, way⟩
      rcases exists_leads hw with ⟨m', r, way', -⟩ | ⟨hne, -⟩
      · exact ⟨r, m', way'⟩
      · cases hne
    unfold makeAll at h
    simp only [hpath] at h ⊢
    obtain ⟨x, s₁, hmake, hrest⟩ := ends_attempt_bind.1 h
    rcases ends_change.1 hmake with ⟨d, hd, rfl, rfl⟩ | ⟨f, hd, rfl, rfl⟩
    · obtain ⟨rfl, rfl⟩ := ends_pure.1 hrest
      exact makesDirectory_of_makeDirectory hd
    · cases f with
      | file cause =>
        by_cases hc : cause.problem = .missing
        · simp only [if_pos hc] at hrest
          -- the one above is missing too: it is made first, and then the directory is tried again
          rcases ends_bind.1 hrest with ⟨u, s₂, habove, hlast⟩ | ⟨f, habove, rfl⟩
          · have made := ih habove
            have last := ends_makeLast hlast
            exact ⟨last.memory.trans made.memory, made.grows.trans last.grows,
              (made.new.mono above_parts).trans last.new, made.onWay.of_parent.trans last.onWay last.grows.keeps,
              last.leads, last.leadsNot, last.cause⟩
          · have made := ih habove
            refine ⟨made.memory, made.grows, made.new.mono above_parts, made.onWay.of_parent, by simp, ?_, ?_⟩
            · rintro g - ⟨hfit, q, hq⟩
              exact made.leadsNot rfl ⟨hfit.of_child, above_leads hq⟩
            · rintro g hg hfit
              exact made.cause hg (Path.letters_of_child hfit)
        · simp only [if_neg hc] at hrest
          exact ends_unlessDirectory hrest
      | _ =>
        obtain ⟨rfl, rfl⟩ := ends_fail.1 hrest
        refine makesDirectory_of_refusal ?_ (exists_cause_of_makeDirectory hd)
        rintro ⟨hfit, q, hq⟩
        rw [makeDirectory_of_leadsTo hfit hq] at hd
        cases hd

/-- Whatever the path, its directory is made as `MakesDirectory` says. -/
lemma ends_makeDirectories {p : Path} {s res s'} (h : Ends (makeDirectories p) s res s') :
    MakesDirectory p s res s' := by
  have made := ends_makeAll h
  rwa [List.reverse_reverse] at made

/-- A directory that is there is accepted. -/
lemma ends_unlessDirectory_of_leadsTo {p : Path} {f : Fault} {s : Session} {q} (hfit : p.Fits)
    (h : s.disk.LeadsTo p q) : Ends (unlessDirectory p f) s (.ok ()) s := by
  have hdir : s.disk.isDirectory p = .ok true := isDirectory_iff.2 ⟨q, locate_follow_iff.2 ⟨hfit, h⟩⟩
  refine Ends.bind (ends_inspect.2 ⟨hdir.symm, rfl⟩) ?_
  exact ends_pure.2 ⟨rfl, rfl⟩

/-- Nothing is made for a path that leads to a directory. -/
lemma makeDirectories_of_leadsTo {p : Path} {s : Session} {q} (hfit : p.Fits) (h : s.disk.LeadsTo p q) :
    Ends (makeDirectories p) s (.ok ()) s := by
  have hmake : Ends (change (·.makeDirectory p)) s (.error (.file ⟨.alreadyThere, p.text, none⟩)) s :=
    ends_change.2 (.inr ⟨_, makeDirectory_of_leadsTo hfit h, rfl, rfl⟩)
  unfold makeDirectories
  cases hparts : p.parts.reverse with
  | nil =>
    have hp : p = ⟨p.slashes, []⟩ := by
      cases p
      simp_all
    rw [makeAll, ← hp]
    refine ends_attempt_bind.2 ⟨_, _, hmake, ?_⟩
    exact ends_unlessDirectory_of_leadsTo hfit h
  | cons name rest =>
    have hp : p = ⟨p.slashes, (name :: rest).reverse⟩ := by
      cases p
      simp_all [List.reverse_eq_iff]
    rw [makeAll, ← hp]
    refine ends_attempt_bind.2 ⟨_, _, hmake, ?_⟩
    exact ends_unlessDirectory_of_leadsTo hfit h

end TaggedGrammar.Files
