import Mathlib
import TaggedGrammar.Files.Disk

/-!
# What a change does to a disk

A disk is seen through `get`: putting and erasing change what is at one place and leave all other places
alone. Two disks agree when they hold the same at every place. A disk grows when directories are made in it,
and a change keeps the ways when no directory and no link is lost, so that every path leads where it led.
-/

namespace TaggedGrammar.Files.Disk

/-- Entries without those of a place are found as before everywhere else. -/
lemma lookup_filter_ne (entries : List (Place × Entry)) (p q : Place) :
    (entries.filter (·.1 ≠ p)).lookup q = if q = p then none else entries.lookup q := by
  induction entries with
  | nil => simp
  | cons e rest ih =>
    obtain ⟨r, x⟩ := e
    by_cases hr : r = p
    · subst hr
      rw [List.filter_cons_of_neg (by simp), ih, List.lookup_cons]
      by_cases hq : q = r
      · rw [if_pos hq, if_pos hq]
      · rw [if_neg hq, if_neg hq, beq_eq_false_iff_ne.2 hq]
    · rw [List.filter_cons_of_pos (by simpa using hr), List.lookup_cons, List.lookup_cons]
      by_cases hq : q = r
      · subst hq
        rw [if_neg hr, beq_self_eq_true]
      · rw [beq_eq_false_iff_ne.2 hq]
        exact ih

/-- The root is always there. -/
@[simp] lemma get_root (d : Disk) : d.get [] = some .directory :=
  rfl

/-- What is at a place other than the root is one of the entries. -/
lemma mem_entries_of_get {d : Disk} {name rest e} (h : d.get (name :: rest) = some e) :
    (name :: rest, e) ∈ d.entries := by
  obtain ⟨before, after, heq, -⟩ := List.lookup_eq_some_iff.1 h
  simp [heq]

/-- A new entry does not move the place that relative paths start from. -/
@[simp] lemma here_put (d : Disk) (p : Place) (e : Entry) : (d.put p e).here = d.here :=
  rfl

/-- Neither does an entry that is removed. -/
@[simp] lemma here_erase (d : Disk) (p : Place) : (d.erase p).here = d.here :=
  rfl

/-- All places but the one that was emptied are as before. -/
lemma get_erase (d : Disk) (name : Text) (rest q : Place) :
    (d.erase (name :: rest)).get q = if q = name :: rest then none else d.get q := by
  cases q with
  | nil => simp
  | cons n r => exact lookup_filter_ne d.entries (name :: rest) (n :: r)

/-- All places but the one that was filled are as before. -/
lemma get_put (d : Disk) (name : Text) (rest q : Place) (e : Entry) :
    (d.put (name :: rest) e).get q = if q = name :: rest then some e else d.get q := by
  cases q with
  | nil => simp
  | cons n r =>
    by_cases h : n :: r = name :: rest
    · rw [if_pos h, h]
      simp [get, put]
    · have hne : (n :: r == name :: rest) = false := by simpa using h
      have others := get_erase d name rest (n :: r)
      rw [if_neg h] at others ⊢
      rw [← others]
      simp only [get, put, List.lookup_cons, hne]

/-- The two disks hold the same at every place. -/
structure Agrees (d d' : Disk) : Prop where
  here : d'.here = d.here
  get : ∀ p, d'.get p = d.get p

/-- A disk agrees with itself. -/
lemma Agrees.refl (d : Disk) : Agrees d d :=
  ⟨rfl, fun _ => rfl⟩

/-- Disks that agree with a third one in turn agree with each other. -/
lemma Agrees.trans {d₁ d₂ d₃} (h₁ : Agrees d₁ d₂) (h₂ : Agrees d₂ d₃) : Agrees d₁ d₃ :=
  ⟨h₂.here.trans h₁.here, fun p => (h₂.get p).trans (h₁.get p)⟩

/-- The second disk is the first one with more directories. -/
structure Grows (d d' : Disk) : Prop where
  here : d'.here = d.here
  kept : ∀ {p e}, d.get p = some e → d'.get p = some e
  new : ∀ {p}, d.get p = none → d'.get p = none ∨ d'.get p = some .directory

/-- A disk that stays as it is loses nothing. -/
lemma Grows.refl (d : Disk) : Grows d d :=
  ⟨rfl, id, .inl⟩

/-- What grows twice has grown. -/
lemma Grows.trans {d₁ d₂ d₃} (h₁ : Grows d₁ d₂) (h₂ : Grows d₂ d₃) : Grows d₁ d₃ := by
  refine ⟨h₂.here.trans h₁.here, fun h => h₂.kept (h₁.kept h), fun {p} h => ?_⟩
  cases h₁.new h with
  | inl absent => exact h₂.new absent
  | inr made => exact .inr (h₂.kept made)

/-- A directory in an empty place takes nothing away. -/
lemma grows_put {d : Disk} {name rest} (h : d.get (name :: rest) = none) :
    Grows d (d.put (name :: rest) .directory) := by
  refine ⟨rfl, fun {p e} hp => ?_, fun {p} hp => ?_⟩
  · rw [get_put, if_neg, hp]
    rintro rfl
    cases h.symm.trans hp
  · rw [get_put]
    split
    · exact .inr rfl
    · exact .inl hp

/-- A file that a disk has after growing was there before. -/
lemma Grows.file {d d'} (h : Grows d d') {p content} (hp : d'.get p = some (.file content)) :
    d.get p = some (.file content) := by
  cases hd : d.get p with
  | none => cases h.new hd <;> simp_all
  | some e => rw [← h.kept hd, hp]

/-- A link that a disk has after growing was there before. -/
lemma Grows.link {d d'} (h : Grows d d') {p target} (hp : d'.get p = some (.link target)) :
    d.get p = some (.link target) := by
  cases hd : d.get p with
  | none => cases h.new hd <;> simp_all
  | some e => rw [← h.kept hd, hp]

/-- Every directory of the first disk is one of the second, and both have the same links. -/
structure Keeps (d d' : Disk) : Prop where
  here : d'.here = d.here
  directory : ∀ {p}, d.get p = some .directory → d'.get p = some .directory
  link : ∀ {p target}, d'.get p = some (.link target) ↔ d.get p = some (.link target)

/-- A disk keeps its own ways. -/
lemma Keeps.refl (d : Disk) : Keeps d d :=
  ⟨rfl, id, .rfl⟩

/-- Ways that are kept twice are kept. -/
lemma Keeps.trans {d₁ d₂ d₃} (h₁ : Keeps d₁ d₂) (h₂ : Keeps d₂ d₃) : Keeps d₁ d₃ :=
  ⟨h₂.here.trans h₁.here, fun h => h₂.directory (h₁.directory h), h₂.link.trans h₁.link⟩

/-- Where nothing is lost all ways are kept. -/
lemma Grows.keeps {d d'} (h : Grows d d') : Keeps d d' :=
  ⟨h.here, h.kept, h.link, h.kept⟩

/-- Disks with the same entries have the same ways. -/
lemma Agrees.keeps {d d'} (h : Agrees d d') : Keeps d d' :=
  ⟨h.here, fun hp => (h.get _).trans hp, fun {p _} => by rw [h.get p]⟩

end TaggedGrammar.Files.Disk
