import TaggedGrammar.Proofs.Files.Locate

/-!
# Operations on the entries of a directory

Saving, moving and removing change what is at one or two places and leave all else alone. For each operation one lemma
says when it ends well and what the disk is then; from it follows what the operation does to an entry with a name in
the directory that a path leads to.
-/

namespace TaggedGrammar.Files

namespace Disk

variable {d d' d'' : Disk}

/-- The second disk is the first one with `x` at the place `p`. -/
structure Sets (d : Disk) (p : Place) (x : Option Entry) (d' : Disk) : Prop where
  here : d'.here = d.here
  get : ∀ r, d'.get r = if r = p then x else d.get r

/-- The place that was set has its new entry. -/
lemma Sets.at {p x} (h : Sets d p x d') : d'.get p = x := by
  rw [h.get, if_pos rfl]

/-- All other places are as before. -/
lemma Sets.elsewhere {p x r} (h : Sets d p x d') (hr : r ≠ p) : d'.get r = d.get r := by
  rw [h.get, if_neg hr]

/-- An entry that is put is set. -/
lemma sets_put (d : Disk) (name : Text) (rest : Place) (e : Entry) :
    Sets d (name :: rest) (some e) (d.put (name :: rest) e) :=
  ⟨rfl, fun r => get_put d name rest r e⟩

/-- An entry can be set anywhere but at the root. -/
lemma sets_put_of_ne_nil {p : Place} (hp : p ≠ []) (e : Entry) : Sets d p (some e) (d.put p e) := by
  obtain ⟨name, rest, rfl⟩ := List.exists_cons_of_ne_nil hp
  exact sets_put d name rest e

/-- An entry that is removed is set to nothing. -/
lemma sets_erase (d : Disk) (name : Text) (rest : Place) :
    Sets d (name :: rest) none (d.erase (name :: rest)) :=
  ⟨rfl, fun r => get_erase d name rest r⟩

/-- Any place but the root can be set to nothing. -/
lemma sets_erase_of_ne_nil {p : Place} (hp : p ≠ []) : Sets d p none (d.erase p) := by
  obtain ⟨name, rest, rfl⟩ := List.exists_cons_of_ne_nil hp
  exact sets_erase d name rest

/-- Filling a place that was filled before takes back what was there. -/
lemma Sets.trans {p x y} (h₁ : Sets d p x d') (h₂ : Sets d' p y d'') : Sets d p y d'' := by
  refine ⟨h₂.here.trans h₁.here, fun r => ?_⟩
  rw [h₂.get, h₁.get]
  split <;> rfl

/-- What was at the place can be put back. -/
lemma Sets.symm {p x} (h : Sets d p x d') : Sets d' p (d.get p) d := by
  refine ⟨h.here.symm, fun r => ?_⟩
  split
  next hr => rw [hr]
  next hr => exact (h.elsewhere hr).symm

/-- A change of a place that holds neither a directory nor a link keeps all ways if it puts no link there. -/
lemma Sets.keeps {p x} (h : Sets d p x d') (hd : d.get p ≠ some .directory)
    (hl : ∀ target, d.get p ≠ some (.link target)) (hx : ∀ target, x ≠ some (.link target)) :
    Keeps d d' := by
  refine ⟨h.here, fun {r} hr => ?_, fun {r target} => ?_⟩
  · rw [h.elsewhere, hr]
    rintro rfl
    exact hd hr
  · by_cases hr : r = p
    · subst hr
      rw [h.at]
      exact ⟨fun hlink => absurd hlink (hx target), fun hlink => absurd hlink (hl target)⟩
    · rw [h.elsewhere hr]

/-- Where ways are kept no link is new. -/
lemma NoLinkNamed.keeps {name : Text} (h : d.NoLinkNamed name) (hk : Keeps d d') : d'.NoLinkNamed name :=
  fun q target hlink => h q target (hk.link.1 hlink)

/-- There is nothing, or a file. -/
def Free (x : Option Entry) : Prop :=
  x = none ∨ ∃ content, x = some (.file content)

/-- A place is free unless a directory or a link is there. -/
lemma free_iff {x : Option Entry} : Free x ↔ x ≠ some .directory ∧ ∀ target, x ≠ some (.link target) := by
  cases x with
  | none => simp [Free]
  | some entry => cases entry <;> simp [Free]

/-- A file that is written to the path is written at the place `r`. -/
def Opens (d : Disk) (p : Path) (r : Place) : Prop :=
  ∃ x, d.locate .make p = .ok ⟨r, x⟩ ∧ Free x

/-- A path opens one file only. -/
lemma Opens.unique {p : Path} {r r'} (h : d.Opens p r) (h' : d.Opens p r') : r = r' := by
  obtain ⟨x, located, -⟩ := h
  obtain ⟨x', located', -⟩ := h'
  cases located.symm.trans located'
  rfl

/-- A free place that a search has found is where a file is opened. -/
lemma opens_of_locate {p : Path} {place x} (h : d.locate .keep p = .ok ⟨place, x⟩) (hx : Free x) :
    d.Opens p place := by
  obtain ⟨hd, hl⟩ := free_iff.1 hx
  have hget := (of_locate_keep h hd).2
  refine ⟨x, ?_, hx⟩
  rw [← hget] at hl ⊢
  exact locate_of_keeps h hd (Keeps.refl d) (.inr hl)

/-- A file is opened at a free place below the root. -/
lemma Opens.place {p : Path} {r} (h : d.Opens p r) : r ≠ [] ∧ Free (d.get r) := by
  obtain ⟨x, located, hx⟩ := h
  obtain ⟨hne, hget, -⟩ := of_walk_entry (of_locate located).2 (by simp) (free_iff.1 hx).1
  exact ⟨hne, hget ▸ hx⟩

/-- The ways are kept when the file is written, and no way is new. -/
lemma Opens.keeps {p : Path} {r content} (h : d.Opens p r) (saved : Sets d r (some (.file content)) d') :
    Keeps d d' ∧ Keeps d' d := by
  obtain ⟨hd, hl⟩ := free_iff.1 h.place.2
  exact ⟨saved.keeps hd hl (by simp), saved.symm.keeps (by simp [saved.at]) (by simp [saved.at]) hl⟩

/-- What has been written to a path is found there. -/
lemma Opens.find {p : Path} {r content} (h : d.Opens p r) (saved : Sets d r (some (.file content)) d') :
    d'.find p = .ok (some (.file content)) := by
  have hk := (h.keeps saved).1
  obtain ⟨x, located, hx⟩ := h
  obtain ⟨hfit, hw⟩ := of_locate located
  obtain ⟨-, -, found⟩ := of_walk_entry hw (by simp) (free_iff.1 hx).1
  have hstart : d'.startOf p = d.startOf p := by simp [startOf, hk.here]
  refine find_eq_some.2 ⟨r, ?_⟩
  rw [locate_eq hfit, hstart, found hk saved.at]
  rfl

/-- A text is saved exactly where its path opens a file. -/
lemma saveAt_eq_ok {p : Path} {content : ByteArray} :
    d.saveAt p content = .ok d' ↔ ∃ r, d.Opens p r ∧ d' = d.put r (.file content) := by
  cases hl : d.locate .make p with
  | error f => simp [saveAt, Opens, hl, bind, Except.bind]
  | ok spot =>
    obtain ⟨r, x⟩ := spot
    cases x with
    | none => simp [saveAt, Opens, Free, hl, bind, Except.bind, eq_comm]
    | some entry => cases entry <;> simp [saveAt, Opens, Free, hl, failure, bind, Except.bind, eq_comm]

/-- Exactly what is there and is no directory is removed. -/
lemma remove_eq_ok {p : Path} :
    d.remove p = .ok d' ↔ ∃ place x, d.locate .keep p = .ok ⟨place, some x⟩ ∧ x ≠ .directory ∧ d' = d.erase place := by
  cases hl : d.locate .keep p with
  | error f => simp [remove, hl, bind, Except.bind]
  | ok spot =>
    obtain ⟨r, x⟩ := spot
    cases x with
    | none => simp [remove, hl, failure, bind, Except.bind]
    | some entry => cases entry <;> simp [remove, hl, failure, bind, Except.bind, eq_comm]

/-- An operation that finds something has walked its path. -/
lemma walkPath_of_locate {e : Ending} {r : Path} {spot : Spot} (h : d.locate e r = .ok spot) :
    unfitPath? r = none ∧ d.walkPath e r = .ok spot := by
  obtain ⟨hfit, hw⟩ := of_locate h
  have hshort := hfit.short
  refine ⟨hfit.letters, ?_⟩
  rw [walkPath, if_neg (by omega), hw]

/-- What is moved is there and is no directory, and neither is what is at its new place. -/
lemma move_eq_ok {a b : Path} :
    d.move a b = .ok d' ↔ ∃ old e new y, d.locate .keep a = .ok ⟨old, some e⟩ ∧ e ≠ .directory ∧
      d.locate .keep b = .ok ⟨new, y⟩ ∧ y ≠ some .directory ∧ d' = (d.erase old).put new e := by
  have located {r : Path} {spot : Spot} (hfit : unfitPath? r = none) (hw : d.walkPath .keep r = .ok spot) :
      d.locate .keep r = .ok spot := by simp [locate, hfit, hw, Except.mapError]
  constructor
  · intro h
    unfold move at h
    split at h
    · cases h
    next hunfit =>
    obtain ⟨hfitOld, hfitNew⟩ := Option.or_eq_none_iff.1 (Option.eq_none_iff_forall_ne_some.2 hunfit)
    split at h
    · cases h
    · cases h
    next old new hwOld hwNew =>
    obtain ⟨old, x⟩ := old
    obtain ⟨new, y⟩ := new
    have hold := located hfitOld hwOld
    have hnew := located hfitNew hwNew
    split at h
    · cases h
    · dsimp only at h
      split at h
      · cases h
      · cases h
      · cases h
      next e hdir hfree =>
        cases h
        exact ⟨old, e, new, y, hold, by simpa using hdir, hnew, by simpa using hfree, rfl⟩
  · rintro ⟨old, e, new, y, hold, he, hnew, hy, rfl⟩
    obtain ⟨hfitOld, hwOld⟩ := walkPath_of_locate hold
    obtain ⟨hfitNew, hwNew⟩ := walkPath_of_locate hnew
    obtain ⟨front, name, m, q, hparts, rfl, hn, -⟩ := exists_leads_of_entry (of_locate hnew).2 hy
    have hbusy : ¬(b.name? = none ∨ b.name? = some ((".." : String) : Text)) := by
      simp [Path.name?, hparts, hn.notParent]
    simp only [move, hfitOld, hfitNew, Option.or_none, hwOld, hwNew]
    rw [if_neg hbusy]

section

variable {p : Path} {q : Place} {name : Text}

/-- A name that operations can use in the directory of a path. -/
structure Nameable (p : Path) (name : Text) : Prop where
  plain : IsPlain name
  fits : (p.child name).Fits
  short : name.fileBytes ≤ nameLimit

/-- A name that operations can use in the directory of a path, and that no link has. -/
structure Reachable (d : Disk) (p : Path) (name : Text) : Prop extends Nameable p name where
  noLink : d.NoLinkNamed name

/-- What could be reached can be reached where ways are kept. -/
lemma Reachable.keeps (h : d.Reachable p name) (hk : Keeps d d') : d'.Reachable p name :=
  ⟨h.toNameable, h.noLink.keeps hk⟩

/-- A name that can be reached is found in the directory that the path leads to. -/
lemma Reachable.locate {e : Ending} (h : d.Reachable p name) (hp : d.LeadsTo p q) :
    d.locate e (p.child name) = .ok ⟨name :: q, d.get (name :: q)⟩ :=
  locate_child hp h.fits h.plain h.short (.inr (h.noLink q))

/-- An entry that an operation has found can be named. -/
lemma reachable_of_locate {e : Ending} {spot : Spot} (h : d.locate e (p.child name) = .ok spot)
    (hn : IsPlain name) (hl : d.NoLinkNamed name) :
    d.Reachable p name ∧ ∃ q, d.LeadsTo p q ∧ spot = ⟨name :: q, d.get (name :: q)⟩ := by
  obtain ⟨hfit, hs, hq⟩ := of_locate_child h hn hl
  exact ⟨⟨⟨hn, hfit, hs⟩, hl⟩, hq⟩

/-- What was saved under a name that is no link is in the directory of the path. -/
lemma of_saveAt_child {content : ByteArray} (h : d.saveAt (p.child name) content = .ok d') (hn : IsPlain name)
    (hl : d.NoLinkNamed name) :
    d.Reachable p name ∧ ∃ q, d.LeadsTo p q ∧ d.get (name :: q) ≠ some .directory ∧
      Sets d (name :: q) (some (.file content)) d' := by
  obtain ⟨r, ⟨x, located, hx⟩, rfl⟩ := saveAt_eq_ok.1 h
  obtain ⟨reach, q, hq, heq⟩ := reachable_of_locate located hn hl
  cases heq
  exact ⟨reach, q, hq, (free_iff.1 hx).1, sets_put d name q _⟩

/-- What is removed is a file, if no link has its name. -/
lemma of_remove_child (h : d.remove (p.child name) = .ok d') (hn : IsPlain name) (hl : d.NoLinkNamed name) :
    ∃ q, d.LeadsTo p q ∧ d.get (name :: q) ≠ some .directory ∧ Sets d (name :: q) none d' := by
  obtain ⟨place, x, located, hx, rfl⟩ := remove_eq_ok.1 h
  obtain ⟨-, q, hq, heq⟩ := reachable_of_locate located hn hl
  rw [Spot.mk.injEq] at heq
  obtain ⟨rfl, hg⟩ := heq
  refine ⟨q, hq, ?_, sets_erase d name q⟩
  rw [← hg]
  simpa using hx

/-- What is moved is a file, if no link has its name. -/
lemma of_move_child {new : Text} (h : d.move (p.child name) (p.child new) = .ok d') (hn : IsPlain name)
    (hl : d.NoLinkNamed name) (hn' : IsPlain new) (hl' : d.NoLinkNamed new) :
    d.Reachable p new ∧ ∃ q content, d.LeadsTo p q ∧ d.get (name :: q) = some (.file content) ∧
      d.get (new :: q) ≠ some .directory ∧ d' = (d.erase (name :: q)).put (new :: q) (.file content) := by
  obtain ⟨old, e, place, y, located, he, target, hy, rfl⟩ := move_eq_ok.1 h
  obtain ⟨-, q, hq, heq⟩ := reachable_of_locate located hn hl
  obtain ⟨hnew, q', hq', heq'⟩ := reachable_of_locate target hn' hl'
  cases hq.unique hq'
  cases heq'
  rw [Spot.mk.injEq] at heq
  obtain ⟨rfl, hg⟩ := heq
  cases e with
  | directory => exact absurd rfl he
  | link target => exact absurd hg.symm (hl q target)
  | file content => exact ⟨hnew, q, content, hq, hg.symm, hy, rfl⟩

end

end Disk

end TaggedGrammar.Files
