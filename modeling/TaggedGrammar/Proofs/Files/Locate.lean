import TaggedGrammar.Files.Operations
import TaggedGrammar.Proofs.Files.Walk

/-!
# Entries of a directory

How operations find the entry with a name in the directory that a path leads to. The path has to be one that
operations take, and the name one that is no link; then the entry is what the disk holds at the name below
the directory.
-/

namespace TaggedGrammar.Files

/-- A path that operations take: it is written with letters that file names have, and it is not too long. -/
structure Path.Fits (p : Path) : Prop where
  letters : Disk.unfitPath? p = none
  short : p.text.fileBytes ≤ pathLimit

namespace Path

/-- The bytes of two texts add up. -/
lemma fileBytes_append (s t : Text) : (s ++ t).fileBytes = s.fileBytes + t.fileBytes := by
  induction s with
  | nil => simp [Text.fileBytes]
  | cons l rest ih => cases l <;> simp [Text.fileBytes, ih, Nat.add_assoc]

/-- A last text is joined behind a separator. -/
lemma join_concat (sep t : Text) {texts : List Text} (h : texts ≠ []) :
    Text.join sep (texts ++ [t]) = Text.join sep texts ++ sep ++ t := by
  induction texts with
  | nil => exact absurd rfl h
  | cons first rest ih =>
    cases rest with
    | nil => simp [Text.join, List.intercalate]
    | cons second rest =>
      have hrest := ih (by simp)
      simp only [Text.join, List.intercalate, List.cons_append, List.intersperse_cons_cons,
        List.flatten_cons] at hrest ⊢
      rw [hrest]
      simp

/-- The text of an entry's path begins with that of the directory, unless that is the empty path. -/
lemma text_child (p : Path) (name : Text) :
    (p.child name).text = p.text ++ [.char '/'] ++ name ∨
      (p.parts = [] ∧ (p.child name).text = List.replicate p.slashes (.char '/') ++ name) := by
  by_cases h : p.parts = []
  · right
    refine ⟨h, ?_⟩
    simp [text, child, h, Text.join, List.intercalate]
  · left
    have hself : ¬(p.slashes = 0 ∧ p.parts = []) := fun hp => h hp.2
    have hslash : (("/" : String) : Text) = [.char '/'] := rfl
    simp only [text, child, if_neg hself]
    rw [join_concat _ _ h, hslash]
    simp

/-- What is put behind a name is put behind the path. -/
lemma text_child_append (p : Path) (name more : Text) :
    (p.child (name ++ more)).text = (p.child name).text ++ more := by
  by_cases h : p.parts = []
  · simp [text, child, h, Text.join, List.intercalate]
  · simp [text, child, join_concat _ _ h]

/-- The letters of a directory's path are letters of an entry's path, or points. -/
lemma mem_text_child {p : Path} {name : Text} {l : Letter} (h : l ∈ p.text) :
    l ∈ (p.child name).text ∨ l = .char '.' := by
  rcases p.text_child name with hc | ⟨hp, hc⟩
  · left
    rw [hc]
    simp [h]
  · rw [hc]
    unfold text at h
    split at h
    · right
      simpa [Text.ofString, Text.ofChars] using h
    · left
      rw [hp] at h
      simp_all [Text.join, List.intercalate]

/-- A path is fit if each of its letters is. -/
lemma unfitPath?_eq_none {p : Path} :
    Disk.unfitPath? p = none ↔ ∀ l ∈ p.text, Text.canBeInName l = true ∧ l ≠ .char '\x00' := by
  unfold Disk.unfitPath? Disk.hasNull
  by_cases hall : p.text.all Text.canBeInName = true
  · by_cases hnull : p.text.contains (.char '\x00') = true
    · simp only [hall, hnull, Bool.not_true, Bool.false_eq_true, if_false, if_true]
      simp only [List.contains_iff_mem] at hnull
      simpa using ⟨_, hnull, fun _ => rfl⟩
    · simp only [hall, hnull, Bool.not_true, Bool.false_eq_true, if_false, true_iff]
      rw [List.all_eq_true] at hall
      intro l hl
      refine ⟨hall l hl, ?_⟩
      rintro rfl
      exact hnull (List.contains_iff_mem.2 hl)
  · simp only [hall, Bool.not_false, if_true, reduceCtorEq, false_iff]
    intro hletters
    exact hall (List.all_eq_true.2 fun l hl => (hletters l hl).1)

/-- The directory of a fit path is fit. -/
lemma letters_of_child {p : Path} {name : Text} (h : Disk.unfitPath? (p.child name) = none) :
    Disk.unfitPath? p = none := by
  rw [unfitPath?_eq_none] at h ⊢
  intro l hl
  rcases mem_text_child hl with hc | rfl
  · exact h l hc
  · exact ⟨rfl, by decide⟩

/-- The directory of a path that operations take is taken, too. -/
lemma Fits.of_child {p : Path} {name : Text} (h : (p.child name).Fits) : p.Fits := by
  constructor
  · exact letters_of_child h.letters
  · have hshort := h.short
    rcases p.text_child name with hc | ⟨hp, hc⟩
    · rw [hc, fileBytes_append, fileBytes_append] at hshort
      omega
    · rw [hc, fileBytes_append] at hshort
      unfold text
      split
      · decide
      · rw [hp]
        simp only [Text.join, List.intercalate, List.intersperse_nil, List.flatten_nil, List.append_nil]
        omega

end Path

namespace Disk

variable {d d' : Disk} {e : Ending}

/-- No link has this name, wherever it may be. -/
def NoLinkNamed (d : Disk) (name : Text) : Prop :=
  ∀ q target, d.get (name :: q) ≠ some (.link target)

/-- A path leads to a directory. -/
def LeadsTo (d : Disk) (p : Path) (q : Place) : Prop :=
  ∃ m, d.Leads linkLimit (d.startOf p) p.parts m q

/-- Where ways are kept a path leads to where it has led. -/
lemma LeadsTo.mono {p q} (h : d.LeadsTo p q) (hk : Keeps d d') : d'.LeadsTo p q := by
  obtain ⟨m, way⟩ := h
  have hstart : d'.startOf p = d.startOf p := by simp [startOf, hk.here]
  exact ⟨m, hstart ▸ way.mono hk⟩

/-- An operation on a path that it takes walks over the names of the path. -/
lemma locate_eq {p : Path} (h : p.Fits) :
    d.locate e p =
      (d.walk e linkLimit (d.startOf p) p.parts).mapError fun problem => .file ⟨problem, p.text, none⟩ := by
  have hshort := h.short
  simp only [locate, h.letters, walkPath, if_neg (by omega : ¬pathLimit < p.text.fileBytes)]

/-- A change of errors leaves results that are well. -/
lemma mapError_eq_ok {α ε ε' : Type} {x : Except ε α} {g : ε → ε'} {a : α} :
    x.mapError g = .ok a ↔ x = .ok a := by
  cases x <;> simp [Except.mapError]

/-- What an operation has found was found by a walk over a path that it takes. -/
lemma of_locate {p : Path} {spot : Spot} (h : d.locate e p = .ok spot) :
    p.Fits ∧ d.walk e linkLimit (d.startOf p) p.parts = .ok spot := by
  cases hfit : unfitPath? p with
  | some f => simp [locate, hfit] at h
  | none =>
    by_cases hshort : p.text.fileBytes ≤ pathLimit
    · rw [locate_eq ⟨hfit, hshort⟩, mapError_eq_ok] at h
      exact ⟨⟨hfit, hshort⟩, h⟩
    · simp [locate, hfit, walkPath, if_pos (by omega : pathLimit < p.text.fileBytes), Except.mapError] at h

/-- A path leads to a directory exactly if an operation that follows links finds one. -/
lemma locate_follow_iff {p : Path} {q} :
    d.locate .follow p = .ok ⟨q, some .directory⟩ ↔ p.Fits ∧ d.LeadsTo p q := by
  constructor
  · intro h
    obtain ⟨hfit, hw⟩ := of_locate h
    exact ⟨hfit, walk_follow_iff.1 hw⟩
  · rintro ⟨hfit, way⟩
    rw [locate_eq hfit, walk_follow_iff.2 way]
    rfl

/-- A path at which an operation finds a directory leads to it, whether a last link is followed or not. -/
lemma leadsTo_of_locate {p : Path} {q} (h : d.locate e p = .ok ⟨q, some .directory⟩) : p.Fits ∧ d.LeadsTo p q := by
  obtain ⟨hfit, hw⟩ := of_locate h
  rw [← List.append_nil p.parts] at hw
  rcases exists_leads hw with ⟨m, r, way, hend⟩ | ⟨-, hne⟩
  · rw [walk_nil] at hend
    cases hend
    exact ⟨hfit, m, way⟩
  · exact absurd rfl hne

/-- What a path leads to is what a search that follows links finds. -/
lemma find_eq_some {p : Path} {x : Entry} :
    d.find p = .ok (some x) ↔ ∃ q, d.locate .follow p = .ok ⟨q, some x⟩ := by
  constructor
  · intro h
    unfold find at h
    split at h
    · rename_i spot hl
      obtain ⟨q, entry⟩ := spot
      cases h
      exact ⟨q, hl⟩
    · cases h
    · cases h
    · split at h <;> cases h
    · cases h
  · rintro ⟨q, hl⟩
    simp only [find, hl]

/-- A path that was looked at is not too long. -/
lemma fits_of_find {p : Path} {found} (h : d.find p = .ok found) (hletters : unfitPath? p = none) : p.Fits := by
  refine ⟨hletters, Nat.le_of_not_lt fun hlong => ?_⟩
  have located : d.locate .follow p = .error (.file ⟨.nameTooLong, p.text, none⟩) := by
    simp only [locate, hletters, walkPath, if_pos hlong]
    rfl
  simp [find, located, Problem.meansAbsent] at h

/-- A path leads to one place only. -/
lemma LeadsTo.unique {p q q'} (h : d.LeadsTo p q) (h' : d.LeadsTo p q') : q = q' := by
  have hw := walk_follow_iff.2 h
  rw [walk_follow_iff.2 h'] at hw
  cases hw
  rfl

/-- What an operation that keeps links has found at its last name is found again wherever the ways are kept. -/
lemma locate_of_keeps {p : Path} {place x} (h : d.locate .keep p = .ok ⟨place, x⟩) (hx : x ≠ some .directory)
    (hk : Keeps d d') (hl : e = .keep ∨ ∀ target, d'.get place ≠ some (.link target)) :
    d'.locate e p = .ok ⟨place, d'.get place⟩ := by
  obtain ⟨hfit, hw⟩ := of_locate h
  obtain ⟨front, name, m, q, hparts, rfl, hn, hs, way, -⟩ := exists_leads_of_entry hw hx
  have hstart : d'.startOf p = d.startOf p := by simp [startOf, hk.here]
  rw [locate_eq hfit, hstart, hparts, (way.mono hk).walk_append (.inl (by simp)) (by simp [hn.notEmpty]),
    walk_last hn hs hl]
  rfl

/-- A directory that an operation has found without following a last link is found again wherever the ways are kept. -/
lemma locate_directory_of_keeps {p : Path} {place} (h : d.locate .keep p = .ok ⟨place, some .directory⟩)
    (hk : Keeps d d') : d'.locate .keep p = .ok ⟨place, some .directory⟩ := by
  obtain ⟨hfit, hw⟩ := of_locate h
  have hstart : d'.startOf p = d.startOf p := by simp [startOf, hk.here]
  suffices hw' : d'.walk .keep linkLimit (d.startOf p) p.parts = .ok ⟨place, some .directory⟩ by
    rw [locate_eq hfit, hstart, hw']
    rfl
  rcases List.eq_nil_or_concat p.parts with hnil | ⟨front, name, hparts⟩
  · rw [hnil, walk_nil] at hw ⊢
    exact hw
  rw [hparts, List.concat_eq_append] at hw ⊢
  obtain ⟨m, q, way, last⟩ := (exists_leads hw).resolve_right fun hne => List.cons_ne_nil _ _ hne.1
  rw [(way.mono hk).walk_append (.inl (List.cons_ne_nil _ _)) (by simp)]
  rcases name_cases name with rfl | hstay | hn
  · rw [walk_up, walk_nil] at last ⊢
    exact last
  · rw [walk_stay _ _ _ hstay, walk_nil] at last ⊢
    exact last
  by_cases hs : name.fileBytes ≤ nameLimit
  · rw [walk_last hn hs (.inl rfl)] at last ⊢
    obtain ⟨rfl, hd⟩ := Spot.mk.inj (Except.ok.inj last)
    rw [hk.directory hd]
  · rw [walk_plain _ _ _ hn, if_neg (by simp), if_pos (by omega)] at last
    cases last

/-- What a search that keeps links has found is what the disk has there. -/
lemma of_locate_keep {p : Path} {place x} (h : d.locate .keep p = .ok ⟨place, x⟩) (hx : x ≠ some .directory) :
    place ≠ [] ∧ d.get place = x := by
  obtain ⟨front, name, m, q, -, rfl, -, -, -, hget⟩ := exists_leads_of_entry (of_locate h).2 hx
  exact ⟨List.cons_ne_nil _ _, hget⟩

/-- An operation finds the entry with a name in the directory that a path leads to. -/
lemma locate_child {p : Path} {q} {name : Text} (hp : d.LeadsTo p q) (hfit : (p.child name).Fits)
    (hn : IsPlain name) (hs : name.fileBytes ≤ nameLimit)
    (hl : e = .keep ∨ ∀ target, d.get (name :: q) ≠ some (.link target)) :
    d.locate e (p.child name) = .ok ⟨name :: q, d.get (name :: q)⟩ := by
  obtain ⟨m, way⟩ := hp
  have hwalk : d.walk e linkLimit (d.startOf p) (p.parts ++ [name]) = d.walk e m q [name] :=
    way.walk_append (.inl (by simp)) (by simp [hn.notEmpty])
  rw [walk_last hn hs hl] at hwalk
  rw [locate_eq hfit]
  exact congrArg (Except.mapError _) hwalk

/-- An entry whose path or name is too long is not looked for. -/
lemma locate_child_of_long {p : Path} {q} {name : Text} (hp : d.LeadsTo p q) (hn : IsPlain name)
    (hletters : unfitPath? (p.child name) = none) (hlong : ¬((p.child name).Fits ∧ name.fileBytes ≤ nameLimit)) :
    d.locate e (p.child name) = .error (.file ⟨.nameTooLong, (p.child name).text, none⟩) := by
  by_cases hshort : (p.child name).text.fileBytes ≤ pathLimit
  · have hfit : (p.child name).Fits := ⟨hletters, hshort⟩
    have hs : nameLimit < name.fileBytes := Nat.lt_of_not_le fun hs => hlong ⟨hfit, hs⟩
    obtain ⟨m, way⟩ := hp
    have hwalk : d.walk e linkLimit (d.startOf p) (p.parts ++ [name]) = d.walk e m q [name] :=
      way.walk_append (.inl (by simp)) (by simp [hn.notEmpty])
    rw [walk_plain _ _ _ hn, if_neg (by simp), if_pos hs] at hwalk
    rw [locate_eq hfit]
    exact congrArg (Except.mapError _) hwalk
  · simp [locate, hletters, walkPath, if_pos (by omega : pathLimit < (p.child name).text.fileBytes), Except.mapError]

/-- In a directory that a path leads to there is something to be found at every name, if only that nothing is there. -/
lemma exists_locate_child {p : Path} {q} {name : Text} (hp : d.LeadsTo p q) (hfit : (p.child name).Fits)
    (hs : name.fileBytes ≤ nameLimit) : ∃ spot, d.locate .keep (p.child name) = .ok spot := by
  rcases name_cases name with rfl | hstay | hn
  · obtain ⟨m, way⟩ := hp
    have led : d.LeadsTo (p.child "..") q.tail := ⟨m, way.append (.up .done)⟩
    obtain ⟨m, way⟩ := led
    obtain ⟨spot, hw, -⟩ := way.walk_keep
    exact ⟨spot, by rw [locate_eq hfit, hw]; rfl⟩
  · obtain ⟨m, way⟩ := hp
    have led : d.LeadsTo (p.child name) q := ⟨m, way.append (.stay hstay .done)⟩
    obtain ⟨m, way⟩ := led
    obtain ⟨spot, hw, -⟩ := way.walk_keep
    exact ⟨spot, by rw [locate_eq hfit, hw]; rfl⟩
  · exact ⟨_, locate_child hp hfit hn hs (.inl rfl)⟩

/-- What is found at a name is in a directory. -/
lemma exists_leadsTo_of_locate {p : Path} {name : Text} {spot : Spot} (h : d.locate e (p.child name) = .ok spot) :
    ∃ q, d.LeadsTo p q := by
  have hw : d.walk e linkLimit (d.startOf p) (p.parts ++ [name]) = .ok spot := (of_locate h).2
  obtain ⟨m, q, way, -⟩ := (exists_leads hw).resolve_right fun hne => List.cons_ne_nil _ _ hne.1
  exact ⟨q, m, way⟩

/-- A name that was reached is not too long. -/
lemma short_of_locate {p : Path} {name : Text} {spot : Spot} (h : d.locate e (p.child name) = .ok spot)
    (hn : IsPlain name) : name.fileBytes ≤ nameLimit := by
  obtain ⟨q, hq⟩ := exists_leadsTo_of_locate h
  by_contra hs
  cases h.symm.trans (locate_child_of_long hq hn (of_locate h).1.letters fun hshort => hs hshort.2)

/-- What was found at a name that is no link is in the directory of the path. -/
lemma of_locate_child {p : Path} {name : Text} {spot : Spot} (h : d.locate e (p.child name) = .ok spot)
    (hn : IsPlain name) (hl : d.NoLinkNamed name) :
    (p.child name).Fits ∧ name.fileBytes ≤ nameLimit ∧
      ∃ q, d.LeadsTo p q ∧ spot = ⟨name :: q, d.get (name :: q)⟩ := by
  have hfit := (of_locate h).1
  have hs := short_of_locate h hn
  obtain ⟨q, hq⟩ := exists_leadsTo_of_locate h
  cases h.symm.trans (locate_child hq hfit hn hs (.inr (hl q)))
  exact ⟨hfit, hs, q, hq, rfl⟩

/-- What is found at a last name that is kept is the entry with this name in the directory. -/
lemma of_locate_keep_child {p : Path} {name : Text} {place x} (h : d.locate .keep (p.child name) = .ok ⟨place, x⟩)
    (hx : x ≠ some .directory) :
    IsPlain name ∧ name.fileBytes ≤ nameLimit ∧ ∃ q, d.LeadsTo p q ∧ place = name :: q := by
  obtain ⟨front, last, m, q, hparts, rfl, hn, hs, way, -⟩ := exists_leads_of_entry (of_locate h).2 hx
  obtain ⟨rfl, hlast⟩ := List.append_inj' hparts rfl
  cases hlast
  exact ⟨hn, hs, q, ⟨m, way⟩, rfl⟩

/-- There is nothing in the directory of a path that leads to none. -/
lemma isThere_child_of_noDirectory {p : Path} {name : Text} (hno : ∀ q, ¬d.LeadsTo p q)
    (hfit : (p.child name).Fits) (hs : ∀ n ∈ (p.child name).parts, n.fileBytes ≤ nameLimit)
    (hl : d.ShortLinks) : d.isThere (p.child name) = .ok false := by
  have hfind : d.find (p.child name) = .ok none := by
    cases hw : d.walk .follow linkLimit (d.startOf (p.child name)) (p.child name).parts with
    | ok spot =>
      change d.walk .follow linkLimit (d.startOf p) (p.parts ++ [name]) = .ok spot at hw
      rcases exists_leads hw with ⟨m, q, way, -⟩ | ⟨hne, -⟩
      · exact absurd ⟨m, way⟩ (hno q)
      · cases hne
    | error problem =>
      have habsent := meansAbsent_of_walk hl hs hw
      simp [find, locate_eq hfit, hw, Except.mapError, habsent]
  rw [isThere, hfind]
  rfl

end Disk

end TaggedGrammar.Files
