import TaggedGrammar.Output.Write
import TaggedGrammar.Proofs.Files.Operations
import TaggedGrammar.Proofs.Files.Refusal

/-!
# How the writing of a document ends

A document is opened beside its place, where there may be anything: a file, a link that leads elsewhere, a directory.
`Completes` lists what can happen on the disk that has the directory of the document, and `ends_writeDocument_on` says
that a writing ends in one of these ways, whatever the disk and the path are. The parts of the program are followed one
by one: `of_save` for the file beside the place, `Tidies` for what is done after a failure.
-/

namespace TaggedGrammar.Output

open Files Files.Disk Run

/-- The name of the file beside a document, which holds it until it takes its place. -/
def tempName (name : Text) : Text :=
  name ++ Files.Path.temporaryEnding

/-- The file beside a document has another name. -/
lemma tempName_ne (name : Text) : tempName name ≠ name := by
  intro h
  have hlength := congrArg List.length h
  simp [tempName, Files.Path.temporaryEnding, Text.ofString, Text.ofChars] at hlength

/-- The file beside a document has the name of an entry. -/
lemma isPlain_tempName (name : Text) : IsPlain (tempName name) := by
  have hlength : 4 ≤ (tempName name).length := by
    simp [tempName, Files.Path.temporaryEnding, Text.ofString, Text.ofChars]
  constructor <;> intro h <;> rw [h] at hlength <;> revert hlength <;> decide

/-- The directory of a path is what is in front of its last name. -/
lemma parent_child (p : Files.Path) (name : Text) : (p.child name).parent = p := by
  simp [Files.Path.child, Files.Path.parent]

/-- The ending of a name is at its end. -/
lemma ending_suffix (name : Text) : Files.Path.ending name <:+ name := by
  have parts := List.takeWhile_append_dropWhile (p := fun l => decide (l ≠ Letter.char '.')) (l := name.reverse)
  have point := List.head?_dropWhile_not (fun l => decide (l ≠ Letter.char '.')) name.reverse
  unfold Files.Path.ending
  generalize name.reverse.takeWhile (· ≠ Letter.char '.') = behind,
    name.reverse.dropWhile (· ≠ Letter.char '.') = front at parts point ⊢
  dsimp only
  split
  · exact List.nil_suffix
  · next h =>
    cases front with
    | nil => simp at h
    | cons l rest =>
      have hl : l = .char '.' := by simpa using point
      refine ⟨rest.reverse, ?_⟩
      rw [← List.reverse_reverse name, ← parts, hl]
      simp

/-- What is put behind the ending of a name is put behind the name. -/
lemma withEnding_ending (name more : Text) :
    Files.Path.withEnding name (Files.Path.ending name ++ more) = name ++ more := by
  obtain ⟨front, hfront⟩ := ending_suffix name
  have stem : name.take (name.length - (Files.Path.ending name).length) = front := by
    generalize Files.Path.ending name = ending at hfront
    rw [← hfront, List.length_append, Nat.add_sub_cancel, List.take_left]
  rw [Files.Path.withEnding, stem, ← List.append_assoc, hfront]

/-- The file beside a document is in the same directory. -/
lemma temporary?_child (p : Files.Path) (name : Text) :
    (p.child name).temporary? = some (p.child (tempName name)) := by
  have hname : (p.child name).name? = some name := by simp [Files.Path.child, Files.Path.name?]
  simp only [Files.Path.temporary?, parent_child, hname, Option.map_some, withEnding_ending, tempName]

/-- A path with a file beside it has a last name. -/
lemma exists_child_of_temporary? {path temp : Files.Path} (h : path.temporary? = some temp) :
    ∃ (p : Files.Path) (name : Text), path = p.child name ∧ temp = p.child (tempName name) := by
  obtain ⟨name, hname, -⟩ := Option.map_eq_some_iff.1 h
  have hpath : path = path.parent.child name := by
    have hparts : path.parts.dropLast ++ [name] = path.parts := List.dropLast_append_getLast? name hname
    cases path
    simpa [Files.Path.child, Files.Path.parent, eq_comm] using hparts
  rw [hpath, temporary?_child] at h
  exact ⟨path.parent, name, hpath, (Option.some.inj h).symm⟩

/-- The ending of the file beside a document has only letters that a path can have. -/
lemma unfitPath?_tempName (p : Files.Path) (name : Text) :
    unfitPath? (p.child (tempName name)) = unfitPath? (p.child name) := by
  have text : (p.child (tempName name)).text = (p.child name).text ++ Files.Path.temporaryEnding :=
    Path.text_child_append p name _
  have letters : (p.child (tempName name)).text.all Text.canBeInName = (p.child name).text.all Text.canBeInName := by
    rw [text, List.all_append, (by decide : Files.Path.temporaryEnding.all Text.canBeInName = true), Bool.and_true]
  have null : hasNull (p.child (tempName name)) = hasNull (p.child name) := by
    rw [hasNull, text, List.contains_append, (by decide : Files.Path.temporaryEnding.contains (.char '\x00') = false),
      Bool.or_false, hasNull]
  rw [unfitPath?, unfitPath?, letters, null]

/-- Where there is room for the file beside a document there is room for the document. -/
lemma fits_of_tempName {p : Files.Path} {name : Text} (h : (p.child (tempName name)).Fits)
    (hs : (tempName name).fileBytes ≤ nameLimit) : (p.child name).Fits ∧ name.fileBytes ≤ nameLimit := by
  obtain ⟨hletters, hshort⟩ := h
  rw [tempName, Path.text_child_append, Path.fileBytes_append] at hshort
  rw [tempName, Path.fileBytes_append] at hs
  obtain ⟨hp, hname⟩ := Path.unfitPath?_child.1 hletters
  refine ⟨⟨Path.unfitPath?_child.2 ⟨hp, fun l hl => ?_⟩, by omega⟩, by omega⟩
  exact hname l (List.mem_append_left _ hl)

/-- How the writing of a document ends, on the disk `d` as it is once the directory of the document has been made. -/
inductive Completes (d : Disk) (path temp : Files.Path) (text : Text) : Except Fault Unit → Disk → Prop where
  /-- There is no directory. -/
  | noDirectory {cause} :
    (∀ q, ¬d.LeadsTo path.parent q) →
    (∀ place x, d.locate .keep temp ≠ .ok ⟨place, x⟩) →
    Completes d path temp text (.error (.writeFailed path.text cause)) d
  /-- What is beside the place once the document is written has been moved to it. -/
  | moved {r beside place content x y e d₁ d₂ d'} :
    text.bytes? = some content →
    d.Opens temp r →
    d.locate .keep temp = .ok ⟨beside, x⟩ → x ≠ some .directory →
    d.locate .keep path = .ok ⟨place, y⟩ → y ≠ some .directory →
    beside ≠ place →
    Sets d r (some (.file content)) d₁ →
    d₁.get beside = some e →
    Sets d₁ beside none d₂ →
    Sets d₂ place (some e) d' →
    Completes d path temp text (.ok ()) d'
  /-- A directory is in the place. -/
  | blocked {r beside place content x cause d₁ d'} :
    text.bytes? = some content →
    d.Opens temp r →
    d.locate .keep temp = .ok ⟨beside, x⟩ → x ≠ some .directory →
    d.locate .keep path = .ok ⟨place, some .directory⟩ →
    Sets d r (some (.file content)) d₁ →
    Sets d₁ beside none d' →
    Completes d path temp text (.error (.writeFailed path.text cause)) d'
  /-- The document has no bytes. -/
  | unwritable {r d'} :
    text.bytes? = none →
    d.Opens temp r →
    Sets d r (some (.file .empty)) d' →
    Completes d path temp text (.error .notEncodable) d'
  /-- A link is beside the place, and it leads to nothing that can be written. -/
  | unopened {beside target cause d'} :
    d.locate .keep temp = .ok ⟨beside, some (.link target)⟩ →
    (∀ r, ¬d.Opens temp r) →
    d' = d ∨ Sets d beside none d' →
    Completes d path temp text (.error (.writeFailed path.text cause)) d'
  /-- A directory is beside the place. -/
  | obstructed {beside} :
    d.locate .keep temp = .ok ⟨beside, some .directory⟩ →
    (∀ r, ¬d.Opens temp r) →
    Completes d path temp text (.error (.file ⟨.isDirectory, temp.text, none⟩)) d
  /-- What is beside the place cannot be looked at. -/
  | unseen {f} :
    d.find temp = .error f →
    (∀ r, ¬d.Opens temp r) →
    Completes d path temp text (.error f) d

/-- What is done about the file beside the place after a failure, and the fault that is told. -/
inductive Tidies (d : Disk) (path temp : Files.Path) (cause : Failure) : Except Fault Unit → Disk → Prop where
  | unseen {f} :
    d.find temp = .error f →
    Tidies d path temp cause (.error f) d
  | absent :
    d.find temp = .ok none →
    Tidies d path temp cause (.error (.writeFailed path.text cause)) d
  | removed {place x y} :
    d.locate .keep temp = .ok ⟨place, some x⟩ → x ≠ .directory →
    d.find temp = .ok (some y) →
    Tidies d path temp cause (.error (.writeFailed path.text cause)) (d.erase place)
  | obstructed {place y} :
    d.locate .keep temp = .ok ⟨place, some .directory⟩ →
    d.find temp = .ok (some y) →
    Tidies d path temp cause (.error (.file ⟨.isDirectory, temp.text, none⟩)) d

section

variable {d d₁ d' : Disk} {path temp p : Files.Path} {name text : Text} {r : Place} {cause : Failure}
variable {s s₁ s' : Session} {res : Except Fault Unit}

/-- After a failure the file beside the place is looked for and removed. -/
lemma of_tidy (h : Ends (do cleanUp temp; fail (.writeFailed path.text cause) : Run Unit) s res s') :
    s'.memory = s.memory ∧ Tidies s.disk path temp cause res s'.disk := by
  have looked {there y s₁} (hthere : s.disk.isThere temp = .ok there)
      (rest : Ends (if there then change (·.remove temp) else pure ()) s y s₁) : Ends (cleanUp temp) s y s₁ :=
    Ends.bind (ends_inspect.2 ⟨hthere.symm, rfl⟩) rest
  cases hfind : s.disk.find temp with
  | error f =>
    have failed : s.disk.isThere temp = .error f := by
      rw [isThere, hfind]
      rfl
    have cleaned : Ends (cleanUp temp) s (.error f) s := Ends.bind_error (ends_inspect.2 ⟨failed.symm, rfl⟩)
    obtain ⟨rfl, rfl⟩ := h.unique (Ends.bind_error cleaned)
    exact ⟨rfl, .unseen hfind⟩
  | ok found =>
    have hthere : s.disk.isThere temp = .ok found.isSome := by
      rw [isThere, hfind]
      rfl
    cases found with
    | none =>
      have cleaned := looked hthere (ends_pure.2 ⟨rfl, rfl⟩)
      obtain ⟨rfl, rfl⟩ := h.unique (Ends.bind cleaned (ends_fail.2 ⟨rfl, rfl⟩))
      exact ⟨rfl, .absent hfind⟩
    | some x =>
      cases removed : s.disk.remove temp with
      | ok d =>
        have tried : Ends (change (·.remove temp)) s (.ok ()) { s with disk := d } :=
          ends_change.2 (.inl ⟨d, removed, rfl, rfl⟩)
        obtain ⟨rfl, rfl⟩ := h.unique (Ends.bind (looked hthere tried) (ends_fail.2 ⟨rfl, rfl⟩))
        obtain ⟨place, x, located, hx, rfl⟩ := remove_eq_ok.1 removed
        exact ⟨rfl, .removed located hx hfind⟩
      | error f =>
        have tried : Ends (change (·.remove temp)) s (.error f) s :=
          ends_change.2 (.inr ⟨f, removed, rfl, rfl⟩)
        obtain ⟨rfl, rfl⟩ := h.unique (Ends.bind_error (looked hthere tried))
        obtain ⟨⟨place, located⟩, rfl⟩ := remove_eq_error hthere removed
        exact ⟨rfl, .obstructed located hfind⟩

/-- A text is written where the path opens a file, and without one the path is refused. -/
lemma of_save (h : Ends (save temp text) s res s') (hfit : unfitPath? temp = none) :
    (∃ r content, text.bytes? = some content ∧ s.disk.Opens temp r ∧ res = .ok () ∧
        s' = { s with disk := s.disk.put r (.file content) }) ∨
      (∃ r, text.bytes? = none ∧ s.disk.Opens temp r ∧ res = .error .notEncodable ∧
        s' = { s with disk := s.disk.put r (.file .empty) }) ∨
      ((∀ r, ¬s.disk.Opens temp r) ∧ ∃ cause, res = .error (.file cause) ∧ s' = s) := by
  have refused {content : ByteArray} {f : Fault} (failed : s.disk.saveAt temp content = .error f) :
      (∀ r, ¬s.disk.Opens temp r) ∧ ∃ cause, f = .file cause := by
    constructor
    · intro r opened
      cases failed.symm.trans (saveAt_eq_ok.2 ⟨r, opened, rfl⟩)
    · cases refuses_of_saveAt failed with
      | file => exact ⟨_, rfl⟩
      | unfit hunfit => exact absurd hfit hunfit
  unfold save at h
  cases hb : text.bytes? with
  | some content =>
    rw [hb] at h
    rcases ends_change.1 h with ⟨d, saved, rfl, rfl⟩ | ⟨f, failed, rfl, rfl⟩
    · obtain ⟨r, opened, rfl⟩ := saveAt_eq_ok.1 saved
      exact .inl ⟨r, content, rfl, opened, rfl, rfl⟩
    · obtain ⟨hno, cause, rfl⟩ := refused failed
      exact .inr (.inr ⟨hno, cause, rfl, rfl⟩)
  | none =>
    rw [hb] at h
    rcases ends_bind.1 h with ⟨_, s₁, emptied, failed⟩ | ⟨f, emptied, rfl⟩
    · obtain ⟨rfl, rfl⟩ := ends_fail.1 failed
      rcases ends_change.1 emptied with ⟨d, saved, -, rfl⟩ | ⟨f, -, heq, -⟩
      · obtain ⟨r, opened, rfl⟩ := saveAt_eq_ok.1 saved
        exact .inr (.inl ⟨r, rfl, opened, rfl, rfl⟩)
      · cases heq
    · rcases ends_change.1 emptied with ⟨d, -, heq, -⟩ | ⟨f, failed, heq, rfl⟩
      · cases heq
      · cases heq
        obtain ⟨hno, cause, rfl⟩ := refused failed
        exact .inr (.inr ⟨hno, cause, rfl, rfl⟩)

/-- Without a directory there is nothing to clean up, or it cannot be looked for. -/
lemma completes_of_noDirectory (hletters : unfitPath? (p.child (tempName name)) = none)
    (hno : ¬(p.Fits ∧ ∃ q, d.LeadsTo p q))
    (h : Tidies d (p.child name) (p.child (tempName name)) cause res d') :
    Completes d (p.child name) (p.child (tempName name)) text res d' := by
  have notFound {place x} (located : d.locate .keep (p.child (tempName name)) = .ok ⟨place, x⟩) : False :=
    hno ⟨(of_locate located).1.of_child, exists_leadsTo_of_locate located⟩
  cases h with
  | unseen failed =>
    refine .unseen failed fun r opened => hno ?_
    obtain ⟨x, made, -⟩ := opened
    exact ⟨(of_locate made).1.of_child, exists_leadsTo_of_locate made⟩
  | absent hnone =>
    refine .noDirectory (fun q hq => hno ⟨?_, q, ?_⟩) fun _ _ located => notFound located
    · exact (fits_of_find hnone hletters).of_child
    · rwa [parent_child] at hq
  | removed located => exact absurd located notFound
  | obstructed located => exact absurd located notFound

/-- A path beside a document that cannot be opened is too long, or a directory or a link is there. -/
lemma completes_of_unopened {q} (hp : d.LeadsTo p q) (hletters : unfitPath? (p.child (tempName name)) = none)
    (hno : ∀ r, ¬d.Opens (p.child (tempName name)) r)
    (h : Tidies d (p.child name) (p.child (tempName name)) cause res d') :
    Completes d (p.child name) (p.child (tempName name)) text res d' := by
  have isLink {place x} (located : d.locate .keep (p.child (tempName name)) = .ok ⟨place, x⟩)
      (hx : x ≠ some .directory) : ∃ target, x = some (.link target) := by
    by_contra hl
    exact hno _ (opens_of_locate located (free_iff.2 ⟨hx, not_exists.1 hl⟩))
  cases h with
  | unseen failed => exact .unseen failed hno
  | obstructed located => exact .obstructed located hno
  | removed located hx =>
    obtain ⟨target, heq⟩ := isLink located (by simpa using hx)
    cases heq
    exact .unopened located hno (.inr (sets_erase_of_ne_nil (of_locate_keep located (by simp)).1))
  | absent hnone =>
    have hn := isPlain_tempName name
    by_cases hlong : (p.child (tempName name)).Fits ∧ (tempName name).fileBytes ≤ nameLimit
    · have located := @locate_child d .keep p q _ hp hlong.1 hn hlong.2 (.inl rfl)
      have notDirectory : d.get (tempName name :: q) ≠ some .directory := by
        intro hd
        have found := @locate_child d .follow p q _ hp hlong.1 hn hlong.2 (.inr (by simp [hd]))
        rw [hd] at found
        cases hnone.symm.trans (find_eq_some.2 ⟨_, found⟩)
      obtain ⟨target, hlink⟩ := isLink located notDirectory
      rw [hlink] at located
      exact .unopened located hno (.inl rfl)
    · have located := @locate_child_of_long d .follow p q _ hp hn hletters hlong
      simp [find, located, Problem.meansAbsent] at hnone

/-- Once a file has been written beside a document, that or a link to it is there. -/
lemma exists_locate_of_opens (hn : IsPlain name) (opened : d.Opens (p.child name) r) {content}
    (saved : Sets d r (some (.file content)) d₁) :
    ∃ q x e, d.LeadsTo p q ∧ (p.child name).Fits ∧ name.fileBytes ≤ nameLimit ∧
      d.locate .keep (p.child name) = .ok ⟨name :: q, x⟩ ∧ x ≠ some .directory ∧
      d₁.locate .keep (p.child name) = .ok ⟨name :: q, some e⟩ ∧ e ≠ .directory := by
  obtain ⟨x, made, hx⟩ := opened
  obtain ⟨q, hq⟩ := exists_leadsTo_of_locate made
  have hfit := (of_locate made).1
  have hs := short_of_locate made hn
  have located := @locate_child d .keep p q _ hq hfit hn hs (.inl rfl)
  have notDirectory : d.get (name :: q) ≠ some .directory := by
    intro hd
    have found := @locate_child d .make p q _ hq hfit hn hs (.inr (by simp [hd]))
    rw [hd] at found
    cases made.symm.trans found
    exact (free_iff.1 hx).1 rfl
  have opened : d.Opens (p.child name) r := ⟨x, made, hx⟩
  have located₁ := locate_of_keeps located notDirectory (opened.keeps saved).1 (.inl rfl)
  refine ⟨q, d.get (name :: q), ?_⟩
  by_cases hr : name :: q = r
  · refine ⟨.file content, hq, hfit, hs, located, notDirectory, ?_, by simp⟩
    rw [located₁, hr, saved.at]
  · rw [saved.elsewhere hr] at located₁
    cases hget : d.get (name :: q) with
    | none =>
      rw [hget] at located
      exact absurd ((opens_of_locate located (.inl rfl)).unique opened) hr
    | some e =>
      rw [hget] at located located₁ notDirectory
      exact ⟨e, hq, hfit, hs, located, notDirectory, located₁, by simpa using notDirectory⟩

/-- A move takes what is beside the place into it. -/
lemma completes_of_move {content} (hb : text.bytes? = some content) (opened : d.Opens (p.child (tempName name)) r)
    (saved : Sets d r (some (.file content)) d₁)
    (moved : d₁.move (p.child (tempName name)) (p.child name) = .ok d') :
    Completes d (p.child name) (p.child (tempName name)) text (.ok ()) d' := by
  obtain ⟨keeps, keepsBack⟩ := opened.keeps saved
  obtain ⟨q, x, e, -, -, -, located, hx, located₁, he⟩ :=
    exists_locate_of_opens (isPlain_tempName name) opened saved
  obtain ⟨old, e', place, y, hold, -, target, hy, rfl⟩ := move_eq_ok.1 moved
  cases located₁.symm.trans hold
  obtain ⟨hne, hget⟩ := of_locate_keep target hy
  have apart : tempName name :: q ≠ place := by
    obtain ⟨-, -, q', -, rfl⟩ := of_locate_keep_child target hy
    exact fun heq => tempName_ne name (List.cons.inj heq).1
  have notDirectory : d.get place ≠ some .directory := by
    intro hd
    exact hy (hget.symm.trans (keeps.directory hd))
  have beside := (of_locate_keep located₁ (by simpa using he)).2
  have target₀ := locate_of_keeps target hy keepsBack (.inl rfl)
  exact .moved hb opened located hx target₀ notDirectory apart saved beside (sets_erase _ _ _)
    (sets_put_of_ne_nil hne _)

/-- What has been written beside a document is kept from its place by a directory only. -/
lemma completes_of_refusal {content f} (hb : text.bytes? = some content)
    (opened : d.Opens (p.child (tempName name)) r) (saved : Sets d r (some (.file content)) d₁)
    (refused : d₁.move (p.child (tempName name)) (p.child name) = .error f)
    (h : Tidies d₁ (p.child name) (p.child (tempName name)) cause res d') :
    Completes d (p.child name) (p.child (tempName name)) text res d' := by
  obtain ⟨keeps, keepsBack⟩ := opened.keeps saved
  obtain ⟨q, x, e, hq, hfit, hs, located, hx, located₁, he⟩ :=
    exists_locate_of_opens (isPlain_tempName name) opened saved
  obtain ⟨⟨place, y⟩, target⟩ : ∃ spot, d.locate .keep (p.child name) = .ok spot := by
    obtain ⟨hfit', hs'⟩ := fits_of_tempName hfit hs
    exact exists_locate_child hq hfit' hs'
  have hy : y = some .directory := by
    by_contra hy
    have notDirectory : d₁.get place ≠ some .directory := by
      intro hd
      exact hy ((of_locate_keep target hy).2.symm.trans (keepsBack.directory hd))
    have target₁ := locate_of_keeps target hy keeps (.inl rfl)
    cases refused.symm.trans (move_eq_ok.2 ⟨_, e, place, _, located₁, he, target₁, notDirectory, rfl⟩)
  subst hy
  cases h with
  | unseen failed => cases failed.symm.trans (opened.find saved)
  | absent hnone => cases hnone.symm.trans (opened.find saved)
  | removed found =>
    cases located₁.symm.trans found
    exact .blocked hb opened located hx target saved (sets_erase _ _ _)
  | obstructed found =>
    cases located₁.symm.trans found
    exact absurd rfl he

/-- However the writing of a document ends, it has done one of the things that `Completes` lists. -/
lemma completes_writeDocument (h : Ends (writeDocument path text) s res s') (htemp : path.temporary? = some temp)
    (hfit : unfitPath? path = none) {made} (hmade : Ends (makeDirectories path.parent) s made s₁) :
    s'.memory = s₁.memory ∧ Completes s₁.disk path temp text res s'.disk := by
  unfold writeDocument at h
  simp only [htemp] at h
  obtain ⟨tried, s₂, placed, rest⟩ := ends_attempt_bind.1 h
  obtain ⟨p, name, rfl, rfl⟩ := exists_child_of_temporary? htemp
  have hletters := (unfitPath?_tempName p name).trans hfit
  unfold place at placed
  rw [parent_child] at placed hmade
  have directory := ends_makeDirectories hmade
  rcases ends_bind.1 placed with ⟨_, s₃, hmade', placed⟩ | ⟨f, hmade', rfl⟩
  · obtain ⟨rfl, rfl⟩ := hmade.unique hmade'
    obtain ⟨-, q, hq⟩ := directory.leads rfl
    rcases ends_bind.1 placed with ⟨_, s₄, saved, moved⟩ | ⟨f, saved, rfl⟩
    · rcases of_save saved hletters with ⟨r, content, hb, opened, -, rfl⟩ | ⟨_, -, -, heq, -⟩ | ⟨-, _, heq, -⟩
      · have sets : Sets s₁.disk r (some (.file content)) _ := sets_put_of_ne_nil opened.place.1 _
        rcases ends_change.1 moved with ⟨d', hmove, rfl, rfl⟩ | ⟨f, refused, rfl, rfl⟩
        · obtain ⟨rfl, rfl⟩ := ends_note.1 rest
          exact ⟨rfl, completes_of_move hb opened sets hmove⟩
        · cases refuses_of_move (unfitPath?_tempName p name).trans refused with
          | file =>
            obtain ⟨hm, tidied⟩ := of_tidy rest
            exact ⟨hm, completes_of_refusal hb opened sets refused tidied⟩
          | unfit hunfit => exact absurd hfit hunfit
      · cases heq
      · cases heq
    · rcases of_save saved hletters with ⟨_, _, -, -, heq, -⟩ | ⟨r, hb, opened, heq, rfl⟩ | ⟨hno, cause, heq, rfl⟩
      · cases heq
      · cases heq
        obtain ⟨rfl, rfl⟩ := ends_fail.1 rest
        exact ⟨rfl, .unwritable hb opened (sets_put_of_ne_nil opened.place.1 _)⟩
      · cases heq
        obtain ⟨hm, tidied⟩ := of_tidy rest
        exact ⟨hm, completes_of_unopened hq hletters hno tidied⟩
  · obtain ⟨rfl, rfl⟩ := hmade.unique hmade'
    obtain ⟨cause, rfl⟩ := directory.cause rfl (Path.letters_of_child hfit)
    obtain ⟨hm, tidied⟩ := of_tidy rest
    exact ⟨hm, completes_of_noDirectory hletters (directory.leadsNot rfl) tidied⟩

end

end TaggedGrammar.Output
