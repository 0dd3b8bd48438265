import TaggedGrammar.Proofs.Output.AllOrNothing

/-!
# Whatever is beside a document

The file beside a document is opened by its name, so that a link there is followed. The file that the link leads to is
written then, and the link itself takes the place of the document. A directory there can neither be written nor be
cleaned up, and the failure of the clean-up is told in place of the first one. `EndsBeside` lists all ways in which a
writing ends, by what is beside the document; what is neither at one of the two paths nor behind such a link stays as it
is.
-/

namespace TaggedGrammar.Output

open Files Files.Disk Run

/-- The path leads to the place, links at the path itself not followed. -/
def LiesAt (d : Disk) (p : Files.Path) (r : Place) : Prop :=
  ∃ x, d.locate .keep p = .ok ⟨r, x⟩

/-- How the writing of a document ends, by what is beside it. The disk is `d` when the directories of the document have
been made, and `d'` at the end. -/
inductive EndsBeside (d d' : Disk) (path temp : Files.Path) (text : Text) : Except Fault Unit → Prop where
  /-- Nothing or a file was beside the document, which is in its place. -/
  | placed {place beside x content} :
    text.bytes? = some content →
    d.locate .keep temp = .ok ⟨beside, x⟩ → Free x →
    d'.locate .keep path = .ok ⟨place, some (.file content)⟩ →
    EndsBeside d d' path temp text (.ok ())
  /-- A link was beside the document. It is in the place of the document, which is where the link led; if the link led
  to the place, the document is lost. -/
  | linked {r place beside target y content} :
    text.bytes? = some content →
    d.locate .keep temp = .ok ⟨beside, some (.link target)⟩ →
    d.Opens temp r →
    d.locate .keep path = .ok ⟨place, y⟩ →
    d'.get place = some (.link target) →
    (r ≠ place → d'.get r = some (.file content)) →
    EndsBeside d d' path temp text (.ok ())
  | noDirectory {cause} :
    (∀ q, ¬d.LeadsTo path.parent q) →
    EndsBeside d d' path temp text (.error (.writeFailed path.text cause))
  | blocked {place content cause} :
    text.bytes? = some content →
    d.locate .keep path = .ok ⟨place, some .directory⟩ →
    EndsBeside d d' path temp text (.error (.writeFailed path.text cause))
  /-- A link beside the document leads to nothing that can be written. -/
  | unopened {beside target cause} :
    d.locate .keep temp = .ok ⟨beside, some (.link target)⟩ →
    (∀ r, ¬d.Opens temp r) →
    EndsBeside d d' path temp text (.error (.writeFailed path.text cause))
  /-- The document has no bytes, and the file that was opened for it is empty. -/
  | unwritable {r} :
    text.bytes? = none →
    d.Opens temp r →
    d'.get r = some (.file .empty) →
    EndsBeside d d' path temp text (.error .notEncodable)
  | obstructed {beside} :
    d.locate .keep temp = .ok ⟨beside, some .directory⟩ →
    EndsBeside d d' path temp text (.error (.file ⟨.isDirectory, temp.text, none⟩))
  | unseen :
    d.find temp = .error (.file ⟨.nameTooLong, temp.text, none⟩) →
    EndsBeside d d' path temp text (.error (.file ⟨.nameTooLong, temp.text, none⟩))

section

variable {d d₁ d₂ d' : Disk} {path temp : Files.Path} {text : Text} {r : Place}

/-- A writing changes what is at the two paths, and what is opened by the one beside the document. -/
lemma Completes.elsewhere {res} (h : Completes d path temp text res d') (hpath : ¬LiesAt d path r)
    (htemp : ¬LiesAt d temp r) (hopens : ¬d.Opens temp r) : d'.get r = d.get r := by
  have apart {p : Files.Path} {place x} (hr : ¬LiesAt d p r) (located : d.locate .keep p = .ok ⟨place, x⟩) :
      r ≠ place := by
    rintro rfl
    exact hr ⟨x, located⟩
  have unopened {place} (opened : d.Opens temp place) : r ≠ place := by
    rintro rfl
    exact hopens opened
  cases h with
  | noDirectory => rfl
  | moved _ opened located _ target _ _ saved _ erased put =>
    rw [put.elsewhere (apart hpath target), erased.elsewhere (apart htemp located), saved.elsewhere (unopened opened)]
  | blocked _ opened located _ _ saved erased =>
    rw [erased.elsewhere (apart htemp located), saved.elsewhere (unopened opened)]
  | unwritable _ opened saved => exact saved.elsewhere (unopened opened)
  | unopened located _ left =>
    rcases left with rfl | erased
    · rfl
    · exact erased.elsewhere (apart htemp located)
  | obstructed => rfl
  | unseen => rfl

/-- A link that was opened has taken the place, and what it led to holds the document. -/
lemma endsBeside_of_link {beside place target y content e} (hb : text.bytes? = some content)
    (opened : d.Opens temp r) (located : d.locate .keep temp = .ok ⟨beside, some (.link target)⟩)
    (hplace : d.locate .keep path = .ok ⟨place, y⟩) (saved : Sets d r (some (.file content)) d₁)
    (hget : d₁.get beside = some e) (erased : Sets d₁ beside none d₂) (put : Sets d₂ place (some e) d') :
    EndsBeside d d' path temp text (.ok ()) := by
  have hlink := (of_locate_keep located (by simp)).2
  have hr : beside ≠ r := by
    rintro rfl
    exact (free_iff.1 opened.place.2).2 target hlink
  rw [saved.elsewhere hr, hlink] at hget
  cases hget
  refine .linked hb located opened hplace put.at fun hne => ?_
  rw [put.elsewhere hne, erased.elsewhere hr.symm, saved.at]

/-- Whatever is beside a document, its writing ends in one of the ways that `EndsBeside` lists, and what was on the disk
stays there unless it is at the path of the document, beside it or where a link beside it leads. -/
theorem whatever_is_beside_is_accounted_for {s s₁ s' : Session} {made res : Except Fault Unit}
    (htemp : path.temporary? = some temp) (hfit : unfitPath? path = none)
    (hmade : Ends (makeDirectories path.parent) s made s₁) (apart : ReachedApart s₁.disk path)
    (h : Ends (writeDocument path text) s res s') :
    EndsBeside s₁.disk s'.disk path temp text res ∧
      ∀ r e, s.disk.get r = some e → s'.disk.get r = some e ∨ LiesAt s₁.disk path r ∨ LiesAt s₁.disk temp r ∨
        s₁.disk.Opens temp r := by
  obtain ⟨-, completed⟩ := completes_writeDocument h htemp hfit hmade
  have grown := (ends_makeDirectories hmade).grows
  obtain ⟨p, name, rfl, rfl⟩ := exists_child_of_temporary? htemp
  constructor
  · generalize s'.disk = d' at completed ⊢
    cases completed with
    | noDirectory hno => exact .noDirectory hno
    | @moved r beside place content x _ _ _ _ _ hb opened located hx target hy hne saved hget erased put =>
      by_cases hlink : ∃ link, x = some (.link link)
      · obtain ⟨link, rfl⟩ := hlink
        exact endsBeside_of_link hb opened located target saved hget erased put
      · have hfree : Free x := free_iff.2 ⟨hx, not_exists.1 hlink⟩
        cases opened.unique (opens_of_locate located hfree)
        cases saved.at.symm.trans hget
        obtain ⟨own, -⟩ := locate_of_placed located hfree target hy apart hne (saved.trans erased) put
        exact .placed hb located hfree own
    | blocked hb _ _ _ target => exact .blocked hb target
    | unwritable hb opened saved => exact .unwritable hb opened saved.at
    | unopened located hno => exact .unopened located hno
    | obstructed located => exact .obstructed located
    | unseen failed =>
      cases find_eq_error failed
      exact .unseen failed
  · intro r e hget
    by_contra hchanged
    simp only [not_or] at hchanged
    obtain ⟨changed, hpath, htemp, hopens⟩ := hchanged
    rw [completed.elsewhere hpath htemp hopens] at changed
    exact changed (grown.kept hget)

end

/-- A disk with a link beside the document. -/
def linkBeside : Disk :=
  ⟨[([Text.ofString "f.tmp"], .link "g"), ([Text.ofString "g"], .file "old".toUTF8)], []⟩

/-- A disk with a directory beside the document. -/
def directoryBeside : Disk :=
  ⟨[([Text.ofString "f.tmp"], .directory)], []⟩

/-- A link beside the place is written through and then moved into the place. -/
lemma written_through_link :
    (writeDocument shortPath "x" (.start linkBeside)).1.result = .ok () ∧
      (writeDocument shortPath "x" (.start linkBeside)).2.disk.get [Text.ofString "g"] =
        some (.file "x".toUTF8) ∧
      (writeDocument shortPath "x" (.start linkBeside)).2.disk.get [Text.ofString "f"] = some (.link "g") := by
  decide +kernel

/-- A directory beside the place cannot be cleaned up. -/
lemma directoryBeside_escapes :
    (writeDocument shortPath "x" (.start directoryBeside)).1.result =
      .error (.file ⟨.isDirectory, "f.tmp", none⟩) := by
  decide +kernel

/-- A link beside a document takes its place, and another file is written; a directory there lets a failure escape that
is not told as one of the document. -/
theorem link_beside_is_written_through_and_directory_escapes :
    (∃ s', Ends (writeDocument shortPath "x") (.start linkBeside) (.ok ()) s' ∧
      s'.disk.get [Text.ofString "g"] = some (.file "x".toUTF8) ∧
      s'.disk.get [Text.ofString "f"] = some (.link "g") ∧
      EndsBeside linkBeside s'.disk shortPath (shortPath.parent.child "f.tmp") "x" (.ok ())) ∧
    ∃ s', Ends (writeDocument shortPath "x") (.start directoryBeside)
        (.error (.file ⟨.isDirectory, "f.tmp", none⟩)) s' ∧
      EndsBeside directoryBeside s'.disk shortPath (shortPath.parent.child "f.tmp") "x"
        (.error (.file ⟨.isDirectory, "f.tmp", none⟩)) := by
  have made (d : Disk) :
      Ends (makeDirectories shortPath.parent) (.start d) (.ok ()) (.start d) :=
    makeDirectories_of_leadsTo ⟨rfl, by decide⟩ ⟨_, .done⟩
  constructor
  · have ended := ends (writeDocument shortPath "x") (.start linkBeside)
    rw [written_through_link.1] at ended
    refine ⟨_, ended, written_through_link.2.1, written_through_link.2.2, ?_⟩
    have own : linkBeside.locate .keep shortPath = .ok ⟨[Text.ofString "f"], none⟩ := rfl
    apply (whatever_is_beside_is_accounted_for rfl rfl (made linkBeside) ?_ ended).1
    intro place target located
    cases own.symm.trans located
  · have ended := ends (writeDocument shortPath "x") (.start directoryBeside)
    rw [directoryBeside_escapes] at ended
    refine ⟨_, ended, ?_⟩
    have own : directoryBeside.locate .keep shortPath = .ok ⟨[Text.ofString "f"], none⟩ := rfl
    apply (whatever_is_beside_is_accounted_for rfl rfl (made directoryBeside) ?_ ended).1
    intro place target located
    cases own.symm.trans located

end TaggedGrammar.Output
