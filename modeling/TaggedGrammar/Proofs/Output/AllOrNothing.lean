import TaggedGrammar.Proofs.Output.Completion

/-!
# A document is written as a whole or not at all

Where nothing or a file is beside a document, its writing puts the whole document in its place, or it fails and
nothing but the file beside the place has changed. `AllOrNothing` lists the ways in which it ends. The failure that is
told names the path of the document, except in three cases: the document has no bytes; there is a directory beside it,
which could not be found before the directories of the document were made; the path of the file beside it is too long.
A link beside the document that could not be found before either is followed, as `Completes` says.
-/

namespace TaggedGrammar.Output

open Files Files.Disk Run

/-- The places apart, the second disk is the first one with more directories. -/
structure GrowsBut (d : Disk) (places : List Place) (d' : Disk) : Prop where
  kept : ∀ {r e}, r ∉ places → d.get r = some e → d'.get r = some e
  new : ∀ {r}, r ∉ places → d.get r = none → d'.get r = none ∨ d'.get r = some .directory

/-- The way to the directory of the path does not pass a link at the path itself: without the link it is the same. -/
def ReachedApart (d : Disk) (path : Files.Path) : Prop :=
  ∀ place target, d.locate .keep path = .ok ⟨place, some (.link target)⟩ →
    (d.erase place).locate .keep path = .ok ⟨place, none⟩

/-- How the writing of a document ends where nothing or a file is beside it. The disk was `d` and is `d'`. -/
inductive AllOrNothing (d d' : Disk) (path temp : Files.Path) (text : Text) : Except Fault Unit → Prop where
  /-- The document is in its place. A file that a link in its place led to is as it was. -/
  | written {place beside content} :
    text.bytes? = some content →
    d'.locate .keep path = .ok ⟨place, some (.file content)⟩ →
    d'.locate .keep temp = .ok ⟨beside, none⟩ →
    GrowsBut d [place, beside] d' →
    (∀ target r old, d.get place = some (.link target) → d.locate .follow path = .ok ⟨r, some (.file old)⟩ →
      r ≠ beside → d'.get r = some (.file old)) →
    AllOrNothing d d' path temp text (.ok ())
  /-- There is no directory for the document. -/
  | noDirectory {cause} :
    (∀ q, ¬d'.LeadsTo path.parent q) →
    (∀ place x, d'.locate .keep temp ≠ .ok ⟨place, x⟩) →
    Grows d d' →
    NewOnWay d d' path.parent →
    AllOrNothing d d' path temp text (.error (.writeFailed path.text cause))
  /-- A directory is in the place of the document. -/
  | blocked {place beside content cause} :
    text.bytes? = some content →
    d'.locate .keep path = .ok ⟨place, some .directory⟩ →
    d'.locate .keep temp = .ok ⟨beside, none⟩ →
    GrowsBut d [beside] d' →
    NewOnWay d d' path.parent →
    AllOrNothing d d' path temp text (.error (.writeFailed path.text cause))
  /-- The document has no bytes. -/
  | unwritable {beside} :
    text.bytes? = none →
    d'.locate .keep temp = .ok ⟨beside, some (.file .empty)⟩ →
    GrowsBut d [beside] d' →
    AllOrNothing d d' path temp text (.error .notEncodable)
  /-- A directory is where the file beside the document should be. It has come to light with those of the document. -/
  | obstructed {beside} :
    (∀ place x, d.locate .keep temp ≠ .ok ⟨place, x⟩) →
    d'.locate .keep temp = .ok ⟨beside, some .directory⟩ →
    Grows d d' →
    NewOnWay d d' path.parent →
    AllOrNothing d d' path temp text (.error (.file ⟨.isDirectory, temp.text, none⟩))
  /-- There is no room for the path of the file beside the document. -/
  | unseen :
    d'.find temp = .error (.file ⟨.nameTooLong, temp.text, none⟩) →
    Grows d d' →
    NewOnWay d d' path.parent →
    AllOrNothing d d' path temp text (.error (.file ⟨.nameTooLong, temp.text, none⟩))
  /-- A link is beside the document. It has come to light with the directories of the document, on the disk `d₁`. -/
  | uncovered {d₁ beside target res} :
    (∀ place x, d.locate .keep temp ≠ .ok ⟨place, x⟩) →
    Grows d d₁ →
    d₁.locate .keep temp = .ok ⟨beside, some (.link target)⟩ →
    Completes d₁ path temp text res d' →
    AllOrNothing d d' path temp text res

section

variable {d d₁ d' : Disk} {path temp p : Files.Path} {name text : Text} {place beside : Place}
variable {x y : Option Entry}

/-- A disk that has grown and differs at some places only is the old one but for these. -/
lemma growsBut_of_grows {places : List Place} (grown : Grows d d₁)
    (same : ∀ r, r ∉ places → d'.get r = d₁.get r) : GrowsBut d places d' := by
  constructor
  · intro r e hr hget
    rw [same r hr]
    exact grown.kept hget
  · intro r hr hget
    rw [same r hr]
    exact grown.new hget

/-- What is at the path can be taken away, and the path still leads to the place. -/
lemma ReachedApart.locate_erase (apart : ReachedApart d path) (target : d.locate .keep path = .ok ⟨place, y⟩)
    (hy : y ≠ some .directory) : (d.erase place).locate .keep path = .ok ⟨place, none⟩ := by
  obtain ⟨hne, hget⟩ := of_locate_keep target hy
  by_cases hl : ∃ link, y = some (.link link)
  · obtain ⟨link, rfl⟩ := hl
    exact apart place link target
  · have erased : Sets d place none (d.erase place) := sets_erase_of_ne_nil hne
    have keeps : Keeps d (d.erase place) := by
      rw [← hget] at hy hl
      exact erased.keeps hy (not_exists.1 hl) (by simp)
    have located := locate_of_keeps target hy keeps (.inl rfl)
    rwa [erased.at] at located

/-- Once the file beside a document has taken its place, both paths lead where they led. -/
lemma locate_of_placed {content : ByteArray}
    (located : d.locate .keep (p.child (tempName name)) = .ok ⟨beside, x⟩) (hx : Free x)
    (target : d.locate .keep (p.child name) = .ok ⟨place, y⟩) (hy : y ≠ some .directory)
    (apart : ReachedApart d (p.child name)) (hne : beside ≠ place) (erased : Sets d beside none d₁)
    (put : Sets d₁ place (some (.file content)) d') :
    d'.locate .keep (p.child name) = .ok ⟨place, some (.file content)⟩ ∧
      d'.locate .keep (p.child (tempName name)) = .ok ⟨beside, none⟩ := by
  have without := apart.locate_erase target hy
  have cut : Sets d place none (d.erase place) := sets_erase_of_ne_nil (of_locate_keep target hy).1
  obtain ⟨notDirectory, notLink⟩ := free_iff.1 hx
  have hget := (of_locate_keep located notDirectory).2
  have keeps : Keeps (d.erase place) d' := by
    have same {r} (hr : r ≠ place) (hr' : r ≠ beside) : d'.get r = (d.erase place).get r := by
      rw [put.elsewhere hr, erased.elsewhere hr', cut.elsewhere hr]
    have besideBefore : (d.erase place).get beside = x := by rw [cut.elsewhere hne, hget]
    refine ⟨put.here.trans erased.here, fun {r} hr => ?_, fun {r link} => ?_⟩
    · rw [same, hr]
      · rintro rfl
        cases cut.at.symm.trans hr
      · rintro rfl
        exact notDirectory (besideBefore.symm.trans hr)
    · by_cases hr : r = place
      · simp [hr, put.at, cut.at]
      by_cases hr' : r = beside
      · rw [hr', put.elsewhere hne, erased.at, besideBefore]
        simp [notLink link]
      · rw [same hr hr']
  constructor
  · have own := locate_of_keeps without (by simp) keeps (.inl rfl)
    rwa [put.at] at own
  · -- the directory is the one of the path
    obtain ⟨-, -, q, hq, rfl⟩ := of_locate_keep_child target hy
    obtain ⟨-, -, q, way, heq⟩ := of_locate_keep_child without (by simp)
    cases heq
    obtain ⟨hn, hs, q, hq', rfl⟩ := of_locate_keep_child located notDirectory
    cases hq.unique hq'
    have there := @locate_child d' .keep p _ _ (way.mono keeps) (of_locate located).1 hn hs (.inl rfl)
    rwa [put.elsewhere hne, erased.at] at there

/-- What is new once the file beside a document is gone was made for the document. -/
lemma newOnWay_of_sets (h : NewOnWay d d₁ p) (keeps : Keeps d₁ d') (erased : Sets d₁ beside none d') :
    NewOnWay d d' p := by
  intro r hnone hsome
  have hr : r ≠ beside := by
    rintro rfl
    exact hsome erased.at
  rw [erased.elsewhere hr] at hsome
  obtain ⟨front, hfront, way⟩ := h r hnone hsome
  exact ⟨front, hfront, way.mono keeps⟩

/-- Where nothing or a file is beside a document, the whole document is put in its place, or nothing but the file beside
it changes. -/
theorem document_is_written_whole_or_not_at_all {s s₁ s' : Session} {made res : Except Fault Unit}
    (htemp : path.temporary? = some temp) (hfit : unfitPath? path = none)
    (free : ∀ place x, s.disk.locate .keep temp = .ok ⟨place, x⟩ → Free x)
    (hmade : Ends (makeDirectories path.parent) s made s₁) (apart : ReachedApart s₁.disk path)
    (h : Ends (writeDocument path text) s res s') :
    AllOrNothing s.disk s'.disk path temp text res := by
  obtain ⟨-, completed⟩ := completes_writeDocument h htemp hfit hmade
  have directory := ends_makeDirectories hmade
  have grown := directory.grows
  obtain ⟨p, name, rfl, rfl⟩ := exists_child_of_temporary? htemp
  have notFound {beside x} (located : s₁.disk.locate .keep (p.child (tempName name)) = .ok ⟨beside, x⟩)
      (hx : ¬Free x) (place y) : s.disk.locate .keep (p.child (tempName name)) ≠ .ok ⟨place, y⟩ := by
    -- what was found before is found on the same disk, as there was no directory to be made
    intro found
    obtain ⟨q, hq⟩ := exists_leadsTo_of_locate found
    rw [parent_child] at hmade
    obtain ⟨-, rfl⟩ := hmade.unique (makeDirectories_of_leadsTo (of_locate found).1.of_child hq)
    cases found.symm.trans located
    exact hx (free _ _ found)
  by_cases hlink : ∃ beside target, s₁.disk.locate .keep (p.child (tempName name)) = .ok ⟨beside, some (.link target)⟩
  · obtain ⟨beside, target, located⟩ := hlink
    refine .uncovered (notFound located fun hfree => ?_) grown located completed
    exact (free_iff.1 hfree).2 target rfl
  have opensBeside {r beside x} (opened : s₁.disk.Opens (p.child (tempName name)) r)
      (located : s₁.disk.locate .keep (p.child (tempName name)) = .ok ⟨beside, x⟩) (hx : x ≠ some .directory) :
      Free x ∧ r = beside := by
    have hfree : Free x := free_iff.2 ⟨hx, fun target heq => hlink ⟨beside, target, heq ▸ located⟩⟩
    exact ⟨hfree, opened.unique (opens_of_locate located hfree)⟩
  generalize s'.disk = d' at completed ⊢
  cases completed with
  | noDirectory hno absent => exact .noDirectory hno absent grown directory.onWay
  | moved hb opened located hx target hy hne saved hget erased put =>
    obtain ⟨hfree, rfl⟩ := opensBeside opened located hx
    cases saved.at.symm.trans hget
    obtain ⟨own, gone⟩ := locate_of_placed located hfree target hy apart hne (saved.trans erased) put
    have kept : GrowsBut s.disk _ d' := growsBut_of_grows grown fun r hr => by
      rw [List.mem_cons, List.mem_singleton, not_or] at hr
      rw [put.elsewhere hr.1, (saved.trans erased).elsewhere hr.2]
    refine .written hb own gone kept fun link r old hlink followed hr => ?_
    -- the file is where the link is not
    have hold := (of_walk_entry (of_locate followed).2 (by simp) (by simp)).2.1
    apply kept.kept _ hold
    rw [List.mem_cons, List.mem_singleton, not_or]
    refine ⟨?_, hr⟩
    rintro rfl
    cases hlink.symm.trans hold
  | blocked hb opened located hx target saved erased =>
    obtain ⟨hfree, rfl⟩ := opensBeside opened located hx
    have gone := saved.trans erased
    have hget := (of_locate_keep located hx).2
    have keeps : Keeps s₁.disk d' := by
      rw [← hget] at hfree
      exact gone.keeps (free_iff.1 hfree).1 (free_iff.1 hfree).2 (by simp)
    have absent := locate_of_keeps located hx keeps (.inl rfl)
    rw [gone.at] at absent
    refine .blocked hb (locate_directory_of_keeps target keeps) absent ?_ (newOnWay_of_sets directory.onWay keeps gone)
    exact growsBut_of_grows grown fun r hr => gone.elsewhere fun heq => hr (List.mem_singleton.2 heq)
  | unwritable hb opened saved =>
    obtain ⟨q, x, e, -, -, -, located, hx, -⟩ := exists_locate_of_opens (isPlain_tempName name) opened saved
    obtain ⟨-, rfl⟩ := opensBeside opened located hx
    have emptied := locate_of_keeps located hx (opened.keeps saved).1 (.inl rfl)
    rw [saved.at] at emptied
    refine .unwritable hb emptied ?_
    exact growsBut_of_grows grown fun r hr => saved.elsewhere fun heq => hr (List.mem_singleton.2 heq)
  | unopened located => exact absurd ⟨_, _, located⟩ hlink
  | obstructed located =>
    refine .obstructed (notFound located fun hfree => ?_) located grown directory.onWay
    exact (free_iff.1 hfree).1 rfl
  | unseen failed =>
    cases find_eq_error failed
    exact .unseen failed grown directory.onWay

/-- The path of a document. -/
def shortPath : Files.Path :=
  ⟨0, [Text.ofString "f"]⟩

/-- A path of the same document that leads through a directory with the name of the file beside it. -/
def windingPath : Files.Path :=
  ⟨0, [Text.ofString "f.tmp", Text.ofString "..", Text.ofString "f"]⟩

/-- A disk with a link in the place of the document. -/
def linkInPlace : Disk :=
  ⟨[([Text.ofString "f"], .link "g"), ([Text.ofString "g"], .file "old".toUTF8)], []⟩

/-- A link in the place of a document is replaced, and what it leads to stays. -/
lemma written_over_link :
    (writeDocument shortPath "x" (.start linkInPlace)).1.result = .ok () ∧
      (writeDocument shortPath "x" (.start linkInPlace)).2.disk.get [Text.ofString "g"] =
        some (.file "old".toUTF8) := by
  decide +kernel

/-- A path that passes the name of its own file beside the place makes a directory there. -/
lemma winding_escapes :
    (writeDocument windingPath "x" (.start (.empty []))).1.result =
      .error (.file ⟨.isDirectory, "f.tmp/../f.tmp", none⟩) := by
  decide +kernel

/-- A link is replaced and the file it leads to is kept. A directory on the way to a document keeps it from its place,
and the failure is not told as one of the document. -/
theorem link_is_replaced_and_directory_on_the_way_escapes :
    (∃ s', Ends (writeDocument shortPath "x") (.start linkInPlace) (.ok ()) s' ∧
      s'.disk.get [Text.ofString "g"] = some (.file "old".toUTF8) ∧
      AllOrNothing linkInPlace s'.disk shortPath (shortPath.parent.child "f.tmp") "x" (.ok ())) ∧
    ∃ s', Ends (writeDocument windingPath "x") (.start (.empty []))
        (.error (.file ⟨.isDirectory, "f.tmp/../f.tmp", none⟩)) s' ∧
      AllOrNothing (.empty []) s'.disk windingPath (windingPath.parent.child "f.tmp") "x"
        (.error (.file ⟨.isDirectory, "f.tmp/../f.tmp", none⟩)) := by
  constructor
  · have ended := ends (writeDocument shortPath "x") (.start linkInPlace)
    rw [written_over_link.1] at ended
    refine ⟨_, ended, written_over_link.2, ?_⟩
    have made : Ends (makeDirectories shortPath.parent) (.start linkInPlace) (.ok ()) (.start linkInPlace) :=
      makeDirectories_of_leadsTo ⟨rfl, by decide⟩ ⟨_, .done⟩
    apply document_is_written_whole_or_not_at_all rfl rfl ?_ made ?_ ended
    · intro place x located
      have absent : linkInPlace.locate .keep (shortPath.parent.child "f.tmp") =
          .ok ⟨[Text.ofString "f.tmp"], none⟩ := rfl
      cases absent.symm.trans located
      exact .inl rfl
    · intro place target located
      have own : linkInPlace.locate .keep shortPath = .ok ⟨[Text.ofString "f"], some (.link "g")⟩ := rfl
      cases own.symm.trans located
      rfl
  · have ended := ends (writeDocument windingPath "x") (.start (.empty []))
    rw [winding_escapes] at ended
    refine ⟨_, ended, ?_⟩
    apply document_is_written_whole_or_not_at_all rfl rfl ?_ (ends _ _) ?_ ended
    · intro place x located
      have missing : (Disk.empty []).locate .keep (windingPath.parent.child "f.tmp") =
          .error (.file ⟨.missing, "f.tmp/../f.tmp", none⟩) := rfl
      cases missing.symm.trans located
    · intro place target located
      -- no directory that is made is a link
      have hlink := (of_locate_keep located (by simp)).2
      cases place with
      | nil => cases hlink
      | cons name q => cases (ends_makeDirectories (ends _ _)).grows.link hlink

end

end TaggedGrammar.Output
