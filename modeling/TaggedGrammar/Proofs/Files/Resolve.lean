import TaggedGrammar.Files.Resolve
import TaggedGrammar.Proofs.Files.Operations

/-!
# What a resolved path depends on

Resolving looks at links only, and the bound on links inside each other is never what ends it: each link that is
being resolved is in `active`, so that there are fewer and fewer others. So a path is resolved to the same
path as long as the links stay the same.
-/

namespace TaggedGrammar.Files.Disk

variable {d d' : Disk}

/-- The places of the links. -/
noncomputable def linkPlaces (d : Disk) : Finset Place :=
  open Classical in (d.entries.map Prod.fst).toFinset.filter fun p => ∃ target, d.get p = some (.link target)

/-- The places of the links are where links are. -/
lemma mem_linkPlaces {p : Place} : p ∈ d.linkPlaces ↔ ∃ target, d.get p = some (.link target) := by
  classical
  simp only [linkPlaces, Finset.mem_filter, List.mem_toFinset, and_iff_right_iff_imp]
  rintro ⟨target, hlink⟩
  cases p with
  | nil => cases hlink
  | cons name rest => exact List.mem_map_of_mem (mem_entries_of_get hlink)

/-- There are not more links than entries. -/
lemma card_linkPlaces_le (d : Disk) : d.linkPlaces.card ≤ d.entries.length := by
  classical
  calc d.linkPlaces.card ≤ (d.entries.map Prod.fst).toFinset.card := Finset.card_filter_le _ _
    _ ≤ (d.entries.map Prod.fst).length := List.toFinset_card_le _
    _ = d.entries.length := List.length_map _

/-- Where ways are kept the links are the same. -/
lemma Keeps.linkPlaces (hk : Keeps d d') : d'.linkPlaces = d.linkPlaces := by
  ext p
  simp only [mem_linkPlaces, hk.link]

/-- Names are resolved in the same way if links that are not active are. -/
lemma resolveNames_congr {jump jump' : List Place → Place → List Text → Place × Bool} {active : List Place}
    (hk : Keeps d d')
    (hjump : ∀ p ∈ d.linkPlaces, p ∉ active → ∀ place names,
      jump' (p :: active) place names = jump (p :: active) place names)
    (place : Place) (names : List Text) :
    d'.resolveNames jump' active place names = d.resolveNames jump active place names := by
  induction names generalizing place with
  | nil => rfl
  | cons name rest ih =>
    unfold resolveNames
    split
    · exact ih _
    split
    · exact ih _
    -- the two disks have the same links, and what is no link is passed in the same way
    by_cases hlink : ∃ target, d.get (name :: place) = some (.link target)
    · obtain ⟨target, hlink⟩ := hlink
      simp only [hlink, hk.link.2 hlink]
      split
      · rfl
      · rename_i hactive
        have hmem : name :: place ∉ active := by simpa using hactive
        rw [hjump _ (mem_linkPlaces.2 ⟨target, hlink⟩) hmem]
        split
        · exact ih _
        · rfl
    · have hlink' : ¬∃ target, d'.get (name :: place) = some (.link target) := by simpa only [hk.link] using hlink
      split
      · exact absurd ⟨_, ‹_›⟩ hlink'
      split
      · exact absurd ⟨_, ‹_›⟩ hlink
      exact ih _

/-- One more active link leaves fewer others. -/
lemma card_inactive_lt {active : List Place} {p : Place} (hp : p ∈ d.linkPlaces) (hactive : p ∉ active) :
    (d.linkPlaces.filter (· ∉ p :: active)).card < (d.linkPlaces.filter (· ∉ active)).card := by
  refine Finset.card_lt_card ⟨fun r hr => ?_, fun hsub => ?_⟩
  · simp_all
  · have hmem := hsub (Finset.mem_filter.2 ⟨hp, hactive⟩)
    simp at hmem

/-- The bound does not matter as long as there are not more links that are not active. -/
lemma resolveFrom_congr (hk : Keeps d d') {depth depth' : Nat} {active : List Place}
    (h : (d.linkPlaces.filter (· ∉ active)).card ≤ depth)
    (h' : (d.linkPlaces.filter (· ∉ active)).card ≤ depth') (place : Place) (names : List Text) :
    d'.resolveFrom depth' active place names = d.resolveFrom depth active place names := by
  -- each jump makes one more link active, so the number of the others carries the induction
  induction depth generalizing depth' active place names with
  | zero =>
    have none_left : ∀ p ∈ d.linkPlaces, p ∉ active → False := by
      intro p hp hactive
      have fewer := card_inactive_lt hp hactive
      omega
    cases depth' with
    | zero => exact resolveNames_congr hk (fun p hp hactive => (none_left p hp hactive).elim) place names
    | succ depth' => exact resolveNames_congr hk (fun p hp hactive => (none_left p hp hactive).elim) place names
  | succ depth ih =>
    cases depth' with
    | zero =>
      refine resolveNames_congr hk (fun p hp hactive => ?_) place names
      have fewer := card_inactive_lt hp hactive
      omega
    | succ depth' =>
      refine resolveNames_congr hk (fun p hp hactive place names => ?_) place names
      have fewer := card_inactive_lt hp hactive
      exact ih (by omega) (by omega) place names

/-- A path is resolved to the same path on a disk with the same links if that leads to a directory. -/
lemma resolve_of_leadsTo {p found : Path} {q : Place} (h : d.resolve p = .ok found) (hk : Keeps d d')
    (hfit : found.Fits) (hq : d'.LeadsTo found q) : d'.resolve p = .ok found := by
  have hplace : d'.resolveFrom (d'.entries.length + 1) [] (d'.startOf p) p.parts =
      d.resolveFrom (d.entries.length + 1) [] (d.startOf p) p.parts := by
    have hstart : d'.startOf p = d.startOf p := by simp [startOf, hk.here]
    have hcard := card_linkPlaces_le d
    have hcard' := card_linkPlaces_le d'
    rw [hk.linkPlaces] at hcard'
    rw [hstart]
    apply resolveFrom_congr hk <;> simp only [List.not_mem_nil, not_false_eq_true, Finset.filter_true] <;> omega
  have hwalk : ∃ spot, d'.walkPath .follow found = .ok spot :=
    ⟨_, (walkPath_of_locate (locate_follow_iff.2 ⟨hfit, hq⟩)).2⟩
  unfold resolve at h ⊢
  cases hunfit : unfitPath? p with
  | some f => simp [hunfit] at h
  | none =>
    simp only [hunfit, hplace] at h ⊢
    split at h
    · cases h
    · cases h
      obtain ⟨spot, hwalk⟩ := hwalk
      rw [hwalk]

end TaggedGrammar.Files.Disk
