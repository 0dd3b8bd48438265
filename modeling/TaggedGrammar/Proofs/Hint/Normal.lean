import TaggedGrammar.Proofs.Hint.Kept

/-!
# Coerced values are in normal form

What was coerced to a hint stays as it is when it is coerced again. Only choices need an argument: a member that
refused the value might accept what became of it. It does not, because every value of which something was made that
conforms to a hint conforms to the hint itself.
-/

namespace TaggedGrammar

open Outcome Value

namespace Hint

/-- A hint that neither lists options nor names a record or a class other than null, and whose keys are simple. -/
def IsRegular : Hint → Prop
  | any | anyList | anyDict | anyTuple | list _ | tuple _ | run _ | union _ _ => True
  | scalar cls => cls = .str ∨ cls = .int ∨ cls = .float ∨ cls = .bool
  | instanceOf cls => cls = .null
  | dict key _ => key = .any ∨ key = .scalar .str ∨ key = .scalar .int ∨ key = .scalar .bool
  | literal _ | unchecked _ | record .. => False

/-- The value is kept by the hint, wherever it stands. -/
def Settled (hint : Hint) (x : Value) : Prop :=
  ∀ path, (coerce hint x path).result = .ok x

variable {hint item key value : Hint} {hints members : List Hint} {v x : Value} {path : Place}

/-- A regular hint is usable. -/
lemma IsRegular.isUsable (h : hint.IsRegular) : hint.IsUsable := by
  cases hint with
  | literal | record => exact h.elim
  | _ => trivial

/-- A regular hint does not change keys. -/
lemma IsRegular.fixesKeys (h : hint.IsRegular) : hint.FixesKeys := by
  cases hint with
  | dict key value =>
    show .scalar .float ∉ key.parts
    rcases h with rfl | rfl | rfl | rfl <;> simp [parts]
  | _ => trivial

section Shapes

variable {items xs : List Value} {fs : List (Value × Value)}

/-- Some hint makes `x` of `v`. -/
def Becomes (v x : Value) : Prop :=
  ∃ hint, Kept hint v x

/-- A value may stay as it is. -/
lemma Becomes.refl (v : Value) : Becomes v v :=
  ⟨.any, .same trivial⟩

/-- The items of a sequence that was made are made of the items before. -/
lemma Kept.of_hasItems (h : Kept hint v x) (hxs : HasItems x xs) :
    ∃ items, HasItems v items ∧ List.Forall₂ Becomes items xs := by
  have same {xs : List Value} : List.Forall₂ Becomes xs xs := List.forall₂_same.2 fun w _ => .refl w
  induction h with
  | same => exact ⟨xs, hxs, same⟩
  | @list _ items _ hlen hall =>
    cases hxs
    exact ⟨items, .list items, List.forall₂_iff_zip.2 ⟨hlen, fun hp => ⟨_, hall _ hp⟩⟩⟩
  | @run _ _ items _ hitems hlen hall =>
    cases hxs
    exact ⟨items, hitems, List.forall₂_iff_zip.2 ⟨hlen, fun hp => ⟨_, hall _ hp⟩⟩⟩
  | anyTuple hitems | bareTuple hitems =>
    cases hxs
    exact ⟨_, hitems, same⟩
  | tuple hitems hlen hlen' hall =>
    cases hxs
    exact ⟨_, hitems, forall₂_of_zip_zip hlen hlen' fun p hp => ⟨_, hall p hp⟩⟩
  | union _ _ ih => exact ih hxs
  | wholeDouble | anyDict | dict | record => cases hxs

/-- A list that was made is made of a list. -/
lemma Kept.of_list_right (h : Kept hint v x) (hx : x = .list xs) : ∃ items, v = .list items := by
  induction h with
  | same => exact ⟨xs, hx⟩
  | @list _ items => exact ⟨items, rfl⟩
  | union _ _ ih => exact ih hx
  | wholeDouble | run | anyTuple | bareTuple | tuple | anyDict | dict | record => cases hx

/-- The entries of a mapping that was made are made of the entries before. -/
lemma Kept.of_hasEntries (h : Kept hint v x) (hfs : HasEntries x fs) :
    ∃ es, HasEntries v es ∧ EntriesAlike Becomes es fs := by
  have same {fs : List (Value × Value)} : EntriesAlike Becomes fs fs :=
    List.forall₂_same.2 fun e _ => ⟨rfl, .refl e.2⟩
  induction h with
  | same => exact ⟨fs, hfs, same⟩
  | anyDict hes =>
    cases hfs
    exact ⟨_, hes, same⟩
  | dict hes hkeys hall =>
    cases hfs
    exact ⟨_, hes, entriesAlike_of_zip hkeys fun p hp => ⟨_, hall p hp⟩⟩
  | union _ _ ih => exact ih hfs
  | wholeDouble | list | run | anyTuple | bareTuple | tuple | record => cases hfs

/-- Null is made of null. -/
lemma Kept.eq_null (h : Kept hint v x) (hx : x = .null) : v = .null := by
  induction h with
  | same => exact hx
  | union _ _ ih => exact ih hx
  | wholeDouble | list | run | anyTuple | bareTuple | tuple | anyDict | dict | record => cases hx

/-- Simple values are made of simple values. -/
lemma Kept.conforms_scalar {cls : Class} (h : Kept hint v x) (regular : (Hint.scalar cls).IsRegular)
    (hx : Conforms (.scalar cls) x) : Conforms (.scalar cls) v := by
  induction h with
  | same => exact hx
  | wholeDouble =>
    rcases regular with rfl | rfl | rfl | rfl
    · cases hx with
      | scalar holds => cases holds
    · cases hx with
      | scalar holds => cases holds
    · exact .wholeDouble
    · cases hx with
      | scalar holds => cases holds
  | union _ _ ih => exact ih hx
  | list | run | anyTuple | bareTuple | tuple | anyDict | dict | record =>
    cases hx with
    | scalar holds => rcases regular with rfl | rfl | rfl | rfl <;> cases holds

end Shapes

section Reflection

/-- Items that are related in pairs have partners on both sides. -/
lemma exists_mem_of_forall₂ {α β : Type} {R : α → β → Prop} {as : List α} {bs : List β} (h : List.Forall₂ R as bs) :
    (∀ a ∈ as, ∃ b ∈ bs, R a b) ∧ ∀ b ∈ bs, ∃ a ∈ as, R a b := by
  induction h with
  | nil => exact ⟨List.forall_mem_nil _, List.forall_mem_nil _⟩
  | @cons a b as bs hab _ ih =>
    obtain ⟨left, right⟩ := ih
    constructor
    · refine List.forall_mem_cons.2 ⟨⟨b, List.mem_cons_self, hab⟩, fun a' ha' => ?_⟩
      obtain ⟨b', hb', hrel⟩ := left a' ha'
      exact ⟨b', List.mem_cons_of_mem _ hb', hrel⟩
    · refine List.forall_mem_cons.2 ⟨⟨a, List.mem_cons_self, hab⟩, fun b' hb' => ?_⟩
      obtain ⟨a', ha', hrel⟩ := right b' hb'
      exact ⟨a', List.mem_cons_of_mem _ ha', hrel⟩

/-- So have items that are paired with hints. -/
lemma exists_mem_zip_of_forall₂ {R : Value → Value → Prop} {items xs : List Value} (h : List.Forall₂ R items xs) :
    ∀ hints : List Hint, ∀ p ∈ hints.zip items, ∃ x, (p.1, x) ∈ hints.zip xs ∧ R p.2 x := by
  induction h with
  | nil =>
    intro hints p hp
    rw [List.zip_nil_right] at hp
    cases hp
  | @cons v x items xs hx _ ih =>
    intro hints
    cases hints with
    | nil => exact List.forall_mem_nil _
    | cons hint hints =>
      refine List.forall_mem_cons.2 ⟨⟨x, List.mem_cons_self, hx⟩, fun p hp => ?_⟩
      obtain ⟨y, hy, hrel⟩ := ih hints p hp
      exact ⟨y, List.mem_cons_of_mem _ hy, hrel⟩

/-- If what was made of a value conforms to a hint, so does the value, whatever hint made it. -/
lemma Becomes.conforms (hint : Hint) :
    (∀ h ∈ hint.parts, h.IsRegular) → ∀ v x, Becomes v x → Conforms hint x → Conforms hint v := by
  induction hint using Hint.inductOn with
  | any => exact fun _ _ _ _ _ => .any
  | literal | unchecked | record => exact fun regular => (regular _ List.mem_cons_self).elim
  | scalar cls =>
    rintro regular v x ⟨_, hkept⟩
    exact hkept.conforms_scalar (regular _ List.mem_cons_self)
  | instanceOf cls =>
    rintro regular v x ⟨_, hkept⟩ hx
    have null : cls = .null := regular _ List.mem_cons_self
    subst null
    cases hx with
    | instanceOf holds =>
      have hnull : x = .null := by cases x <;> first | rfl | cases holds
      rw [hkept.eq_null hnull]
      exact .instanceOf rfl
  | anyList =>
    rintro regular v x ⟨_, hkept⟩ hx
    cases hx with
    | anyList =>
      obtain ⟨items, rfl⟩ := hkept.of_list_right rfl
      exact .anyList
  | anyTuple =>
    rintro regular v x ⟨_, hkept⟩ hx
    cases hx with
    | anyTuple hxs =>
      obtain ⟨items, hitems, -⟩ := hkept.of_hasItems hxs
      exact .anyTuple hitems
  | anyDict =>
    rintro regular v x ⟨_, hkept⟩ hx
    cases hx with
    | anyDict hfs =>
      obtain ⟨es, hes, -⟩ := hkept.of_hasEntries hfs
      exact .anyDict hes
  | list item ih =>
    rintro regular v x ⟨_, hkept⟩ hx
    cases hx with
    | list hall =>
      obtain ⟨items, rfl⟩ := hkept.of_list_right rfl
      obtain ⟨_, hitems, hxs⟩ := hkept.of_hasItems (.list _)
      cases hitems
      refine .list fun w hw => ?_
      obtain ⟨y, hy, becomes⟩ := (exists_mem_of_forall₂ hxs).1 w hw
      exact ih (forall_parts_list.1 regular).2 w y becomes (hall y hy)
  | run item ih =>
    rintro regular v x ⟨_, hkept⟩ hx
    cases hx with
    | run hxs hall =>
      obtain ⟨items, hitems, hxs⟩ := hkept.of_hasItems hxs
      refine .run hitems fun w hw => ?_
      obtain ⟨y, hy, becomes⟩ := (exists_mem_of_forall₂ hxs).1 w hw
      exact ih (forall_parts_run.1 regular).2 w y becomes (hall y hy)
  | tuple hints ih =>
    rintro regular v x ⟨_, hkept⟩ hx
    cases hx with
    | bareTuple hxs =>
      obtain ⟨items, hitems, -⟩ := hkept.of_hasItems hxs
      exact .bareTuple hitems
    | tuple hxs hne hlen hall =>
      obtain ⟨items, hitems, hxs⟩ := hkept.of_hasItems hxs
      refine .tuple hitems hne (hlen.trans hxs.length_eq.symm) fun p hp => ?_
      obtain ⟨y, hy, becomes⟩ := exists_mem_zip_of_forall₂ hxs hints p hp
      have hhint : p.1 ∈ hints := (List.of_mem_zip hp).1
      exact ih p.1 hhint ((forall_parts_tuple.1 regular).2 p.1 hhint) p.2 y becomes (hall _ hy)
  | dict key value _ ihvalue =>
    rintro regular v x ⟨_, hkept⟩ hx
    cases hx with
    | dict hfs hkeys hvalues =>
      obtain ⟨es, hes, halike⟩ := hkept.of_hasEntries hfs
      have made := (exists_mem_of_forall₂ halike).1
      refine .dict hes (fun e he => ?_) (fun e he => ?_)
      · -- keys are kept as they are, so this needs no induction hypothesis
        obtain ⟨f, hf, hkey, -⟩ := made e he
        rw [hkey]
        exact hkeys f hf
      · obtain ⟨f, hf, -, becomes⟩ := made e he
        exact ihvalue (forall_parts_dict.1 regular).2.2 e.2 f.2 becomes (hvalues f hf)
  | union barred members ih =>
    intro regular v x becomes hx
    cases hx with
    | union hmem hx =>
      exact .union hmem (ih _ hmem ((forall_parts_union.1 regular).2 _ hmem) v x becomes hx)

end Reflection

section Again

/-- A value with different keys that cannot change, and with whole numbers in the range of doubles. -/
structure IsProper (v : Value) : Prop where
  inRange : ∀ n ∈ v.integers, Double.InRange n
  keys : v.ProperKeys

/-- A part of a proper value is proper. -/
lemma IsProper.mono {w : Value} (h : IsProper v) (hintegers : w.integers ⊆ v.integers)
    (hmappings : w.mappings ⊆ v.mappings) : IsProper w :=
  ⟨fun n hn => h.inRange n (hintegers hn), fun es hes => h.keys es (hmappings hes)⟩

/-- A proper value is plain. -/
lemma IsProper.isPlain (h : IsProper v) : IsPlain v :=
  ⟨h.inRange, h.keys.plainKeys⟩

/-- The items of a proper value are proper. -/
lemma IsProper.ofItems {items : List Value} (h : IsProper v) (hitems : HasItems v items) : ∀ w ∈ items, IsProper w :=
  fun w hw => h.mono (hitems.integers_subset w hw) (hitems.mappings_subset w hw)

/-- The keys and values of a proper mapping are proper. -/
lemma IsProper.ofEntries {es : List (Value × Value)} (h : IsProper v) (hes : HasEntries v es) :
    ∀ e ∈ es, IsProper e.1 ∧ IsProper e.2 := by
  intro e he
  obtain ⟨keyIntegers, valueIntegers⟩ := hes.integers_subset e he
  refine ⟨h.mono keyIntegers ?_, h.mono valueIntegers (hes.mappings_subset e he)⟩
  rw [mappings_of_canBeKey e.1 ((h.keys es hes.mem_mappings).2 e he)]
  exact List.nil_subset _

/-- Keys are kept and no record is built, so the result has no mappings in its keys either. -/
lemma Kept.plainKeys (h : Kept hint v x) (noRecords : NoRecords hint v) : v.PlainKeys → x.PlainKeys := by
  apply h.rel (R := fun v x => v.PlainKeys → x.PlainKeys) noRecords (fun v hv => hv)
  · intro _ n d _ _ es hes
    cases hes
  · intro v x items xs hitems hxs hall hv es hes
    rw [hxs.mappings_eq] at hes
    obtain ⟨y, hy, hes⟩ := mem_itemMappings.1 hes
    obtain ⟨w, hw, plain⟩ := (exists_mem_of_forall₂ hall).2 y hy
    exact plain (hv.mono (hitems.mappings_subset w hw)) es hes
  · intro v es fs hes hfs hv
    have made := (exists_mem_of_forall₂ hfs).2
    have keys (f) (hf : f ∈ fs) : f.1.mappings = [] := by
      obtain ⟨e, he, hkey, -⟩ := made f hf
      rw [← hkey]
      exact hv es hes.mem_mappings e he
    refine List.forall_mem_cons.2 ⟨keys, fun gs hgs => ?_⟩
    obtain ⟨f, hf, hgs⟩ := mem_entryMappings.1 hgs
    rw [keys f hf] at hgs
    obtain ⟨e, he, -, plain⟩ := made f hf
    exact plain (hv.mono (hes.mappings_subset e he)) gs (hgs.resolve_left List.not_mem_nil)

/-- A regular hint keeps what it accepts. -/
lemma kept_of_regular (regular : ∀ h ∈ hint.parts, h.IsRegular) (hv : IsProper v) (h : Gives hint v x) :
    Kept hint v x :=
  kept_of_gives hint v x (fun es hes => ⟨hv.keys es hes, fun h hh => (regular h hh).fixesKeys⟩) h

/-- What a regular hint gives is plain. -/
lemma isPlain_of_regular (regular : ∀ h ∈ hint.parts, h.IsRegular) (hv : IsProper v) (h : Gives hint v x) :
    IsPlain x := by
  have hkept := kept_of_regular regular hv h
  have noRecords : NoRecords hint v := fun _ _ _ _ _ _ hrecord => regular _ hrecord
  exact ⟨fun n hn => hv.inRange n (hkept.integers_subset noRecords hn), hkept.plainKeys noRecords hv.keys.plainKeys⟩

/-- A member that refused the value refuses what became of it. -/
lemma refused_again (regular : ∀ h ∈ hint.parts, h.IsRegular) (hv : IsPlain v) (hx : IsPlain x)
    (becomes : Becomes v x) (h : ∃ e, (coerce hint v path).result = .error (.table e)) (place : Place) :
    ∃ e, (coerce hint x place).result = .error (.table e) := by
  have usable (h) (hh : h ∈ hint.parts) : IsUsable h := (regular h hh).isUsable
  obtain ⟨e, he⟩ := h
  rcases decidedBy_of_isUsable hint usable v hv path with ⟨y, hy, -⟩ | ⟨-, -, hnot⟩
  · cases hy.symm.trans he
  rcases decidedBy_of_isUsable hint usable x hx place with ⟨y, -, hconf, -⟩ | ⟨e', he', -⟩
  · exact absurd (Becomes.conforms hint regular v x becomes hconf) hnot
  · exact ⟨e', he'⟩

end Again

section Loops

variable {items xs : List Value} {fs : List (Value × Value)}

/-- Items that are settled are given as they are. -/
lemma eachItem_of_settled (h : ∀ x ∈ xs, Settled item x) (path : Place) (i : Nat) :
    (eachItem (coerce item) path i xs).result = .ok xs := by
  induction xs generalizing i with
  | nil => rfl
  | cons x rest ih =>
    obtain ⟨first, others⟩ := List.forall_mem_cons.1 h
    rw [eachItem, result_bind_of_ok (first _), result_bind_of_ok (ih others _)]
    rfl

/-- So are items that have a hint each. -/
lemma coerceEach_of_settled (hlen : hints.length = items.length)
    (h : List.Forall₂ (fun p x => Settled p.1 x) (hints.zip items) xs) (path : Place) (i : Nat) :
    hints.length = xs.length ∧ (coerceEach hints xs path i).result = .ok xs := by
  induction hints generalizing items xs i with
  | nil =>
    cases h
    exact ⟨rfl, rfl⟩
  | cons hint hints ih =>
    cases items with
    | nil => cases hlen
    | cons v rest =>
      rw [List.zip_cons_cons] at h
      cases h with
      | cons first others =>
        obtain ⟨hlength, hresult⟩ := ih (Nat.succ.inj hlen) others (i + 1)
        refine ⟨congrArg Nat.succ hlength, ?_⟩
        rw [coerceEach, result_bind_of_ok (first _), result_bind_of_ok hresult]
        rfl

/-- So are entries, if their keys can be displayed. -/
lemma eachEntry_of_settled (hkeys : ∀ f ∈ fs, Settled key f.1 ∧ f.1.text?.isSome)
    (hvalues : ∀ f ∈ fs, Settled value f.2) (path : Place) (done : List (Value × Value)) :
    (eachEntry (coerce key) (coerce value) path done fs).result = .ok (fs.foldl (fun m e => put e.1 e.2 m) done) := by
  induction fs generalizing done with
  | nil => rfl
  | cons f rest ih =>
    obtain ⟨k, w⟩ := f
    obtain ⟨⟨firstKey, hsome⟩, keys⟩ := List.forall_mem_cons.1 hkeys
    obtain ⟨firstValue, values⟩ := List.forall_mem_cons.1 hvalues
    obtain ⟨step, hstep⟩ := Option.isSome_iff_exists.1 hsome
    rw [eachEntry, result_bind_of_ok (firstKey _), result_bind_of_ok (result_ofOption_eq_ok.2 hstep),
      result_bind_of_ok (firstValue _)]
    exact ih keys values _

end Loops

section Main

/-- A scalar that was given is settled. -/
lemma settled_scalar {cls : Class} (h : (coerce (.scalar cls) v path).result = .ok x) : Settled (.scalar cls) x := by
  intro place
  rcases of_coerce_scalar h with rfl | ⟨rfl, n, d, -, -, rfl⟩
  · -- whether a value is kept does not depend on its place
    rw [coerce, coerceScalar.eq_def] at h ⊢
    split at h
    · rfl
    · cases h
    · rw [andThen_eq_bind, result_bind_eq_ok] at h
      obtain ⟨d, -, h⟩ := h
      cases h
    · split at h
      next holds => simp [holds]
      · cases h
  · rfl

/-- The entries that were made have different keys, so they are written again one after the other. -/
lemma settled_dict (hkey : ∀ w k, IsProper w → Gives key w k → Settled key k)
    (hvalue : ∀ w y, IsProper w → Gives value w y → Settled value y) (hv : IsProper v)
    (h : (coerce (.dict key value) v path).result = .ok x) : Settled (.dict key value) x := by
  intro place
  obtain ⟨es, fs, hes, hfs, rfl⟩ := of_coerce_dict h
  have settled : ∀ f ∈ fs, (Settled key f.1 ∧ f.1.text?.isSome) ∧ Settled value f.2 := by
    intro f hf
    obtain ⟨e, he, hgives⟩ := (exists_mem_of_forall₂ hfs).2 f hf
    obtain ⟨properKey, properValue⟩ := hv.ofEntries hes e he
    exact ⟨⟨hkey e.1 f.1 properKey hgives.key, hgives.step⟩, hvalue e.2 f.2 properValue hgives.value⟩
  obtain ⟨different, written⟩ :=
    ofEntries_spec (P := fun k => Settled key k ∧ k.text?.isSome) (Q := Settled value) settled
  have again := eachEntry_of_settled (fun f hf => (written f hf).1) (fun f hf => (written f hf).2) place []
  rw [coerce_dict_of_hasEntries (.map _), result_bind_of_ok again]
  -- the mapping is now written twice over
  show Except.ok (Value.map (ofEntries (ofEntries fs))) = _
  rw [ofEntries_of_differentKeys different]

/-- The members before the one that was taken refuse the result as they refused the value. -/
lemma settled_union {barred : Bool} (regular : ∀ h ∈ (Hint.union barred members).parts, h.IsRegular)
    (hmembers : ∀ m ∈ members, Gives m v x → Settled m x) (hv : IsProper v)
    (h : (coerce (.union barred members) v path).result = .ok x) : Settled (.union barred members) x := by
  intro place
  have hkept := kept_of_regular regular hv ⟨path, h⟩
  have hx := isPlain_of_regular regular hv ⟨path, h⟩
  rw [coerce_union_eq_ok] at h ⊢
  rcases h with ⟨-, hmem, rfl⟩ | ⟨hnull, before, member, after, rfl, hne, htaken, hbefore⟩
  · exact .inl ⟨rfl, hmem, rfl⟩
  · right
    constructor
    · -- nothing but null becomes null, so null was tried as any other value the first time too
      rintro rfl
      exact hnull (hkept.eq_null rfl)
    · have hmem : member ∈ before ++ member :: after := List.mem_append_right before List.mem_cons_self
      refine ⟨before, member, after, rfl, hne, hmembers member hmem ⟨path, htaken⟩ place, fun m hm hm' => ?_⟩
      have regularMember := (forall_parts_union.1 regular).2 m (List.mem_append_left _ hm)
      exact refused_again regularMember hv.isPlain hx ⟨_, hkept⟩ (hbefore m hm hm') place

/-- Whatever a regular hint gives is settled, part by part. -/
lemma settled_of_gives (hint : Hint) :
    (∀ h ∈ hint.parts, h.IsRegular) → ∀ v x, IsProper v → Gives hint v x → Settled hint x := by
  induction hint using Hint.inductOn with
  | any => exact fun _ _ _ _ _ _ => rfl
  | literal | unchecked | record => exact fun regular => (regular _ List.mem_cons_self).elim
  | scalar cls =>
    rintro - v x - ⟨path, h⟩
    exact settled_scalar h
  | instanceOf cls =>
    rintro - v x - ⟨path, h⟩ place
    cases of_coerce_instanceOf h
    rw [coerce, coerceInstance] at h ⊢
    split at h
    next holds => rw [if_pos holds, result_ok]
    · cases h
  | anyList =>
    rintro - v x - ⟨path, h⟩ place
    cases of_coerce_anyList h
    cases v with
    | list => rfl
    | _ => cases h
  | anyTuple =>
    rintro - v x - ⟨path, h⟩ place
    obtain ⟨items, -, rfl⟩ := of_coerce_anyTuple h
    rfl
  | anyDict =>
    rintro - v x hv ⟨path, h⟩ place
    rw [coerce_anyDict] at h ⊢
    exact settled_dict (fun _ _ _ _ _ => rfl) (fun _ _ _ _ _ => rfl) hv h place
  | list item ih =>
    rintro regular v x hv ⟨path, h⟩ place
    obtain ⟨items, xs, rfl, hxs, rfl⟩ := of_coerce_list h
    have settled (y) (hy : y ∈ xs) : Settled item y := by
      obtain ⟨w, hw, hgives⟩ := (exists_mem_of_forall₂ hxs).2 y hy
      exact ih (forall_parts_list.1 regular).2 w y (hv.ofItems (.list items) w hw) hgives
    rw [coerce, andThen_eq_bind, result_bind_of_ok (eachItem_of_settled settled place 0)]
    rfl
  | run item ih =>
    rintro regular v x hv ⟨path, h⟩ place
    obtain ⟨items, xs, hitems, hxs, rfl⟩ := of_coerce_run h
    have settled (y) (hy : y ∈ xs) : Settled item y := by
      obtain ⟨w, hw, hgives⟩ := (exists_mem_of_forall₂ hxs).2 y hy
      exact ih (forall_parts_run.1 regular).2 w y (hv.ofItems hitems w hw) hgives
    rw [coerce_run_of_hasItems (.tuple xs), result_bind_of_ok (eachItem_of_settled settled place 0)]
    rfl
  | tuple hints ih =>
    rintro regular v x hv ⟨path, h⟩ place
    obtain ⟨items, hitems, ⟨rfl, rfl⟩ | ⟨hne, hlen, xs, hxs, rfl⟩⟩ := of_coerce_tuple h
    · rfl
    · have settled : List.Forall₂ (fun p x => Settled p.1 x) (hints.zip items) xs := by
        apply ((List.forall₂_and_left _ _).2 ⟨fun p hp => hp, hxs⟩).imp
        rintro p y ⟨hp, hgives⟩
        obtain ⟨hhint, hitem⟩ := List.of_mem_zip hp
        exact ih p.1 hhint ((forall_parts_tuple.1 regular).2 p.1 hhint) p.2 y (hv.ofItems hitems p.2 hitem) hgives
      obtain ⟨hlength, hresult⟩ := coerceEach_of_settled hlen settled place 0
      rw [coerce_tuple_of_hasItems hne (.tuple xs), if_neg (not_not.2 hlength), result_bind_of_ok hresult]
      rfl
  | dict key value ihkey ihvalue =>
    rintro regular v x hv ⟨path, h⟩
    obtain ⟨-, keyRegular, valueRegular⟩ := forall_parts_dict.1 regular
    exact settled_dict (ihkey keyRegular) (ihvalue valueRegular) hv h
  | union barred members ih =>
    rintro regular v x hv ⟨path, h⟩
    exact settled_union regular (fun m hm => ih m hm ((forall_parts_union.1 regular).2 m hm) v x hv) hv h

/-- What was coerced to a hint is kept when it is coerced again, wherever it stands. Whole numbers are taken to be in
the range of doubles, and keys to be different and to hold nothing that can change. -/
theorem coerced_values_are_kept (hint : Hint) (v x : Value) (path place : Place)
    (regular : ∀ h ∈ hint.parts, h.IsRegular) (range : ∀ n ∈ v.integers, Double.InRange n) (proper : v.ProperKeys)
    (h : (coerce hint v path).result = .ok x) : (coerce hint x place).result = .ok x :=
  settled_of_gives hint regular v x ⟨range, proper⟩ ⟨path, h⟩ place

/-- Rows of whole numbers or of doubles under names, or nothing. -/
def rowsByName : Hint :=
  .dict .str (.union true [.run (.scalar .int), .run (.scalar .float), .instanceOf .null])

/-- One and a half, the one as a whole number. -/
def mixedRow : Value :=
  .map [(.str "a", .list [.int 1, .float (.finite false (2 ^ 52) (-53))]), (.str "b", .null)]

def doubleRow : Value :=
  .map [(.str "a", .tuple [.float (.finite false (2 ^ 52) (-52)), .float (.finite false (2 ^ 52) (-53))]),
    (.str "b", .null)]

/-- The row of whole numbers refuses the half, and then the one that was made a double. -/
theorem row_of_doubles_is_kept :
    (coerce rowsByName mixedRow []).result = .ok doubleRow ∧
      (coerce rowsByName doubleRow ["t"]).result = .ok doubleRow := by
  have one : Double.ofInt? 1 = some (.finite false (2 ^ 52) (-52)) := by rfl
  have made : (coerce rowsByName mixedRow []).result = .ok doubleRow := by
    simp [rowsByName, mixedRow, doubleRow, str, coerce, coerceFirst, coerceScalar, eachEntry, eachItem, Class.holds,
      isNull, result_bind, Except.bind, Fault.inTable, text?, put, Value.same, sameScalar, one, Text.ofString,
      Text.ofChars]
  refine ⟨made, ?_⟩
  apply coerced_values_are_kept rowsByName mixedRow doubleRow [] ["t"] _ _ _ made
  · simp [rowsByName, parts, partsOfEach, str, IsRegular]
  · decide +kernel
  · simp [mixedRow, ProperKeys, mappings, entryMappings, itemMappings, DifferentKeys, canBeKey, Value.same, sameScalar,
      Text.ofString, Text.ofChars, -Prod.forall]

end Main

end Hint

end TaggedGrammar
