import TaggedGrammar.Proofs.Hint.Accepted
import TaggedGrammar.Proofs.Value.Reordered

/-!
# What coercion keeps

`Kept` relates a value to what a hint makes of it, place by place. Lists become fixed sequences where the hint has a
fixed sequence, and mappings become records where it has a record; all else is as it was, down to the kinds of the
simple values. Keys stay the same, so that no entry of a mapping is lost. Without records the two values are equal up
to `erased`.
-/

namespace TaggedGrammar

open Outcome Value

namespace Value

mutual

/-- The value with lists in place of fixed sequences and with mappings of one kind, also in place of records. -/
def erased : Value → Value
  | list items | tuple items => list (erasedItems items)
  | map entries | ordered entries => map (erasedEntries entries)
  | record _ fields => map (erasedFields fields)
  | v => v

def erasedItems : List Value → List Value
  | [] => []
  | v :: rest => v.erased :: erasedItems rest

def erasedEntries : List (Value × Value) → List (Value × Value)
  | [] => []
  | (k, v) :: rest => (k, v.erased) :: erasedEntries rest

def erasedFields : List (String × Value) → List (Value × Value)
  | [] => []
  | (name, v) :: rest => (str name, v.erased) :: erasedFields rest

end

end Value

namespace Hint

/-- A hint that builds nothing: what it accepts stays as it is, a whole number made a double apart. -/
def IsLeaf : Hint → Prop
  | any | unchecked _ | scalar _ | instanceOf _ | literal _ | anyList => True
  | _ => False

/-- A value and what a hint made of it. Records are made where the hint has a record and nowhere else. -/
inductive Kept : Hint → Value → Value → Prop where
  | same {hint v} :
    hint.IsLeaf →
    Kept hint v v
  | wholeDouble {n d} :
    Double.ofInt? n = some d →
    Kept (.scalar .float) (.int n) (.float d)
  | list {item items xs} :
    items.length = xs.length →
    (∀ p ∈ items.zip xs, Kept item p.1 p.2) →
    Kept (.list item) (.list items) (.list xs)
  | run {item v items xs} :
    HasItems v items →
    items.length = xs.length →
    (∀ p ∈ items.zip xs, Kept item p.1 p.2) →
    Kept (.run item) v (.tuple xs)
  | anyTuple {v items} :
    HasItems v items →
    Kept .anyTuple v (.tuple items)
  | bareTuple {v items} :
    HasItems v items →
    Kept (.tuple []) v (.tuple items)
  | tuple {hints v items xs} :
    HasItems v items →
    hints.length = items.length →
    items.length = xs.length →
    (∀ p ∈ (hints.zip items).zip xs, Kept p.1.1 p.1.2 p.2) →
    Kept (.tuple hints) v (.tuple xs)
  | anyDict {v es} :
    HasEntries v es →
    Kept .anyDict v (.map es)
  | dict {key value v es fs} :
    HasEntries v es →
    es.map Prod.fst = fs.map Prod.fst →
    (∀ p ∈ es.zip fs, Kept value p.1.2 p.2.2) →
    Kept (.dict key value) v (.map fs)
  | union {barred members member v x} :
    member ∈ members →
    Kept member v x →
    Kept (.union barred members) v x
  /-- Every key names a field. Fields that are absent, or that tables may not set, have their defaults. -/
  | record {name home fields refusal v es values} :
    HasEntries v es →
    (∀ e ∈ es, ∃ f ∈ fields, e.1 = .str (Text.ofString f.name)) →
    values.map Prod.fst = (fields.filter Field.isHeld).map Field.name →
    (∀ p ∈ (fields.filter Field.isHeld).zip values, p.1.init = true →
      ∀ w, field? p.1.name es = some w → Kept p.1.hint w p.2.2) →
    (∀ p ∈ (fields.filter Field.isHeld).zip values, p.1.init = false ∨ field? p.1.name es = none →
      p.1.default = some p.2.2) →
    Kept (.record name home fields refusal) v (.record name values)

variable {hint item key value : Hint} {v x : Value} {path : Place}

section Rules

variable {items xs : List Value} {es fs : List (Value × Value)}

/-- A list is kept item by item. -/
lemma Kept.of_list (h : List.Forall₂ (Kept item) items xs) : Kept (.list item) (.list items) (.list xs) := by
  obtain ⟨hlen, hall⟩ := List.forall₂_iff_zip.1 h
  exact .list hlen fun p hp => hall hp

/-- A run is kept item by item, whichever kind of sequence it was. -/
lemma Kept.of_run (hitems : HasItems v items) (h : List.Forall₂ (Kept item) items xs) :
    Kept (.run item) v (.tuple xs) := by
  obtain ⟨hlen, hall⟩ := List.forall₂_iff_zip.1 h
  exact .run hitems hlen fun p hp => hall hp

/-- A mapping is kept entry by entry. -/
lemma Kept.of_entries (hes : HasEntries v es) (h : EntriesAlike (Kept value) es fs) :
    Kept (.dict key value) v (.map fs) :=
  .dict hes h.map_fst fun _ hp => ((List.forall₂_iff_zip.1 h).2 hp).2

/-- An instance is kept if each field that is given is. -/
lemma Kept.of_fields {name : String} {home : Option String} {fields : List (Field Hint)} {refusal : Option Text}
    {values : List (String × Value)} (hes : HasEntries v es)
    (hkeys : ∀ e ∈ es, ∃ f ∈ fields, e.1 = .str (Text.ofString f.name))
    (hvalues : List.Forall₂ (fun f p => p.1 = f.name ∧ Filled es f p.2) (fields.filter Field.isHeld) values)
    (hgiven : ∀ f ∈ fields, ∀ w, field? f.name es = some w → ∀ y, Gives f.hint w y → Kept f.hint w y) :
    Kept (.record name home fields refusal) v (.record name values) := by
  have names : values.map Prod.fst = (fields.filter Field.isHeld).map Field.name := by
    generalize fields.filter Field.isHeld = held at hvalues
    induction hvalues with
    | nil => rfl
    | cons first _ ih => rw [List.map_cons, List.map_cons, first.1, ih]
  refine .record hes hkeys names ?_ ?_
  · rintro ⟨f, p⟩ hp hinit w hw
    have hf : f ∈ fields := (List.mem_filter.1 (List.of_mem_zip hp).1).1
    cases ((List.forall₂_iff_zip.1 hvalues).2 hp).2 with
    | given _ hfield hgives =>
      cases hfield.symm.trans hw
      exact hgiven f hf _ hw _ hgives
    | absent _ hfield => cases hfield.symm.trans hw
    | preset hnot => cases hinit.symm.trans hnot
  · rintro ⟨f, p⟩ hp hunset
    cases ((List.forall₂_iff_zip.1 hvalues).2 hp).2 with
    | given hinit hfield =>
      rcases hunset with hnot | hnone
      · cases hinit.symm.trans hnot
      · cases hfield.symm.trans hnone
    | absent _ _ hdefault => exact hdefault
    | preset _ hdefault => exact hdefault

/-- What is known of the items of a fixed sequence beside their hints is known of the items. -/
lemma forall₂_of_zip_zip {R : Value → Value → Prop} {hints : List Hint} (hlen : hints.length = items.length)
    (hlen' : items.length = xs.length) (h : ∀ p ∈ (hints.zip items).zip xs, R p.1.2 p.2) :
    List.Forall₂ R items xs := by
  have snds : (hints.zip items).map Prod.snd = items := List.map_snd_zip hlen.ge
  rw [← snds, List.forall₂_map_left_iff]
  refine List.forall₂_iff_zip.2 ⟨?_, fun hp => h _ hp⟩
  rw [List.length_zip, hlen, Nat.min_self, hlen']

end Rules

section Keys

/-- Keys stay as they are: what can be a key has nothing in it that changes but whole numbers made doubles. -/
def FixesKeys : Hint → Prop
  | dict key _ => .scalar .float ∉ key.parts
  | _ => True

/-- Every mapping in the value can be looked up and has its keys kept. -/
def KeepsKeys (hint : Hint) (v : Value) : Prop :=
  ∀ es ∈ v.mappings, (DifferentKeys es ∧ ∀ e ∈ es, e.1.canBeKey) ∧ ∀ h ∈ hint.parts, h.FixesKeys

/-- The values inside have their keys kept by the hints inside. -/
lemma KeepsKeys.mono {item : Hint} {w : Value} (h : KeepsKeys hint v) (hparts : item.parts ⊆ hint.parts)
    (hmappings : w.mappings ⊆ v.mappings) : KeepsKeys item w := by
  intro es hes
  obtain ⟨proper, fixes⟩ := h es (hmappings hes)
  exact ⟨proper, fun h hh => fixes h (hparts hh)⟩

/-- Without mappings there are no keys. -/
lemma keepsKeys_of_mappings (h : v.mappings = []) : KeepsKeys hint v := by
  rw [KeepsKeys, h]
  exact List.forall_mem_nil _

/-- A hint without doubles keeps all keys. -/
lemma keepsKeys_of_noFloat (proper : v.ProperKeys) (noFloat : .scalar .float ∉ hint.parts) : KeepsKeys hint v := by
  intro es hes
  refine ⟨proper es hes, fun h hh => ?_⟩
  cases h with
  | dict key value =>
    intro hfloat
    exact noFloat (parts_subset_of_mem hint _ hh (parts_subset_dict.1 hfloat))
  | _ => trivial

/-- What can be a key holds no list, so nothing but a number in it can change. -/
lemma Kept.eq_of_canBeKey (h : Kept hint v x) (noFloat : .scalar .float ∉ hint.parts) (hv : v.canBeKey) : x = v := by
  -- the items of a fixed sequence that can be a key can be keys themselves
  have of_items {v : Value} {items xs : List Value} (hitems : HasItems v items) (hv : v.canBeKey)
      (h : List.Forall₂ (fun w y => w.canBeKey → y = w) items xs) : Value.tuple xs = v := by
    cases hitems with
    | list => cases hv
    | tuple =>
      rw [canBeKey] at hv
      have equal : List.Forall₂ Eq items xs := by
        apply ((List.forall₂_and_left _ _).2 ⟨canBeKeys_iff.1 hv, h⟩).imp
        rintro w y ⟨hw, heq⟩
        exact (heq hw).symm
      rw [List.forall₂_eq_eq_eq] at equal
      rw [equal]
  induction h with
  | same => rfl
  | wholeDouble => exact absurd List.mem_cons_self noFloat
  | list => cases hv
  | run hitems hlen _ ih =>
    refine of_items hitems hv (List.forall₂_iff_zip.2 ⟨hlen, fun {w y} hp => ih (w, y) hp ?_⟩)
    exact fun hfloat => noFloat (parts_subset_run hfloat)
  | anyTuple hitems | bareTuple hitems =>
    exact of_items hitems hv (List.forall₂_same.2 fun w _ _ => rfl)
  | tuple hitems hlen hlen' _ ih =>
    refine of_items hitems hv (forall₂_of_zip_zip hlen hlen' fun p hp => ih p hp fun hfloat => noFloat ?_)
    exact parts_subset_tuple (List.of_mem_zip (List.of_mem_zip hp).1).1 hfloat
  | anyDict hes | dict hes | record hes => cases hes <;> cases hv
  | union hmem _ ih => exact ih (fun hfloat => noFloat (parts_subset_union hmem hfloat)) hv

end Keys

section Results

/-- No entry is lost, because no two keys become the same. -/
lemma entriesAlike_of_gives_dict {R : Value → Value → Prop} {es : List (Value × Value)} (hes : HasEntries v es)
    (different : DifferentKeys es) (hkeys : ∀ e ∈ es, ∀ k, Gives key e.1 k → k = e.1)
    (hvalues : ∀ e ∈ es, ∀ y, Gives value e.2 y → R e.2 y)
    (h : (coerce (.dict key value) v path).result = .ok x) : ∃ fs, EntriesAlike R es fs ∧ x = .map fs := by
  obtain ⟨es', fs, hes', hfs, rfl⟩ := of_coerce_dict h
  cases hes.unique hes'
  have alike : EntriesAlike R es fs := by
    apply ((List.forall₂_and_left _ _).2 ⟨fun e he => he, hfs⟩).imp
    rintro e f ⟨he, hf⟩
    exact ⟨(hkeys e he f.1 hf.key).symm, hvalues e he f.2 hf.value⟩
  have different' : DifferentKeys fs := by
    rw [DifferentKeys, ← alike.map_fst]
    exact different
  rw [ofEntries_of_differentKeys different']
  exact ⟨fs, alike, rfl⟩

/-- One case for each kind of hint; what is made of the values inside is kept by the hints inside. -/
lemma kept_of_gives (hint : Hint) : ∀ v x, KeepsKeys hint v → Gives hint v x → Kept hint v x := by
  have of_eq {hint : Hint} {v x : Value} (leaf : hint.IsLeaf) (heq : x = v) : Kept hint v x := by
    rw [heq]
    exact .same leaf
  induction hint using Hint.inductOn with
  | any | unchecked =>
    rintro v x - ⟨path, h⟩
    cases h
    exact .same trivial
  | scalar cls =>
    rintro v x - ⟨path, h⟩
    rcases of_coerce_scalar h with heq | ⟨rfl, n, d, rfl, hd, rfl⟩
    · exact of_eq trivial heq
    · exact .wholeDouble hd
  | instanceOf cls =>
    rintro v x - ⟨path, h⟩
    exact of_eq trivial (of_coerce_instanceOf h)
  | literal options =>
    rintro v x - ⟨path, h⟩
    exact of_eq trivial (of_coerce_literal h)
  | anyList =>
    rintro v x - ⟨path, h⟩
    exact of_eq trivial (of_coerce_anyList h)
  | anyTuple =>
    rintro v x - ⟨path, h⟩
    obtain ⟨items, hitems, rfl⟩ := of_coerce_anyTuple h
    exact .anyTuple hitems
  | anyDict =>
    rintro v x hv ⟨path, h⟩
    rw [coerce_anyDict] at h
    obtain ⟨es, _, hes, -⟩ := of_coerce_dict h
    obtain ⟨⟨different, -⟩, -⟩ := hv es hes.mem_mappings
    have unchanged (w y) (hy : Gives .any w y) : y = w := by
      obtain ⟨_, hy⟩ := hy
      cases hy
      rfl
    obtain ⟨fs, alike, rfl⟩ := entriesAlike_of_gives_dict (R := Eq) hes different (fun e _ => unchanged e.1)
      (fun e _ y hy => (unchanged e.2 y hy).symm) h
    rw [← alike.eq]
    exact .anyDict hes
  | list item ih =>
    rintro v x hv ⟨path, h⟩
    obtain ⟨items, xs, rfl, hxs, rfl⟩ := of_coerce_list h
    refine .of_list (forall₂_of_gives hxs fun w hw y => ih w y ?_)
    exact hv.mono parts_subset_list ((HasItems.list items).mappings_subset w hw)
  | run item ih =>
    rintro v x hv ⟨path, h⟩
    obtain ⟨items, xs, hitems, hxs, rfl⟩ := of_coerce_run h
    refine .of_run hitems (forall₂_of_gives hxs fun w hw y => ih w y ?_)
    exact hv.mono parts_subset_run (hitems.mappings_subset w hw)
  | tuple hints ih =>
    rintro v x hv ⟨path, h⟩
    obtain ⟨items, hitems, ⟨rfl, rfl⟩ | ⟨-, hlen, xs, hxs, rfl⟩⟩ := of_coerce_tuple h
    · exact .bareTuple hitems
    · obtain ⟨hlen', hall⟩ := List.forall₂_iff_zip.1 hxs
      rw [List.length_zip, hlen, Nat.min_self] at hlen'
      refine .tuple hitems hlen hlen' fun p hp => ?_
      obtain ⟨hh, hw⟩ := List.of_mem_zip (List.of_mem_zip hp).1
      apply ih p.1.1 hh p.1.2 p.2
      · exact hv.mono (parts_subset_tuple hh) (hitems.mappings_subset p.1.2 hw)
      · exact hall hp
  | union barred members ih =>
    rintro v x hv ⟨path, h⟩
    rcases coerce_union_eq_ok.1 h with ⟨rfl, hmem, rfl⟩ | ⟨-, hfirst⟩
    · exact .union hmem (.same trivial)
    · obtain ⟨member, hmem, hx⟩ := hfirst.exists_member
      refine .union hmem (ih member hmem v x ?_ hx)
      exact hv.mono (parts_subset_union hmem) (List.Subset.refl _)
  | dict key value ihkey ihvalue =>
    rintro v x hv ⟨path, h⟩
    obtain ⟨es, _, hes, -⟩ := of_coerce_dict h
    obtain ⟨⟨different, canBeKeys⟩, fixes⟩ := hv es hes.mem_mappings
    have keys (e) (he : e ∈ es) (k) (hk : Gives key e.1 k) : k = e.1 := by
      have plain : KeepsKeys key e.1 := keepsKeys_of_mappings (mappings_of_canBeKey e.1 (canBeKeys e he))
      exact (ihkey e.1 k plain hk).eq_of_canBeKey (fixes _ List.mem_cons_self) (canBeKeys e he)
    obtain ⟨fs, alike, rfl⟩ := entriesAlike_of_gives_dict (R := Kept value) hes different keys
      (fun e he y => ihvalue e.2 y (hv.mono parts_subset_dict.2 (hes.mappings_subset e he))) h
    exact .of_entries hes alike
  | record name home fields refusal ih =>
    rintro v x hv ⟨path, h⟩
    obtain ⟨es, values, hes, hkeys, hvalues, rfl⟩ := of_coerce_record h
    refine .of_fields hes hkeys hvalues fun f hf w hw y => ih f hf w y ?_
    have hmappings : w.mappings ⊆ v.mappings := of_lookup (P := fun w => w.mappings ⊆ v.mappings) hes.mappings_subset hw
    exact hv.mono (parts_subset_record hf) hmappings

end Results

section Contents

variable {items xs : List Value} {es fs : List (Value × Value)}

/-- No record is built of the value. -/
def NoRecords (hint : Hint) (v : Value) : Prop :=
  ∀ es ∈ v.mappings, ∀ name home fields refusal, Hint.record name home fields refusal ∉ hint.parts

/-- No record is built of the values inside by the hints inside. -/
lemma NoRecords.mono {w : Value} (h : NoRecords hint v) (hparts : item.parts ⊆ hint.parts)
    (hmappings : w.mappings ⊆ v.mappings) : NoRecords item w :=
  fun es hes name home fields refusal hmem => h es (hmappings hes) name home fields refusal (hparts hmem)

/-- Records are built of mappings only. -/
lemma noRecords_of_mappings (h : v.mappings = []) : NoRecords hint v := by
  rw [NoRecords, h]
  exact List.forall_mem_nil _

/-- Entries are alike if their keys are the same and their values are related one by one. -/
lemma entriesAlike_of_zip {R : Value → Value → Prop} (hkeys : es.map Prod.fst = fs.map Prod.fst)
    (h : ∀ p ∈ es.zip fs, R p.1.2 p.2.2) : EntriesAlike R es fs := by
  induction es generalizing fs with
  | nil =>
    cases fs with
    | nil => exact .nil
    | cons => cases hkeys
  | cons e rest ih =>
    cases fs with
    | nil => cases hkeys
    | cons f others =>
      obtain ⟨hkey, hkeys⟩ := List.cons.inj hkeys
      obtain ⟨first, later⟩ := List.forall_mem_cons.1 h
      exact .cons ⟨hkey, first⟩ (ih hkeys later)

/-- Without records each part of the result is made of a part of the value, so a relation that holds of unchanged
parts and passes from the parts to the whole holds. -/
lemma Kept.rel {R : Value → Value → Prop} (h : Kept hint v x) (noRecords : NoRecords hint v) (same : ∀ v, R v v)
    (wholeDouble : .scalar .float ∈ hint.parts → ∀ n d, Double.ofInt? n = some d → R (.int n) (.float d))
    (sequence : ∀ v x items xs, HasItems v items → HasItems x xs → List.Forall₂ R items xs → R v x)
    (map : ∀ v es fs, HasEntries v es → EntriesAlike R es fs → R v (.map fs)) : R v x := by
  induction h with
  | same => exact same _
  | wholeDouble hd => exact wholeDouble List.mem_cons_self _ _ hd
  | @list item items xs hlen _ ih =>
    have hitems := HasItems.list items
    apply sequence _ _ _ _ hitems (.list xs)
    refine List.forall₂_iff_zip.2 ⟨hlen, fun {w y} hp => ih (w, y) hp (noRecords.mono parts_subset_list ?_) ?_⟩
    · exact hitems.mappings_subset w (List.of_mem_zip hp).1
    · exact fun hfloat => wholeDouble (parts_subset_list hfloat)
  | @run item v items xs hitems hlen _ ih =>
    apply sequence _ _ _ _ hitems (.tuple xs)
    refine List.forall₂_iff_zip.2 ⟨hlen, fun {w y} hp => ih (w, y) hp (noRecords.mono parts_subset_run ?_) ?_⟩
    · exact hitems.mappings_subset w (List.of_mem_zip hp).1
    · exact fun hfloat => wholeDouble (parts_subset_run hfloat)
  | anyTuple hitems | bareTuple hitems =>
    exact sequence _ _ _ _ hitems (.tuple _) (List.forall₂_same.2 fun w _ => same w)
  | @tuple hints v items xs hitems hlen hlen' _ ih =>
    apply sequence _ _ _ _ hitems (.tuple xs)
    refine forall₂_of_zip_zip hlen hlen' fun p hp => ?_
    obtain ⟨hh, hw⟩ := List.of_mem_zip (List.of_mem_zip hp).1
    refine ih p hp (noRecords.mono (parts_subset_tuple hh) (hitems.mappings_subset p.1.2 hw)) ?_
    exact fun hfloat => wholeDouble (parts_subset_tuple hh hfloat)
  | anyDict hes => exact map _ _ _ hes (List.forall₂_same.2 fun e _ => ⟨rfl, same e.2⟩)
  | dict hes hkeys _ ih =>
    refine map _ _ _ hes (entriesAlike_of_zip hkeys fun p hp => ih p hp (noRecords.mono parts_subset_dict.2 ?_) ?_)
    · exact hes.mappings_subset p.1 (List.of_mem_zip hp).1
    · exact fun hfloat => wholeDouble (parts_subset_dict.2 hfloat)
  | union hmem _ ih =>
    apply ih (noRecords.mono (parts_subset_union hmem) (List.Subset.refl _))
    exact fun hfloat => wholeDouble (parts_subset_union hmem hfloat)
  | record hes => exact absurd List.mem_cons_self (noRecords _ hes.mem_mappings _ _ _ _)

/-- The items of what was made hold no other numbers than the items before. -/
lemma itemIntegers_subset (h : List.Forall₂ (fun v x => x.integers ⊆ v.integers) items xs) :
    itemIntegers xs ⊆ itemIntegers items := by
  induction h with
  | nil => exact List.Subset.refl _
  | cons first _ ih =>
    rw [itemIntegers, itemIntegers]
    apply List.append_subset.2
    exact ⟨List.subset_append_of_subset_left _ first, List.subset_append_of_subset_right _ ih⟩

/-- The entries of what was made hold no other numbers than the entries before. -/
lemma entryIntegers_subset (h : EntriesAlike (fun v x => x.integers ⊆ v.integers) es fs) :
    entryIntegers fs ⊆ entryIntegers es := by
  induction h with
  | nil => exact List.Subset.refl _
  | @cons e f _ _ first _ ih =>
    obtain ⟨hkey, hvalue⟩ := first
    rw [entryIntegers, entryIntegers, hkey]
    refine List.append_subset.2 ⟨List.subset_append_left _ _, List.subset_append_of_subset_right _ ?_⟩
    apply List.append_subset.2
    exact ⟨List.subset_append_of_subset_left _ hvalue, List.subset_append_of_subset_right _ ih⟩

/-- Only the defaults of records bring in new numbers. -/
lemma Kept.integers_subset (h : Kept hint v x) (noRecords : NoRecords hint v) : x.integers ⊆ v.integers := by
  apply h.rel (R := fun v x => x.integers ⊆ v.integers) noRecords (fun v => List.Subset.refl _)
  · intro _ n d _
    exact List.nil_subset _
  · intro v x items xs hitems hxs hall
    rw [hitems.integers_eq, hxs.integers_eq]
    exact itemIntegers_subset hall
  · intro v es fs hes hfs
    rw [integers, hes.integers_eq]
    exact entryIntegers_subset hfs

/-- Both kinds of sequences are erased to lists. -/
lemma HasItems.erased_eq (h : HasItems v items) : v.erased = .list (erasedItems items) := by
  cases h <;> rw [erased]

/-- Both kinds of mappings are erased to one. -/
lemma HasEntries.erased_eq (h : HasEntries v es) : v.erased = .map (erasedEntries es) := by
  cases h <;> rw [erased]

/-- Items that are erased to the same are so together. -/
lemma erasedItems_eq (h : List.Forall₂ (fun v x => x.erased = v.erased) items xs) :
    erasedItems xs = erasedItems items := by
  induction h with
  | nil => rfl
  | cons first _ ih => rw [erasedItems, erasedItems, first, ih]

/-- Entries that are erased to the same are so together. -/
lemma erasedEntries_eq (h : EntriesAlike (fun v x => x.erased = v.erased) es fs) :
    erasedEntries fs = erasedEntries es := by
  induction h with
  | nil => rfl
  | cons first _ ih => rw [erasedEntries, erasedEntries, first.1, first.2, ih]

/-- Where neither records nor doubles are made, the value and the result are erased to the same. -/
lemma Kept.erased_eq (h : Kept hint v x) (noRecords : NoRecords hint v) (noFloat : .scalar .float ∉ hint.parts) :
    x.erased = v.erased := by
  apply h.rel (R := fun v x => x.erased = v.erased) noRecords (fun v => rfl)
  · intro hfloat
    exact absurd hfloat noFloat
  · intro v x items xs hitems hxs hall
    rw [hitems.erased_eq, hxs.erased_eq, erasedItems_eq hall]
  · intro v es fs hes hfs
    rw [hes.erased_eq, erased, erasedEntries_eq hfs]

end Contents

/-- Coercion to a hint without doubles loses and invents nothing. Where the hint has no record, items and entries are
as many, in the same order and with the same keys, and simple values stay. Where it has one, the record has the values
of the mapping under its keys, which all name fields of it, and its defaults in the fields that the mapping does not
have or may not set. Without records the result is the value with fixed sequences in place of lists. Keys are taken to
be different and to hold nothing that can change. -/
theorem coercion_keeps_values (hint : Hint) (v x : Value) (path : Place) (proper : v.ProperKeys)
    (noFloat : .scalar .float ∉ hint.parts) (h : (coerce hint v path).result = .ok x) :
    Kept hint v x ∧
      ((∀ name home fields refusal, .record name home fields refusal ∉ hint.parts) → x.erased = v.erased) := by
  have hkept : Kept hint v x := kept_of_gives hint v x (keepsKeys_of_noFloat proper noFloat) ⟨path, h⟩
  exact ⟨hkept, fun noRecords => hkept.erased_eq (fun _ _ => noRecords) noFloat⟩

section Sample

/-- Languages by name, each with its sources and with a rank that tables may not set. -/
def languagesByName : Hint :=
  .dict .str (.record "Language" none
    [⟨"title", .str, none, true⟩, ⟨"sources", .run (.union false [.scalar .int, .str]), some (.tuple []), true⟩,
      ⟨"rank", .scalar .int, some (.int 1), false⟩] none)

/-- The first language sets its rank nonetheless, and the second one leaves out its sources. -/
def languageTable : Value :=
  .map [
    (.str "go", .map [(.str "rank", .int 7), (.str "sources", .list [.str "a", .int 2]), (.str "title", .str "Go")]),
    (.str "c", .map [(.str "title", .str "C")])]

def languageRecords : Value :=
  .map [
    (.str "go", .record "Language"
      [("title", .str "Go"), ("sources", .tuple [.str "a", .int 2]), ("rank", .int 1)]),
    (.str "c", .record "Language" [("title", .str "C"), ("sources", .tuple []), ("rank", .int 1)])]

/-- Sources under keys of several kinds. -/
def sourcesByKey : Hint :=
  .dict (.union false [.str, .any]) (.run (.list .any))

def sourceTable : Value :=
  .ordered [(.str "b", .list [.list [.int 1, .bool true]]), (.bool true, .tuple [])]

def sourceRuns : Value :=
  .map [(.str "b", .tuple [.list [.int 1, .bool true]]), (.bool true, .tuple [])]

/-- What the languages of the sample become. -/
lemma coerce_languageTable : (coerce languagesByName languageTable []).result = .ok languageRecords := by
  simp [languagesByName, languageTable, languageRecords, str, coerce, coerceFirst, coerceScalar, coerceFields,
    eachEntry, eachItem, checkKeys, extraKeys, Class.holds, isNull, result_bind, Except.bind, Fault.inTable, text?, put,
    field?, lookup, Value.same, sameScalar, Text.ofString, Text.ofChars]

/-- What the sources of the sample become. -/
lemma coerce_sourceTable : (coerce sourcesByKey sourceTable []).result = .ok sourceRuns := by
  simp [sourcesByKey, sourceTable, sourceRuns, str, coerce, coerceFirst, coerceScalar, eachEntry, eachItem,
    Class.holds, isNull, result_bind, Except.bind, Fault.inTable, text?, literal?, put, Value.same, sameScalar]

/-- The languages of the sample have proper keys. -/
lemma properKeys_languageTable : languageTable.ProperKeys := by
  simp [languageTable, ProperKeys, mappings, entryMappings, itemMappings, DifferentKeys, canBeKey, Value.same,
    sameScalar, Text.ofString, Text.ofChars, -Prod.forall]

/-- The sources of the sample have proper keys. -/
lemma properKeys_sourceTable : sourceTable.ProperKeys := by
  simp [sourceTable, ProperKeys, mappings, entryMappings, itemMappings, DifferentKeys, canBeKey, Value.same, sameScalar,
    -Prod.forall]

/-- Languages keep their values as records, and sources without records keep all that is erased. -/
theorem coercion_keeps_language_values :
    ((coerce languagesByName languageTable []).result = .ok languageRecords ∧
        Kept languagesByName languageTable languageRecords) ∧
      (coerce sourcesByKey sourceTable []).result = .ok sourceRuns ∧ sourceRuns.erased = sourceTable.erased := by
  refine ⟨⟨coerce_languageTable, ?_⟩, coerce_sourceTable, ?_⟩
  · have noFloat : .scalar .float ∉ languagesByName.parts := by
      simp [languagesByName, parts, partsOfEach, partsOfFields, str]
    exact (coercion_keeps_values _ _ _ [] properKeys_languageTable noFloat coerce_languageTable).1
  · have noFloat : .scalar .float ∉ sourcesByKey.parts := by simp [sourcesByKey, parts, partsOfEach, str]
    apply (coercion_keeps_values _ _ _ [] properKeys_sourceTable noFloat coerce_sourceTable).2
    simp [sourcesByKey, parts, partsOfEach, str]

end Sample

end Hint

end TaggedGrammar
