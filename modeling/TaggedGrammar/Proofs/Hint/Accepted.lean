import TaggedGrammar.Proofs.Hint.Conformance

/-!
# What becomes of accepted values

A value is accepted because the values in it are accepted by the hints inside. For each kind of hint one lemma says
what the result is made of. A choice takes the first of its members that accepts the value.
-/

namespace TaggedGrammar

open Outcome Value

namespace Hint

/-- The hint makes `x` of `v`, at some place. -/
def Gives (hint : Hint) (v x : Value) : Prop :=
  ∃ path, (coerce hint v path).result = .ok x

/-- An entry is made of another one. Its key has a text, for it is the step to the value. -/
structure GivesEntry (key value : Hint) (e f : Value × Value) : Prop where
  key : Gives key e.1 f.1
  step : f.1.text?.isSome
  value : Gives value e.2 f.2

/-- The first member that does not refuse the value makes `x` of it. Null is not tried. -/
def FirstGives (members : List Hint) (v : Value) (path : Place) (x : Value) : Prop :=
  ∃ before member after, members = before ++ member :: after ∧ member ≠ .instanceOf .null ∧
    (coerce member v path).result = .ok x ∧
    ∀ m ∈ before, m ≠ .instanceOf .null → ∃ e, (coerce m v path).result = .error (.table e)

/-- Where the value of a record's field comes from. -/
inductive Filled (entries : List (Value × Value)) (f : Field Hint) (x : Value) : Prop where
  | given {w} :
    f.init = true →
    field? f.name entries = some w →
    Gives f.hint w x →
    Filled entries f x
  | absent :
    f.init = true →
    field? f.name entries = none →
    f.default = some x →
    Filled entries f x
  | preset :
    f.init = false →
    f.default = some x →
    Filled entries f x

variable {hint item key value : Hint} {hints members : List Hint} {v x : Value} {path : Place}

section Loops

variable {items xs : List Value} {entries done out : List (Value × Value)}

/-- Items that are accepted one by one are each accepted. -/
lemma forall₂_of_eachItem {i : Nat} (h : (eachItem (coerce item) path i items).result = .ok xs) :
    List.Forall₂ (Gives item) items xs := by
  induction items generalizing i xs with
  | nil =>
    cases h
    exact .nil
  | cons v rest ih =>
    rw [eachItem, result_bind_eq_ok] at h
    obtain ⟨x, hx, h⟩ := h
    rw [result_bind_eq_ok] at h
    obtain ⟨others, hothers, h⟩ := h
    cases h
    exact .cons ⟨_, hx⟩ (ih hothers)

/-- So are items that have a hint each. -/
lemma forall₂_of_coerceEach {i : Nat} (h : (coerceEach hints items path i).result = .ok xs) :
    List.Forall₂ (fun p x => Gives p.1 p.2 x) (hints.zip items) xs := by
  induction hints generalizing items i xs with
  | nil =>
    cases h
    exact .nil
  | cons hint hints ih =>
    cases items with
    | nil =>
      cases h
      exact .nil
    | cons v rest =>
      rw [coerceEach, result_bind_eq_ok] at h
      obtain ⟨x, hx, h⟩ := h
      rw [result_bind_eq_ok] at h
      obtain ⟨others, hothers, h⟩ := h
      cases h
      exact .cons ⟨_, hx⟩ (ih hothers)

/-- What a hint makes of items is related to them as it is for each item. -/
lemma forall₂_of_gives {R : Value → Value → Prop} (h : List.Forall₂ (Gives item) items xs)
    (hR : ∀ v ∈ items, ∀ x, Gives item v x → R v x) : List.Forall₂ R items xs := by
  induction h with
  | nil => exact .nil
  | cons hx _ ih =>
    obtain ⟨first, others⟩ := List.forall_mem_cons.1 hR
    exact .cons (first _ hx) (ih others)

/-- The entries are made one by one, and each is written after those before it. -/
lemma exists_of_eachEntry (h : (eachEntry (coerce key) (coerce value) path done entries).result = .ok out) :
    ∃ fs, List.Forall₂ (GivesEntry key value) entries fs ∧ out = fs.foldl (fun m e => put e.1 e.2 m) done := by
  induction entries generalizing done with
  | nil =>
    cases h
    exact ⟨[], .nil, rfl⟩
  | cons e rest ih =>
    obtain ⟨k, w⟩ := e
    rw [eachEntry, result_bind_eq_ok] at h
    obtain ⟨k', hk', h⟩ := h
    rw [result_bind_eq_ok] at h
    obtain ⟨step, hstep, h⟩ := h
    rw [result_bind_eq_ok] at h
    obtain ⟨w', hw', h⟩ := h
    obtain ⟨fs, hfs, rfl⟩ := ih h
    have text : k'.text?.isSome := Option.isSome_iff_exists.2 ⟨step, result_ofOption_eq_ok.1 hstep⟩
    exact ⟨(k', w') :: fs, .cons ⟨⟨_, hk'⟩, text, _, hw'⟩ hfs, rfl⟩

/-- A choice gives what its first member that accepts the value gives. -/
lemma coerceFirst_eq_ok {refusals : List Text} :
    (coerceFirst members v path refusals).result = .ok x ↔ FirstGives members v path x := by
  induction members generalizing refusals with
  | nil =>
    refine iff_of_false coerceFirst_nil_ne_ok ?_
    rintro ⟨before, member, after, heq, -⟩
    exact absurd heq.symm (List.append_ne_nil_of_right_ne_nil before (List.cons_ne_nil member after))
  | cons m rest ih =>
    -- what the members behind the first one do counts if it is null or refuses
    have later (skipped : m ≠ .instanceOf .null → ∃ e, (coerce m v path).result = .error (.table e)) :
        FirstGives (m :: rest) v path x ↔ FirstGives rest v path x := by
      constructor
      · rintro ⟨before, member, after, heq, hne, hx, hbefore⟩
        cases before with
        | nil =>
          cases heq
          obtain ⟨e, he⟩ := skipped hne
          cases hx.symm.trans he
        | cons _ before =>
          cases heq
          exact ⟨before, member, after, rfl, hne, hx, (List.forall_mem_cons.1 hbefore).2⟩
      · rintro ⟨before, member, after, rfl, hne, hx, hbefore⟩
        exact ⟨m :: before, member, after, rfl, hne, hx, List.forall_mem_cons.2 ⟨skipped, hbefore⟩⟩
    by_cases hnull : isNull m = true
    · rw [coerceFirst, if_pos hnull, ih, later fun hne => absurd (isNull_iff.1 hnull) hne]
    · have hm : m ≠ .instanceOf .null := mt isNull_iff.2 hnull
      rw [coerceFirst_cons_eq_ok (Bool.not_eq_true _ ▸ hnull)]
      constructor
      · rintro (hx | ⟨e, he, hrest⟩)
        · exact ⟨[], m, rest, rfl, hm, hx, List.forall_mem_nil _⟩
        · exact (later fun _ => ⟨e, he⟩).2 (ih.1 hrest)
      · rintro ⟨before, member, after, heq, hne, hx, hbefore⟩
        cases before with
        | nil =>
          cases heq
          exact .inl hx
        | cons _ before =>
          cases heq
          obtain ⟨first, others⟩ := List.forall_mem_cons.1 hbefore
          obtain ⟨e, he⟩ := first hm
          exact .inr ⟨e, he, ih.2 ⟨before, member, after, rfl, hne, hx, others⟩⟩

/-- The fields that every instance has get their values one by one. -/
lemma filled_of_coerceFields {fields : List (Field Hint)} {values : List (String × Value)}
    (h : (coerceFields fields entries path).result = .ok values) :
    List.Forall₂ (fun f p => p.1 = f.name ∧ Filled entries f p.2) (fields.filter Field.isHeld) values := by
  induction fields generalizing values with
  | nil =>
    cases h
    exact .nil
  | cons f rest ih =>
    have followed (here : List (String × Value))
        (hrest : (coerceFields rest entries path >>= fun others => Outcome.ok (here ++ others)).result = .ok values) :
        ∃ others, values = here ++ others ∧
          List.Forall₂ (fun f p => p.1 = f.name ∧ Filled entries f p.2) (rest.filter Field.isHeld) others := by
      rw [result_bind_eq_ok] at hrest
      obtain ⟨others, hothers, hvalues⟩ := hrest
      cases hvalues
      exact ⟨others, rfl, ih hothers⟩
    obtain ⟨name, hint, default, init⟩ := f
    unfold coerceFields at h
    cases init with
    | false =>
      cases default with
      | none =>
        obtain ⟨others, rfl, hothers⟩ := followed [] h
        exact hothers
      | some d =>
        obtain ⟨others, rfl, hothers⟩ := followed [(name, d)] h
        exact .cons ⟨rfl, .preset rfl rfl⟩ hothers
    | true =>
      cases hfield : field? name entries with
      | some w =>
        rw [hfield] at h
        dsimp only at h
        rw [result_bind_eq_ok] at h
        obtain ⟨x, hx, h⟩ := h
        obtain ⟨others, rfl, hothers⟩ := followed [(name, x)] h
        exact .cons ⟨rfl, .given rfl hfield ⟨_, hx⟩⟩ hothers
      | none =>
        rw [hfield] at h
        cases default with
        | none => cases h
        | some d =>
          obtain ⟨others, rfl, hothers⟩ := followed [(name, d)] h
          exact .cons ⟨rfl, .absent rfl hfield rfl⟩ hothers

end Loops

section Hints

/-- A scalar is kept, apart from a whole number that becomes a double. -/
lemma of_coerce_scalar {cls : Class} (h : (coerce (.scalar cls) v path).result = .ok x) :
    x = v ∨ cls = .float ∧ ∃ n d, v = .int n ∧ Double.ofInt? n = some d ∧ x = .float d := by
  rw [coerce, coerceScalar.eq_def] at h
  split at h
  · cases h
    exact .inl rfl
  · cases h
  next n =>
    rw [andThen_eq_bind, result_bind_eq_ok] at h
    obtain ⟨d, hd, h⟩ := h
    cases h
    exact .inr ⟨rfl, n, d, rfl, result_ofOption_eq_ok.1 hd, rfl⟩
  · split at h
    · cases h
      exact .inl rfl
    · cases h

/-- An instance is kept. -/
lemma of_coerce_instanceOf {cls : Class} (h : (coerce (.instanceOf cls) v path).result = .ok x) : x = v := by
  rw [coerce, coerceInstance] at h
  split at h
  · cases h
    rfl
  · cases h

/-- An option of a literal is kept. -/
lemma of_coerce_literal {options : List Value} (h : (coerce (.literal options) v path).result = .ok x) : x = v := by
  rw [coerce, coerceLiteral] at h
  split at h
  · cases h
    rfl
  · split at h <;> cases h

/-- A list of anything is kept. -/
lemma of_coerce_anyList (h : (coerce .anyList v path).result = .ok x) : x = v := by
  by_cases hlist : ∃ items, v = .list items
  · obtain ⟨items, rfl⟩ := hlist
    cases h
    rfl
  · rw [coerce_anyList_of_not (not_exists.1 hlist)] at h
    cases h

/-- A sequence of anything keeps its items. -/
lemma of_coerce_anyTuple (h : (coerce .anyTuple v path).result = .ok x) :
    ∃ items, HasItems v items ∧ x = .tuple items := by
  rcases hasItems_or_not v with ⟨items, hitems⟩ | hnone
  · rw [coerce_anyTuple_of_hasItems hitems] at h
    cases h
    exact ⟨items, hitems, rfl⟩
  · rw [coerce_anyTuple_of_not hnone] at h
    cases h

/-- A list gives a list of what its items give. -/
lemma of_coerce_list (h : (coerce (.list item) v path).result = .ok x) :
    ∃ items xs, v = .list items ∧ List.Forall₂ (Gives item) items xs ∧ x = .list xs := by
  by_cases hlist : ∃ items, v = .list items
  · obtain ⟨items, rfl⟩ := hlist
    rw [coerce, andThen_eq_bind, result_bind_eq_ok] at h
    obtain ⟨xs, hxs, h⟩ := h
    cases h
    exact ⟨items, xs, rfl, forall₂_of_eachItem hxs, rfl⟩
  · rw [coerce_list_of_not (not_exists.1 hlist)] at h
    cases h

/-- A run gives the sequence of what its items give. -/
lemma of_coerce_run (h : (coerce (.run item) v path).result = .ok x) :
    ∃ items xs, HasItems v items ∧ List.Forall₂ (Gives item) items xs ∧ x = .tuple xs := by
  rcases hasItems_or_not v with ⟨items, hitems⟩ | hnone
  · rw [coerce_run_of_hasItems hitems, result_bind_eq_ok] at h
    obtain ⟨xs, hxs, h⟩ := h
    cases h
    exact ⟨items, xs, hitems, forall₂_of_eachItem hxs, rfl⟩
  · rw [coerce_run_of_not hnone] at h
    cases h

/-- A fixed sequence gives what its items give, and with no hints it keeps them. -/
lemma of_coerce_tuple (h : (coerce (.tuple hints) v path).result = .ok x) :
    ∃ items, HasItems v items ∧
      (hints = [] ∧ x = .tuple items ∨
        hints ≠ [] ∧ hints.length = items.length ∧
          ∃ xs, List.Forall₂ (fun p x => Gives p.1 p.2 x) (hints.zip items) xs ∧ x = .tuple xs) := by
  rcases hasItems_or_not v with ⟨items, hitems⟩ | hnone
  · refine ⟨items, hitems, ?_⟩
    rcases eq_or_ne hints [] with rfl | hne
    · rw [coerce_bareTuple_of_hasItems hitems] at h
      cases h
      exact .inl ⟨rfl, rfl⟩
    · rw [coerce_tuple_of_hasItems hne hitems] at h
      split at h
      · cases h
      next hlen =>
        rw [result_bind_eq_ok] at h
        obtain ⟨xs, hxs, h⟩ := h
        cases h
        exact .inr ⟨hne, not_not.1 hlen, xs, forall₂_of_coerceEach hxs, rfl⟩
  · rw [coerce_tuple_of_not hnone] at h
    cases h

/-- A mapping gives the mapping of what its entries give. -/
lemma of_coerce_dict (h : (coerce (.dict key value) v path).result = .ok x) :
    ∃ es fs, HasEntries v es ∧ List.Forall₂ (GivesEntry key value) es fs ∧ x = .map (ofEntries fs) := by
  rcases hasEntries_or_not v with ⟨es, hes⟩ | hnone
  · rw [coerce_dict_of_hasEntries hes, result_bind_eq_ok] at h
    obtain ⟨out, hout, h⟩ := h
    cases h
    obtain ⟨fs, hfs, rfl⟩ := exists_of_eachEntry hout
    exact ⟨es, fs, hes, hfs, rfl⟩
  · rw [coerce_dict_of_not hnone] at h
    cases h

/-- The search for the null member finds it. -/
lemma any_isNull : members.any isNull = true ↔ .instanceOf .null ∈ members := by
  rw [List.any_eq_true]
  constructor
  · rintro ⟨m, hmem, hm⟩
    rwa [isNull_iff.1 hm] at hmem
  · intro hmem
    exact ⟨_, hmem, rfl⟩

/-- The members are tried unless null is accepted at once. -/
lemma coerce_union_of_tried {barred : Bool} (h : v = .null → .instanceOf .null ∉ members) :
    coerce (.union barred members) v path = coerceFirst members v path [] := by
  rcases eq_or_ne v .null with rfl | hne
  · apply coerce_union
    rw [← Bool.not_eq_true, any_isNull]
    exact h rfl
  · exact coerce_union_of_ne_null hne

/-- Null is taken as such if it is a member. Otherwise the first member that does not refuse the value decides. -/
lemma coerce_union_eq_ok {barred : Bool} :
    (coerce (.union barred members) v path).result = .ok x ↔
      v = .null ∧ .instanceOf .null ∈ members ∧ x = .null ∨
        (v = .null → .instanceOf .null ∉ members) ∧ FirstGives members v path x := by
  by_cases htried : v = .null → .instanceOf .null ∉ members
  · rw [coerce_union_of_tried htried, coerceFirst_eq_ok]
    constructor
    · intro h
      exact .inr ⟨htried, h⟩
    · rintro (⟨hv, hmem, -⟩ | ⟨-, h⟩)
      · exact absurd hmem (htried hv)
      · exact h
  · obtain ⟨rfl, hmem⟩ := Classical.not_imp.1 htried
    rw [not_not] at hmem
    rw [coerce_union_null (any_isNull.2 hmem)]
    constructor
    · intro h
      cases h
      exact .inl ⟨rfl, hmem, rfl⟩
    · rintro (⟨-, -, rfl⟩ | ⟨hnot, -⟩)
      · rfl
      · exact absurd hmem (hnot rfl)

/-- A choice that fails has tried its members. -/
lemma coerceFirst_of_coerce_union_error {barred : Bool} {f : Fault}
    (h : (coerce (.union barred members) v path).result = .error f) :
    (coerceFirst members v path []).result = .error f := by
  by_cases htried : v = .null → .instanceOf .null ∉ members
  · rwa [coerce_union_of_tried htried] at h
  · obtain ⟨rfl, hmem⟩ := Classical.not_imp.1 htried
    rw [coerce_union_null (any_isNull.2 (not_not.1 hmem))] at h
    cases h

/-- What a choice gives some member gives. -/
lemma FirstGives.exists_member (h : FirstGives members v path x) : ∃ member ∈ members, Gives member v x := by
  obtain ⟨before, member, after, rfl, -, hx, -⟩ := h
  exact ⟨member, List.mem_append_right before List.mem_cons_self, path, hx⟩

/-- A record holds what its fields give, or their defaults. -/
lemma of_coerce_record {name : String} {home : Option String} {fields : List (Field Hint)} {refusal : Option Text}
    (h : (coerce (.record name home fields refusal) v path).result = .ok x) :
    ∃ es values, HasEntries v es ∧ (∀ e ∈ es, ∃ f ∈ fields, e.1 = .str (Text.ofString f.name)) ∧
      List.Forall₂ (fun f p => p.1 = f.name ∧ Filled es f p.2) (fields.filter Field.isHeld) values ∧
      x = .record name values := by
  cases refusal with
  | none =>
    obtain ⟨es, values, hes, hkeys, hvalues, rfl⟩ := coerce_record_eq_ok.1 h
    refine ⟨es, values, hes, fun e he => ?_, filled_of_coerceFields hvalues, rfl⟩
    obtain ⟨_, hname, heq⟩ := hkeys e he
    obtain ⟨f, hf, rfl⟩ := List.mem_map.1 hname
    exact ⟨f, hf, heq⟩
  | some reason =>
    rcases hasEntries_or_not v with ⟨es, hes⟩ | hnone
    · rw [coerce_refusing_of_hasEntries hes, result_bind_eq_ok] at h
      obtain ⟨_, -, h⟩ := h
      rw [result_bind_eq_ok] at h
      obtain ⟨_, -, h⟩ := h
      cases h
    · rw [coerce_record_of_not hnone] at h
      cases h

end Hints

section Inside

variable {items : List Value} {entries : List (Value × Value)}

/-- The integers of an item are among those of its sequence. -/
lemma HasItems.integers_subset (h : HasItems v items) : ∀ w ∈ items, w.integers ⊆ v.integers := by
  rw [h.integers_eq]
  exact forall_mem_itemIntegers.1 fun n hn => hn

/-- The integers of an entry are among those of its mapping. -/
lemma HasEntries.integers_subset (h : HasEntries v entries) :
    ∀ e ∈ entries, e.1.integers ⊆ v.integers ∧ e.2.integers ⊆ v.integers := by
  rw [h.integers_eq]
  exact forall_mem_entryIntegers.1 fun n hn => hn

/-- The mappings in an item are among those in its sequence. -/
lemma HasItems.mappings_subset (h : HasItems v items) : ∀ w ∈ items, w.mappings ⊆ v.mappings := by
  intro w hw es hes
  rw [h.mappings_eq]
  exact mem_itemMappings.2 ⟨w, hw, hes⟩

/-- A mapping is one of the mappings in it. -/
lemma HasEntries.mem_mappings (h : HasEntries v entries) : entries ∈ v.mappings := by
  rw [h.mappings_eq]
  exact List.mem_cons_self

/-- The mappings in a value are among those in its mapping. -/
lemma HasEntries.mappings_subset (h : HasEntries v entries) : ∀ e ∈ entries, e.2.mappings ⊆ v.mappings := by
  intro e he es hes
  rw [h.mappings_eq]
  exact List.mem_cons_of_mem _ (mem_entryMappings.2 ⟨e, he, .inr hes⟩)

end Inside

end Hint

end TaggedGrammar
