import TaggedGrammar.Proofs.Hint.Kept
import TaggedGrammar.Proofs.Hint.Places

/-!
# Choices

A choice goes on to its next member when one refuses the value with a problem of the table. Any other fault of a member
ends the choice, even if a member behind would accept the value. `Stops` lists the faults that there are, and for each
of them what in the hint or in the value brings it about.
-/

namespace TaggedGrammar

open Outcome Value

namespace Hint

/-- The faults with which coercion can end. -/
inductive Stops (hint : Hint) (v : Value) : Fault → Prop where
  | problem (e) :
    Stops hint v (.table e)
  | range {n} :
    .scalar .float ∈ hint.parts →
    n ∈ v.integers →
    ¬Double.InRange n →
    Stops hint v .beyondDouble
  | refusal {name home fields reason} :
    .record name home fields (some reason) ∈ hint.parts →
    Stops hint v (.refused reason)
  /-- A number of the value is too long for a message or for a place. -/
  | digits {n} :
    n ∈ v.integers →
    ¬IsShort n →
    Stops hint v .tooManyDigits
  | optionDigits {options n} :
    .literal options ∈ hint.parts →
    n ∈ (Value.tuple options).integers →
    ¬IsShort n →
    Stops hint v .tooManyDigits

variable {hint item key value : Hint} {hints members : List Hint} {v w x : Value} {path : Place} {f : Fault}

/-- What stops a part stops the whole. -/
lemma Stops.mono {h : Hint} (stops : Stops h w f) (hparts : h.parts ⊆ hint.parts)
    (hintegers : w.integers ⊆ v.integers) : Stops hint v f := by
  cases stops with
  | problem e => exact .problem e
  | range hfloat hn hrange => exact .range (hparts hfloat) (hintegers hn) hrange
  | refusal hrecord => exact .refusal (hparts hrecord)
  | digits hn hlong => exact .digits (hintegers hn) hlong
  | optionDigits hliteral hn hlong => exact .optionDigits (hparts hliteral) hn hlong

section Faults

/-- Every fault of coercion to the hint is listed, wherever the value stands. -/
def OnlyStops (hint : Hint) : Prop :=
  ∀ v path f, v.PlainKeys → (coerce hint v path).result = .error f → Stops hint v f

/-- A problem of the table stops nothing but this value. -/
lemma stops_of_fail {problem : TableProblem}
    (h : (fail (.inTable path problem) : Outcome Value).result = .error f) : Stops hint v f := by
  cases h
  exact .problem _

/-- A fault that is no problem of the table comes from a number that cannot be displayed. -/
lemma stops_of_fromTable {short : Prop} (h : f.FromTable short)
    (hshort : ¬short → ∃ n ∈ v.integers, ¬IsShort n) : Stops hint v f := by
  cases h with
  | problem e => exact .problem e
  | digits hlong =>
    obtain ⟨n, hn, long⟩ := hshort hlong
    exact .digits hn long

/-- Scalars are refused for their class, or because a number is outside the doubles. -/
lemma onlyStops_scalar {cls : Class} : OnlyStops (.scalar cls) := by
  intro v path f _ h
  rw [coerce, coerceScalar.eq_def] at h
  split at h
  · cases h
  · exact stops_of_fail h
  next n _ =>
    rw [andThen_eq_bind] at h
    have hd := of_bind_ok_error h
    cases hdouble : Double.ofInt? n with
    | none =>
      rw [hdouble] at hd
      cases hd
      have hn : n ∈ (Value.int n).integers := by simp [integers]
      refine .range List.mem_cons_self hn fun hrange => ?_
      have hsome := Double.isSome_ofInt? hrange
      rw [hdouble] at hsome
      cases hsome
    | some d =>
      rw [hdouble] at hd
      cases hd
  · split at h
    · cases h
    · exact stops_of_fail h

/-- Instances are refused for their class. -/
lemma onlyStops_instanceOf {cls : Class} : OnlyStops (.instanceOf cls) := by
  intro v path f _ h
  rw [coerce, coerceInstance] at h
  split at h
  · cases h
  · exact stops_of_fail h

/-- Literals are refused for their options, which may not be displayed. -/
lemma onlyStops_literal {options : List Value} : OnlyStops (.literal options) := by
  intro v path f _ h
  rw [coerce, coerceLiteral] at h
  split at h
  · cases h
  · split at h
    · exact stops_of_fail h
    next hnone =>
      cases h
      by_contra hstops
      have shortOptions (n) (hn : n ∈ (Value.tuple options).integers) : IsShort n := by
        by_contra hlong
        exact hstops (.optionDigits List.mem_cons_self hn hlong)
      have shortValue (n) (hn : n ∈ v.integers) : IsShort n := by
        by_contra hlong
        exact hstops (.digits hn hlong)
      obtain ⟨os, hos⟩ := Option.isSome_iff_exists.1 (isSome_literal? _ shortOptions)
      obtain ⟨s, hs⟩ := Option.isSome_iff_exists.1 (isSome_literal? _ shortValue)
      exact hnone os s hos hs

/-- What is no list is refused. -/
lemma onlyStops_anyList : OnlyStops .anyList := by
  intro v path f _ h
  by_cases hlist : ∃ items, v = .list items
  · obtain ⟨items, rfl⟩ := hlist
    cases h
  · rw [coerce_anyList_of_not (not_exists.1 hlist)] at h
    exact stops_of_fail h

/-- What is no sequence is refused. -/
lemma onlyStops_anyTuple : OnlyStops .anyTuple := by
  intro v path f _ h
  rcases hasItems_or_not v with ⟨items, hitems⟩ | hnone
  · rw [coerce_anyTuple_of_hasItems hitems] at h
    cases h
  · rw [coerce_anyTuple_of_not hnone] at h
    exact stops_of_fail h

/-- A list is stopped by one of its items. -/
lemma onlyStops_list (ih : OnlyStops item) : OnlyStops (.list item) := by
  intro v path f hv h
  by_cases hlist : ∃ items, v = .list items
  · obtain ⟨items, rfl⟩ := hlist
    obtain ⟨i, w, hw, hfails⟩ := of_eachItem_error (of_bind_ok_error h)
    have hmem := List.mem_of_getElem? hw
    have hitems := HasItems.list items
    apply (ih w _ f (hv.mono (hitems.mappings_subset w hmem)) hfails).mono
    · exact parts_subset_list
    · exact hitems.integers_subset w hmem
  · rw [coerce_list_of_not (not_exists.1 hlist)] at h
    exact stops_of_fail h

/-- A run is stopped by one of its items. -/
lemma onlyStops_run (ih : OnlyStops item) : OnlyStops (.run item) := by
  intro v path f hv h
  rcases hasItems_or_not v with ⟨items, hitems⟩ | hnone
  · rw [coerce_run_of_hasItems hitems] at h
    obtain ⟨i, w, hw, hfails⟩ := of_eachItem_error (of_bind_ok_error h)
    have hmem := List.mem_of_getElem? hw
    apply (ih w _ f (hv.mono (hitems.mappings_subset w hmem)) hfails).mono
    · exact parts_subset_run
    · exact hitems.integers_subset w hmem
  · rw [coerce_run_of_not hnone] at h
    exact stops_of_fail h

/-- A fixed sequence is stopped by one of its items. -/
lemma onlyStops_tuple (ih : ∀ h ∈ hints, OnlyStops h) : OnlyStops (.tuple hints) := by
  intro v path f hv h
  rcases hasItems_or_not v with ⟨items, hitems⟩ | hnone
  · rcases eq_or_ne hints [] with rfl | hne
    · rw [coerce_bareTuple_of_hasItems hitems] at h
      cases h
    rw [coerce_tuple_of_hasItems hne hitems] at h
    split at h
    · exact stops_of_fail h
    · obtain ⟨i, hint, w, hhint, hw, hfails⟩ := of_coerceEach_error (of_bind_ok_error h)
      have hmem := List.mem_of_getElem? hw
      have hhints := List.mem_of_getElem? hhint
      apply (ih hint hhints w _ f (hv.mono (hitems.mappings_subset w hmem)) hfails).mono
      · exact parts_subset_tuple hhints
      · exact hitems.integers_subset w hmem
  · rw [coerce_tuple_of_not hnone] at h
    exact stops_of_fail h

/-- A mapping is stopped by a key or by a value. -/
lemma onlyStops_dict (ihkey : OnlyStops key) (ihvalue : OnlyStops value) : OnlyStops (.dict key value) := by
  intro v path f hv h
  rcases hasEntries_or_not v with ⟨entries, hentries⟩ | hnone
  · rw [coerce_dict_of_hasEntries hentries] at h
    obtain ⟨k, w, hmem, hfails⟩ := of_eachEntry_error (of_bind_ok_error h)
    have hk : k.mappings = [] := hv entries hentries.mem_mappings _ hmem
    obtain ⟨kIntegers, wIntegers⟩ := hentries.integers_subset _ hmem
    rcases hfails with hkey | ⟨place, k', hk', ⟨hnone, rfl⟩ | ⟨step, -, hvalue⟩⟩
    · have plain : k.PlainKeys := by
        intro es hes
        rw [hk] at hes
        cases hes
      exact (ihkey k _ f plain hkey).mono parts_subset_dict.1 kIntegers
    · -- the key that was made has no text, so a number in it is too long, and the number was in the key before
      have hkept := kept_of_gives key k k' (keepsKeys_of_mappings hk) ⟨place, hk'⟩
      have hintegers := hkept.integers_subset (noRecords_of_mappings hk)
      by_contra hstops
      have short (n) (hn : n ∈ k'.integers) : IsShort n := by
        by_contra hlong
        exact hstops (.digits (kIntegers (hintegers hn)) hlong)
      have hsome := isSome_text? short
      rw [hnone] at hsome
      cases hsome
    · exact (ihvalue w _ f (hv.mono (hentries.mappings_subset _ hmem)) hvalue).mono parts_subset_dict.2 wIntegers
  · rw [coerce_dict_of_not hnone] at h
    exact stops_of_fail h

/-- A mapping of anything is stopped by a key that cannot be displayed. -/
lemma onlyStops_anyDict : OnlyStops .anyDict := by
  intro v path f hv h
  have accepted : OnlyStops .any := fun _ _ _ _ => nofun
  rw [coerce_anyDict] at h
  cases onlyStops_dict accepted accepted v path f hv h with
  | problem e => exact .problem e
  | range hfloat => simp [parts] at hfloat
  | refusal hrecord => simp [parts] at hrecord
  | digits hn hlong => exact .digits hn hlong
  | optionDigits hliteral => simp [parts] at hliteral

/-- A choice fails because all members refuse the value, or with the fault of one of them. -/
lemma of_coerceFirst_fault {refusals : List Text} (h : (coerceFirst members v path refusals).result = .error f) :
    (∃ e, f = .table e) ∨
      ∃ member ∈ members, member ≠ .instanceOf .null ∧ (coerce member v path).result = .error f := by
  induction members generalizing refusals with
  | nil => cases refusals <;> cases h <;> exact .inl ⟨_, rfl⟩
  | cons member rest ih =>
    have later {refusals : List Text} (hrest : (coerceFirst rest v path refusals).result = .error f) :
        (∃ e, f = .table e) ∨
          ∃ m ∈ member :: rest, m ≠ .instanceOf .null ∧ (coerce m v path).result = .error f := by
      refine (ih hrest).imp_right ?_
      rintro ⟨m, hmem, hm⟩
      exact ⟨m, List.mem_cons_of_mem _ hmem, hm⟩
    rw [coerceFirst] at h
    split at h
    · exact later h
    next hnull =>
      dsimp only at h
      split at h
      · rw [result_after] at h
        exact later h
      · exact .inr ⟨member, List.mem_cons_self, mt isNull_iff.2 hnull, h⟩

/-- A choice is stopped by one of its members. -/
lemma onlyStops_union {barred : Bool} (ih : ∀ member ∈ members, OnlyStops member) :
    OnlyStops (.union barred members) := by
  intro v path f hv h
  rcases of_coerceFirst_fault (coerceFirst_of_coerce_union_error h) with ⟨e, rfl⟩ | ⟨member, hmem, -, hfails⟩
  · exact .problem e
  · apply (ih member hmem v path f hv hfails).mono
    · exact parts_subset_union hmem
    · exact List.Subset.refl _

/-- A record is stopped by a key, by a field or by its constructor. -/
lemma onlyStops_record {name : String} {home : Option String} {fields : List (Field Hint)} {refusal : Option Text}
    (ih : ∀ f ∈ fields, OnlyStops f.hint) : OnlyStops (.record name home fields refusal) := by
  intro v path f hv h
  rcases hasEntries_or_not v with ⟨entries, hentries⟩ | hnone
  · have keyIntegers (e) (he : e ∈ entries) := (hentries.integers_subset e he).1
    rcases of_coerce_record_error hentries h with hkeys | hfails | ⟨reason, rfl, rfl⟩
    · apply stops_of_fromTable (checkKeys_fault hkeys)
      intro hlong
      push Not at hlong
      obtain ⟨e, he, n, hn, long⟩ := hlong
      exact ⟨n, keyIntegers e he hn, long⟩
    · cases hfails with
      | @present field w hmem _ hfield hfails =>
        have hw : w.PlainKeys ∧ w.integers ⊆ v.integers := by
          refine of_lookup (P := fun w => w.PlainKeys ∧ w.integers ⊆ v.integers) (fun e he => ?_) hfield
          exact ⟨hv.mono (hentries.mappings_subset e he), (hentries.integers_subset e he).2⟩
        apply (ih field hmem w _ f hw.1 hfails).mono
        · exact parts_subset_record hmem
        · exact hw.2
      | missing _ _ _ _ hf =>
        rw [hf]
        exact .problem _
    · exact .refusal List.mem_cons_self
  · rw [coerce_record_of_not hnone] at h
    exact stops_of_fail h

/-- One case for each kind of hint: the fault is met here, or by a hint inside. -/
lemma onlyStops (hint : Hint) : OnlyStops hint := by
  induction hint using Hint.inductOn with
  | any => exact fun _ _ _ _ => nofun
  | unchecked item => exact fun _ _ _ _ => nofun
  | scalar cls => exact onlyStops_scalar
  | instanceOf cls => exact onlyStops_instanceOf
  | literal options => exact onlyStops_literal
  | anyList => exact onlyStops_anyList
  | anyDict => exact onlyStops_anyDict
  | anyTuple => exact onlyStops_anyTuple
  | list item ih => exact onlyStops_list ih
  | dict key value ihkey ihvalue => exact onlyStops_dict ihkey ihvalue
  | tuple hints ih => exact onlyStops_tuple ih
  | run item ih => exact onlyStops_run ih
  | union barred members ih => exact onlyStops_union ih
  | record name home fields refusal ih => exact onlyStops_record ih

end Faults

section Main

/-- A choice takes null if null is a member. Any other value goes to the first member that does not refuse it, and what
this member makes of it is the result. If a member accepts the value but the choice does not, a member ended with a
fault that is no problem of the table, and the choice ended with it. -/
theorem choice_takes_first_alternative (barred : Bool) (members : List Hint) (v : Value) (path : Place) :
    (∀ x, (coerce (.union barred members) v path).result = .ok x ↔
      v = .null ∧ .instanceOf .null ∈ members ∧ x = .null ∨
        (v = .null → .instanceOf .null ∉ members) ∧ FirstGives members v path x) ∧
      (v.PlainKeys → ∀ f, (coerce (.union barred members) v path).result = .error f →
        ∀ member ∈ members, member ≠ .instanceOf .null → (∃ x, (coerce member v path).result = .ok x) →
          (∀ e, f ≠ .table e) ∧
            ∃ m ∈ members, m ≠ .instanceOf .null ∧ (coerce m v path).result = .error f ∧ Stops m v f) := by
  refine ⟨fun x => coerce_union_eq_ok, fun plain f hf member hmem hne haccepts => ?_⟩
  have hfirst := coerceFirst_of_coerce_union_error hf
  have noProblem : ∀ e, f ≠ .table e := by
    rintro e rfl
    obtain ⟨x, hx⟩ := haccepts
    obtain ⟨e', he'⟩ := refused_of_coerceFirst hfirst member hmem (Bool.eq_false_iff.2 (mt isNull_iff.1 hne))
    cases hx.symm.trans he'
  refine ⟨noProblem, ?_⟩
  rcases of_coerceFirst_fault hfirst with ⟨e, he⟩ | ⟨m, hm, hnull, hfails⟩
  · exact absurd he (noProblem e)
  · exact ⟨m, hm, hnull, hfails, onlyStops m v path f plain hfails⟩

/-- A number beyond the range of doubles. -/
def farNumber : Int :=
  2 ^ 1024

/-- A far number is a whole number, but it ends a choice in which doubles come first. -/
theorem choice_ends_at_number_beyond_doubles :
    (coerce (.scalar .int) (.int farNumber) []).result = .ok (.int farNumber) ∧
      (coerce (.union false [.scalar .float, .scalar .int]) (.int farNumber) []).result = .error .beyondDouble ∧
      (∃ m ∈ [Hint.scalar .float, .scalar .int], Stops m (.int farNumber) .beyondDouble) ∧
      (coerce (.union false [.scalar .int, .scalar .float]) (.int farNumber) []).result = .ok (.int farNumber) := by
  have beyond : Double.ofInt? farNumber = none := by decide +kernel
  have accepted : (coerce (.scalar .int) (.int farNumber) []).result = .ok (.int farNumber) := rfl
  have ends : (coerce (.union false [.scalar .float, .scalar .int]) (.int farNumber) []).result =
      .error .beyondDouble := by
    simp [coerce, coerceFirst, isNull, coerceScalar, beyond, result_bind, Except.bind]
  refine ⟨accepted, ends, ?_, ?_⟩
  · obtain ⟨-, m, hm, -, -, stops⟩ :=
      (choice_takes_first_alternative false [.scalar .float, .scalar .int] (.int farNumber) []).2 (by decide)
        .beyondDouble ends (.scalar .int) (by simp) (by simp) ⟨_, accepted⟩
    exact ⟨m, hm, stops⟩
  · apply ((choice_takes_first_alternative false [.scalar .int, .scalar .float] (.int farNumber) []).1 _).2
    exact .inr ⟨by simp, [], .scalar .int, [.scalar .float], rfl, by simp, accepted, List.forall_mem_nil _⟩

end Main

end Hint

end TaggedGrammar
