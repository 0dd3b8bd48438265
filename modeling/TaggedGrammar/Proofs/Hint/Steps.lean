import TaggedGrammar.Proofs.Hint.Records

/-!
# Coercion step by step

Hints hold lists of hints, so an induction over hints has a hypothesis for each member of such a list. For each hint
that looks into a value there is one equation for the values that it can look into and one for all others.
-/

namespace TaggedGrammar

open Outcome

namespace Hint

/-- Hints are made of hints, so that what carries over from the parts holds of all. -/
@[elab_as_elim]
theorem inductOn {motive : Hint → Prop} (hint : Hint) (any : motive .any) (scalar : ∀ cls, motive (.scalar cls))
    (instanceOf : ∀ cls, motive (.instanceOf cls)) (anyList : motive .anyList) (anyDict : motive .anyDict)
    (anyTuple : motive .anyTuple) (list : ∀ item, motive item → motive (.list item))
    (dict : ∀ key value, motive key → motive value → motive (.dict key value))
    (tuple : ∀ hints, (∀ h ∈ hints, motive h) → motive (.tuple hints))
    (run : ∀ item, motive item → motive (.run item))
    (union : ∀ barred members, (∀ h ∈ members, motive h) → motive (.union barred members))
    (literal : ∀ options, motive (.literal options)) (unchecked : ∀ item, motive (.unchecked item))
    (record : ∀ name home fields refusal, (∀ f ∈ fields, motive f.hint) → motive (.record name home fields refusal)) :
    motive hint := by
  refine @Hint.rec motive (fun hints => ∀ h ∈ hints, motive h) (fun fields => ∀ f ∈ fields, motive f.hint)
    (fun f => motive f.hint) any scalar instanceOf anyList anyDict anyTuple list dict tuple run union literal
    (fun item _ => unchecked item) record ?_ ?_ ?_ ?_ ?_ hint
  · exact nofun
  · intro head tail first others
    exact List.forall_mem_cons.2 ⟨first, others⟩
  · exact nofun
  · intro head tail first others
    exact List.forall_mem_cons.2 ⟨first, others⟩
  · intro name hint default init ih
    exact ih

section Parts

mutual

/-- A hint with the hints inside it, at any depth. What is not checked has no hints inside. -/
def parts : Hint → List Hint
  | list item => list item :: item.parts
  | dict key value => dict key value :: (key.parts ++ value.parts)
  | tuple hints => tuple hints :: partsOfEach hints
  | run item => run item :: item.parts
  | union barred members => union barred members :: partsOfEach members
  | record name home fields refusal => record name home fields refusal :: partsOfFields fields
  | h => [h]

def partsOfEach : List Hint → List Hint
  | [] => []
  | h :: hs => h.parts ++ partsOfEach hs

def partsOfFields : List (Field Hint) → List Hint
  | [] => []
  | ⟨_, hint, _, _⟩ :: rest => hint.parts ++ partsOfFields rest

end

/-- The parts of several hints are those of each of them. -/
lemma partsOfEach_eq (hints : List Hint) : partsOfEach hints = hints.flatMap parts := by
  induction hints with
  | nil => rfl
  | cons h hs ih =>
    show h.parts ++ partsOfEach hs = _
    rw [ih, List.flatMap_cons]

/-- The parts of fields are those of their hints. -/
lemma partsOfFields_eq (fields : List (Field Hint)) : partsOfFields fields = fields.flatMap (·.hint.parts) := by
  induction fields with
  | nil => rfl
  | cons f rest ih =>
    show f.hint.parts ++ partsOfFields rest = _
    rw [ih, List.flatMap_cons]

variable {P : Hint → Prop}

/-- The parts of a list hint are itself and those of its item. -/
lemma forall_parts_list {item : Hint} :
    (∀ h ∈ (list item).parts, P h) ↔ P (.list item) ∧ ∀ h ∈ item.parts, P h :=
  List.forall_mem_cons

/-- The parts of a run are itself and those of its item. -/
lemma forall_parts_run {item : Hint} :
    (∀ h ∈ (run item).parts, P h) ↔ P (.run item) ∧ ∀ h ∈ item.parts, P h :=
  List.forall_mem_cons

/-- The parts of a mapping hint are itself and those of its key and its value. -/
lemma forall_parts_dict {key value : Hint} :
    (∀ h ∈ (dict key value).parts, P h) ↔
      P (.dict key value) ∧ (∀ h ∈ key.parts, P h) ∧ ∀ h ∈ value.parts, P h := by
  show (∀ h ∈ dict key value :: (key.parts ++ value.parts), P h) ↔ _
  rw [List.forall_mem_cons, List.forall_mem_append]

/-- The parts of a fixed sequence are itself and those of its items. -/
lemma forall_parts_tuple {hints : List Hint} :
    (∀ h ∈ (tuple hints).parts, P h) ↔ P (.tuple hints) ∧ ∀ item ∈ hints, ∀ h ∈ item.parts, P h := by
  show (∀ h ∈ tuple hints :: partsOfEach hints, P h) ↔ _
  rw [List.forall_mem_cons, partsOfEach_eq, List.forall_mem_flatMap]

/-- The parts of a choice are itself and those of its members. -/
lemma forall_parts_union {barred : Bool} {members : List Hint} :
    (∀ h ∈ (union barred members).parts, P h) ↔
      P (.union barred members) ∧ ∀ member ∈ members, ∀ h ∈ member.parts, P h := by
  show (∀ h ∈ union barred members :: partsOfEach members, P h) ↔ _
  rw [List.forall_mem_cons, partsOfEach_eq, List.forall_mem_flatMap]

/-- The parts of a record are itself and those of its fields. -/
lemma forall_parts_record {name : String} {home : Option String} {fields : List (Field Hint)} {refusal : Option Text} :
    (∀ h ∈ (record name home fields refusal).parts, P h) ↔
      P (.record name home fields refusal) ∧ ∀ f ∈ fields, ∀ h ∈ f.hint.parts, P h := by
  show (∀ h ∈ record name home fields refusal :: partsOfFields fields, P h) ↔ _
  rw [List.forall_mem_cons, partsOfFields_eq, List.forall_mem_flatMap]

/-- The item of a list hint has some of its parts. -/
lemma parts_subset_list {item : Hint} : item.parts ⊆ (list item).parts :=
  (forall_parts_list.1 fun _ h => h).2

/-- The item of a run has some of its parts. -/
lemma parts_subset_run {item : Hint} : item.parts ⊆ (run item).parts :=
  (forall_parts_run.1 fun _ h => h).2

/-- Key and value of a mapping hint have some of its parts. -/
lemma parts_subset_dict {key value : Hint} :
    key.parts ⊆ (dict key value).parts ∧ value.parts ⊆ (dict key value).parts :=
  (forall_parts_dict.1 fun _ h => h).2

/-- An item of a fixed sequence has some of its parts. -/
lemma parts_subset_tuple {hints : List Hint} {item : Hint} (h : item ∈ hints) : item.parts ⊆ (tuple hints).parts :=
  (forall_parts_tuple.1 fun _ h => h).2 item h

/-- A member of a choice has some of its parts. -/
lemma parts_subset_union {barred : Bool} {members : List Hint} {member : Hint} (h : member ∈ members) :
    member.parts ⊆ (union barred members).parts :=
  (forall_parts_union.1 fun _ h => h).2 member h

/-- A field of a record has some of its parts. -/
lemma parts_subset_record {name : String} {home : Option String} {fields : List (Field Hint)} {refusal : Option Text}
    {f : Field Hint} (h : f ∈ fields) : f.hint.parts ⊆ (record name home fields refusal).parts :=
  (forall_parts_record.1 fun _ h => h).2 f h

/-- What is inside a hint inside is inside. -/
lemma parts_subset_of_mem (hint : Hint) : ∀ h ∈ hint.parts, h.parts ⊆ hint.parts := by
  induction hint using Hint.inductOn with
  | any | scalar | instanceOf | anyList | anyDict | anyTuple | literal | unchecked => simp [parts]
  | list item ih =>
    refine forall_parts_list.2 ⟨List.Subset.refl _, fun h hh => ?_⟩
    exact List.Subset.trans (ih h hh) parts_subset_list
  | run item ih =>
    refine forall_parts_run.2 ⟨List.Subset.refl _, fun h hh => ?_⟩
    exact List.Subset.trans (ih h hh) parts_subset_run
  | dict key value ihkey ihvalue =>
    refine forall_parts_dict.2 ⟨List.Subset.refl _, fun h hh => ?_, fun h hh => ?_⟩
    · exact List.Subset.trans (ihkey h hh) parts_subset_dict.1
    · exact List.Subset.trans (ihvalue h hh) parts_subset_dict.2
  | tuple hints ih =>
    refine forall_parts_tuple.2 ⟨List.Subset.refl _, fun item hi h hh => ?_⟩
    exact List.Subset.trans (ih item hi h hh) (parts_subset_tuple hi)
  | union barred members ih =>
    refine forall_parts_union.2 ⟨List.Subset.refl _, fun member hm h hh => ?_⟩
    exact List.Subset.trans (ih member hm h hh) (parts_subset_union hm)
  | record name home fields refusal ih =>
    refine forall_parts_record.2 ⟨List.Subset.refl _, fun f hf h hh => ?_⟩
    exact List.Subset.trans (ih f hf h hh) (parts_subset_record hf)

end Parts

section Values

variable {v : Value} {path : Hint.Place} {items : List Value} {entries : List (Value × Value)}

/-- A value is a sequence or it is not. -/
lemma hasItems_or_not (v : Value) : (∃ items, HasItems v items) ∨ ∀ items, ¬HasItems v items := by
  by_cases h : ∃ items, HasItems v items
  · exact .inl h
  · exact .inr (not_exists.1 h)

/-- A value is a mapping or it is not. -/
lemma hasEntries_or_not (v : Value) : (∃ entries, HasEntries v entries) ∨ ∀ entries, ¬HasEntries v entries := by
  by_cases h : ∃ entries, HasEntries v entries
  · exact .inl h
  · exact .inr (not_exists.1 h)

/-- A sequence of anything takes every sequence. -/
lemma coerce_anyTuple_of_hasItems (h : HasItems v items) : coerce .anyTuple v path = .ok (.tuple items) := by
  cases h <;> rfl

/-- It refuses all else. -/
lemma coerce_anyTuple_of_not (h : ∀ items, ¬HasItems v items) :
    coerce .anyTuple v path = .fail (.inTable path (.expected "list" v.kind)) := by
  cases v with
  | list items => exact absurd (.list items) (h _)
  | tuple items => exact absurd (.tuple items) (h _)
  | _ => rfl

/-- A run takes a sequence item by item. -/
lemma coerce_run_of_hasItems {item : Hint} (h : HasItems v items) :
    coerce (.run item) v path = (eachItem (coerce item) path 0 items) >>= fun xs => .ok (.tuple xs) := by
  cases h <;> rfl

/-- It refuses all else. -/
lemma coerce_run_of_not {item : Hint} (h : ∀ items, ¬HasItems v items) :
    coerce (.run item) v path = .fail (.inTable path (.expected "list" v.kind)) := by
  cases v with
  | list items => exact absurd (.list items) (h _)
  | tuple items => exact absurd (.tuple items) (h _)
  | _ => rfl

/-- A list hint refuses what is no list. -/
lemma coerce_list_of_not {item : Hint} (h : ∀ items, v ≠ .list items) :
    coerce (.list item) v path = .fail (.inTable path (.expected "list" v.kind)) := by
  cases v with
  | list items => exact absurd rfl (h items)
  | _ => rfl

/-- So does the hint for a list of anything. -/
lemma coerce_anyList_of_not (h : ∀ items, v ≠ .list items) :
    coerce .anyList v path = .fail (.inTable path (.expected "list" v.kind)) := by
  cases v with
  | list items => exact absurd rfl (h items)
  | _ => rfl

/-- A fixed sequence without hints takes every sequence. -/
lemma coerce_bareTuple_of_hasItems (h : HasItems v items) : coerce (.tuple []) v path = .ok (.tuple items) := by
  cases h <;> rfl

/-- A fixed sequence with hints for its items has as many items as hints. -/
lemma coerce_tuple_of_hasItems {hints : List Hint} (hne : hints ≠ []) (h : HasItems v items) :
    coerce (.tuple hints) v path =
      if hints.length ≠ items.length then .fail (.inTable path (.wrongLength hints.length items.length))
      else coerceEach hints items path 0 >>= fun xs => .ok (.tuple xs) := by
  cases hints with
  | nil => exact absurd rfl hne
  | cons => cases h <;> rfl

/-- A fixed sequence refuses what is no sequence. -/
lemma coerce_tuple_of_not {hints : List Hint} (h : ∀ items, ¬HasItems v items) :
    coerce (.tuple hints) v path = .fail (.inTable path (.expected "list" v.kind)) := by
  cases v with
  | list items => exact absurd (.list items) (h _)
  | tuple items => exact absurd (.tuple items) (h _)
  | _ => simp only [coerce]

/-- A mapping of anything is one with keys and values of any kind. -/
lemma coerce_anyDict : coerce .anyDict v path = coerce (.dict .any .any) v path := by
  cases v <;> rfl

/-- A mapping hint takes a mapping entry by entry. -/
lemma coerce_dict_of_hasEntries {key value : Hint} (h : HasEntries v entries) :
    coerce (.dict key value) v path =
      eachEntry (coerce key) (coerce value) path [] entries >>= fun es => .ok (.map es) := by
  cases h <;> rfl

/-- It refuses all else. -/
lemma coerce_dict_of_not {key value : Hint} (h : ∀ entries, ¬HasEntries v entries) :
    coerce (.dict key value) v path = .fail (.inTable path (.expected "mapping" v.kind)) := by
  cases v with
  | map entries => exact absurd (.map entries) (h _)
  | ordered entries => exact absurd (.ordered entries) (h _)
  | _ => rfl

variable {name : String} {home : Option String} {fields : List (Field Hint)} {refusal : Option Text}

/-- A record takes a mapping: first its keys are checked, then its fields are made. -/
lemma coerce_record_of_hasEntries (h : HasEntries v entries) :
    coerce (.record name home fields none) v path = (do
      checkKeys (fields.map fun f => f.name) entries path
      let values ← coerceFields fields entries path
      Outcome.note (.built name path)
      Outcome.ok (.record name values)) := by
  cases h <;> rfl

/-- A record whose constructor refuses does the same and then fails. -/
lemma coerce_refusing_of_hasEntries {reason : Text} (h : HasEntries v entries) :
    coerce (.record name home fields (some reason)) v path = (do
      checkKeys (fields.map fun f => f.name) entries path
      let _ ← coerceFields fields entries path
      Outcome.note (.built name path)
      Outcome.fail (.refused reason)) := by
  cases h <;> rfl

/-- A record refuses what is no mapping. -/
lemma coerce_record_of_not (h : ∀ entries, ¬HasEntries v entries) :
    coerce (.record name home fields refusal) v path = .fail (.inTable path (.expectedRecord name v.kind)) := by
  cases v with
  | map entries => exact absurd (.map entries) (h _)
  | ordered entries => exact absurd (.ordered entries) (h _)
  | _ => simp only [coerce]

/-- The null member is the one for the class of null. -/
lemma isNull_iff {h : Hint} : isNull h = true ↔ h = .instanceOf .null := by
  constructor
  · intro hnull
    cases h with
    | instanceOf cls => cases cls <;> first | rfl | cases hnull
    | _ => cases hnull
  · rintro rfl
    rfl

/-- A choice with a null member takes null at once. -/
lemma coerce_union_null {barred : Bool} {members : List Hint} (hnull : members.any isNull = true) :
    coerce (.union barred members) .null path = .ok .null := by
  simp [coerce, hnull]

/-- All other values are tried on the members. -/
lemma coerce_union_of_ne_null {barred : Bool} {members : List Hint} (h : v ≠ .null) :
    coerce (.union barred members) v path = coerceFirst members v path [] := by
  cases v with
  | null => exact absurd rfl h
  | _ => rfl

end Values

end Hint

end TaggedGrammar
