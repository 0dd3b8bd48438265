import TaggedGrammar.Proofs.Hint.Records
import TaggedGrammar.Proofs.Yaml.Keys

/-!
# Mappings with another order of keys

Two mappings that differ in the order of their keys have the same keys and, at each key, the same value or values
that differ in the order of keys themselves. How deep the order may differ is said by the relation of the values.
-/

namespace TaggedGrammar.Value

open Hint

/-- Entries with the same keys in the same order and with values that are related. -/
def EntriesAlike (R : Value → Value → Prop) (es es' : List (Value × Value)) : Prop :=
  List.Forall₂ (fun e e' => e.1 = e'.1 ∧ R e.2 e'.2) es es'

/-- The entries of two mappings, with the same keys in any order and with values that are related. -/
structure EntriesReordered (R : Value → Value → Prop) (es es' : List (Value × Value)) : Prop where
  different : DifferentKeys es
  different' : DifferentKeys es'
  moved : ∃ between, EntriesAlike R es between ∧ between.Perm es'

/-- A value and the same value with another order of keys. -/
inductive Reordered (R : Value → Value → Prop) : Value → Value → Prop where
  | same (v) : Reordered R v v
  | entries {v v' : Value} {es es' : List (Value × Value)} :
    HasEntries v es → HasEntries v' es' → EntriesReordered R es es' → Reordered R v v'

/-- Entries that are alike for whoever looks at their keys and looks up their fields. -/
structure FieldsAlike (R : Value → Value → Prop) (es es' : List (Value × Value)) : Prop where
  keys : ∀ k, k ∈ es.map Prod.fst ↔ k ∈ es'.map Prod.fst
  fields : ∀ name, Option.Rel R (field? name es) (field? name es')

variable {R : Value → Value → Prop} {v v' : Value} {es es' : List (Value × Value)}

/-- In a mapping the value at a text is the one that is written beside it. -/
lemma field?_eq_some_iff_mem {name : Text} (h : DifferentKeys es) : field? name es = some v ↔ (.str name, v) ∈ es := by
  induction es with
  | nil => simp [field?, lookup]
  | cons e rest ih =>
    obtain ⟨k, w⟩ := e
    obtain ⟨other, others⟩ := List.pairwise_cons.1 h
    by_cases hk : k = .str name
    · subst hk
      have new : (Value.str name, v) ∉ rest := fun hmem =>
        other (.str name) (List.mem_map.2 ⟨_, hmem, rfl⟩) (same_str.2 rfl)
      rw [field?_cons, if_pos rfl, List.mem_cons, or_iff_left new]
      simp [eq_comm]
    · have skipped : field? name ((k, w) :: rest) = field? name rest := by simp [field?, lookup, hk]
      rw [skipped, ih others, List.mem_cons, or_iff_right]
      rintro heq
      cases heq
      exact hk rfl

/-- A field is found in any order of different keys. -/
lemma field?_eq_of_perm (h : es.Perm es') (different : DifferentKeys es) (different' : DifferentKeys es')
    (name : Text) : field? name es = field? name es' := by
  ext v
  rw [field?_eq_some_iff_mem different, field?_eq_some_iff_mem different', h.mem_iff]

namespace EntriesAlike

/-- Entries that are alike have the same keys. -/
lemma map_fst (h : EntriesAlike R es es') : es.map Prod.fst = es'.map Prod.fst := by
  induction h with
  | nil => rfl
  | cons first _ ih => rw [List.map_cons, List.map_cons, first.1, ih]

/-- Fields of entries that are alike are related. -/
lemma rel_field? (h : EntriesAlike R es es') (name : Text) : Option.Rel R (field? name es) (field? name es') := by
  induction h with
  | nil => exact .none
  | @cons e e' rest rest' first _ ih =>
    obtain ⟨k, w⟩ := e
    obtain ⟨k', w'⟩ := e'
    obtain ⟨rfl, related⟩ := first
    by_cases hk : k = .str name
    · subst hk
      simpa [field?_cons] using Option.Rel.some related
    · simpa [field?, lookup, hk] using ih

/-- Entries that are alike have fields that are. -/
lemma fieldsAlike (h : EntriesAlike R es es') : FieldsAlike R es es' :=
  ⟨fun k => by rw [h.map_fst], h.rel_field?⟩

/-- Entries that are alike are so both ways. -/
lemma symm (hR : ∀ v w, R v w → R w v) (h : EntriesAlike R es es') : EntriesAlike R es' es :=
  (List.Forall₂.imp (fun _ _ h => ⟨h.1.symm, hR _ _ h.2⟩) h).flip

/-- Entries with equal values are equal. -/
lemma eq (h : EntriesAlike Eq es es') : es = es' := by
  have equal := List.Forall₂.imp (fun _ _ h => Prod.ext h.1 h.2) h
  rwa [List.forall₂_eq_eq_eq] at equal

end EntriesAlike

namespace EntriesReordered

/-- Entries in another order have fields that are alike. -/
lemma fieldsAlike (h : EntriesReordered R es es') : FieldsAlike R es es' := by
  obtain ⟨between, alike, moved⟩ := h.moved
  have different : DifferentKeys between := by
    rw [DifferentKeys, ← alike.map_fst]
    exact h.different
  refine ⟨fun k => ?_, fun name => ?_⟩
  · rw [alike.map_fst, (moved.map _).mem_iff]
  · rw [← field?_eq_of_perm moved different h.different']
    exact alike.rel_field? name

/-- Entries in another order can be put back. -/
lemma symm (hR : ∀ v w, R v w → R w v) (h : EntriesReordered R es es') : EntriesReordered R es' es := by
  obtain ⟨between, alike, moved⟩ := h.moved
  exact ⟨h.different', h.different, List.perm_comp_forall₂ moved.symm (alike.symm hR)⟩

end EntriesReordered

namespace Reordered

/-- A value in another order can be put back. -/
lemma symm (hR : ∀ v w, R v w → R w v) (h : Reordered R v v') : Reordered R v' v := by
  cases h with
  | same => exact .same _
  | entries hes hes' reordered => exact .entries hes' hes (reordered.symm hR)

/-- What is no mapping has no other order. -/
lemma eq_of_forall_not_hasEntries (h : Reordered R v v') (none : ∀ es, ¬HasEntries v es) : v' = v := by
  cases h with
  | same => rfl
  | entries hes => exact absurd hes (none _)

/-- A text has no order. -/
lemma eq_of_str {s : Text} (h : Reordered R (.str s) v') : v' = .str s :=
  h.eq_of_forall_not_hasEntries nofun

/-- The items of a value stay in their order. -/
lemma eq_of_hasItems {items : List Value} (h : Reordered R v v') (hitems : HasItems v items) : v' = v := by
  refine h.eq_of_forall_not_hasEntries fun es hes => ?_
  cases hitems <;> cases hes

/-- A mapping has fields that are alike in every order. -/
lemma exists_fieldsAlike (hR : ∀ v, R v v) (h : Reordered R v v') (hes : HasEntries v es) :
    ∃ es', HasEntries v' es' ∧ FieldsAlike R es es' := by
  cases h with
  | same =>
    refine ⟨es, hes, fun _ => Iff.rfl, fun name => ?_⟩
    cases field? name es with
    | none => exact .none
    | some w => exact .some (hR w)
  | entries hes₁ hes' reordered =>
    cases hes.unique hes₁
    exact ⟨_, hes', reordered.fieldsAlike⟩

end Reordered

namespace FieldsAlike

/-- A field that is there is there among fields that are alike. -/
lemma exists_of_field? (h : FieldsAlike R es es') {name : Text} (hv : field? name es = some v) :
    ∃ v', field? name es' = some v' ∧ R v v' := by
  have related := h.fields name
  rw [hv] at related
  generalize field? name es' = found at related ⊢
  cases related with
  | some related => exact ⟨_, rfl, related⟩

/-- Fields that are alike by equality are equal. -/
lemma field?_eq (h : FieldsAlike Eq es es') (name : Text) : field? name es = field? name es' := by
  have related := h.fields name
  generalize field? name es = found, field? name es' = found' at related ⊢
  cases related with
  | some heq => rw [heq]
  | none => rfl

/-- What holds of all keys holds of the keys of fields that are alike. -/
lemma forall_keys {P : Value → Prop} (h : FieldsAlike R es es') (all : ∀ e ∈ es, P e.1) : ∀ e ∈ es', P e.1 := by
  intro e he
  obtain ⟨e₁, he₁, heq⟩ := List.mem_map.1 ((h.keys e.1).2 (List.mem_map.2 ⟨e, he, rfl⟩))
  rw [← heq]
  exact all e₁ he₁

end FieldsAlike

end TaggedGrammar.Value
