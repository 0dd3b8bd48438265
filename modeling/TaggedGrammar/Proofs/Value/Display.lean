import Mathlib
import TaggedGrammar.Value.Display

/-!
# What can be displayed

Only whole numbers can be without a display. A value has one if all whole numbers in it are within the limit.
-/

namespace TaggedGrammar.Value

mutual

/-- The whole numbers in a value, at any depth. -/
def integers : Value → List Int
  | int n => [n]
  | list items | tuple items | set items => itemIntegers items
  | map entries | ordered entries => entryIntegers entries
  | record _ fields => fieldIntegers fields
  | _ => []

def itemIntegers : List Value → List Int
  | [] => []
  | v :: rest => integers v ++ itemIntegers rest

def entryIntegers : List (Value × Value) → List Int
  | [] => []
  | (k, v) :: rest => integers k ++ (integers v ++ entryIntegers rest)

def fieldIntegers : List (String × Value) → List Int
  | [] => []
  | (_, v) :: rest => integers v ++ fieldIntegers rest

end

/-- The integers of several values are those of each of them. -/
lemma forall_mem_itemIntegers {P : Int → Prop} {items : List Value} :
    (∀ n ∈ itemIntegers items, P n) ↔ ∀ v ∈ items, ∀ n ∈ v.integers, P n := by
  induction items with
  | nil => simp [itemIntegers]
  | cons v rest ih => simp only [itemIntegers, List.forall_mem_append, List.forall_mem_cons, ih]

/-- The integers of entries are those of their keys and values. -/
lemma forall_mem_entryIntegers {P : Int → Prop} {entries : List (Value × Value)} :
    (∀ n ∈ entryIntegers entries, P n) ↔
      ∀ e ∈ entries, (∀ n ∈ e.1.integers, P n) ∧ ∀ n ∈ e.2.integers, P n := by
  induction entries with
  | nil => simp [entryIntegers]
  | cons e rest ih => simp only [entryIntegers, List.forall_mem_append, List.forall_mem_cons, ih, and_assoc]

/-- A whole number that can be displayed. -/
def IsShort (n : Int) : Prop :=
  n.natAbs < 10 ^ digitLimit

/-- The least number that cannot be displayed. -/
lemma not_isShort_pow : ¬IsShort (10 ^ digitLimit) := by
  have size (k : Nat) : (10 ^ k : Int).natAbs = 10 ^ k := Int.natAbs_pow 10 k
  exact (size digitLimit).not_lt

/-- A whole number within the limit is displayed with all its digits. -/
lemma integerText?_of_isShort {n : Int} (h : IsShort n) : integerText? n = some (toString n) := by
  rw [IsShort, ← Nat.pow_eq] at h
  rw [integerText?, if_pos h]

/-- A whole number beyond the limit has no display. -/
lemma integerText?_of_not_isShort {n : Int} (h : ¬IsShort n) : integerText? n = none := by
  rw [IsShort, ← Nat.pow_eq] at h
  rw [integerText?, if_neg h]

mutual

/-- A value with short integers only can be written out. -/
lemma isSome_literal? : (v : Value) → (∀ n ∈ integers v, IsShort n) → (literal? v).isSome
  | null, _ | bool true, _ | bool false, _ | float _, _ | str _, _ | day _, _ | instant _, _ | bytes _, _
  | ordered [], _ | set [], _ => rfl
  | int n, h => by
    have hn : IsShort n := h n (by simp [integers])
    simp only [literal?, integerText?_of_isShort hn, Option.map_some, Option.isSome_some]
  | list items, h => by simpa only [literal?, Option.isSome_map] using isSome_literals? items h
  | tuple items, h => by simpa only [literal?, Option.isSome_map] using isSome_literals? items h
  | map entries, h => by simpa only [literal?, Option.isSome_map] using isSome_entryLiterals? entries h
  | ordered (e :: rest), h => by
    simpa only [literal?, Option.isSome_map] using isSome_pairLiterals? (e :: rest) h
  | record _ fields, h => by simpa only [literal?, Option.isSome_map] using isSome_fieldLiterals? fields h
  | set (v :: rest), h => by
    obtain ⟨first, others⟩ := List.forall_mem_append.1 h
    obtain ⟨s, hs⟩ := Option.isSome_iff_exists.1 (isSome_literal? v first)
    simpa only [literal?, hs, Option.bind_some, Option.isSome_map] using isSome_literals? rest others

/-- So can several values. -/
lemma isSome_literals? : (items : List Value) → (∀ n ∈ itemIntegers items, IsShort n) → (literals? items).isSome
  | [], _ => rfl
  | v :: rest, h => by
    obtain ⟨first, others⟩ := List.forall_mem_append.1 h
    obtain ⟨s, hs⟩ := Option.isSome_iff_exists.1 (isSome_literal? v first)
    simpa only [literals?, hs, Option.bind_some, Option.isSome_map] using isSome_literals? rest others

/-- So can the entries of a mapping. -/
lemma isSome_entryLiterals? :
    (entries : List (Value × Value)) → (∀ n ∈ entryIntegers entries, IsShort n) → (entryLiterals? entries).isSome
  | [], _ => rfl
  | (k, v) :: rest, h => by
    obtain ⟨hk, hrest⟩ := List.forall_mem_append.1 h
    obtain ⟨hv, others⟩ := List.forall_mem_append.1 hrest
    obtain ⟨s, hs⟩ := Option.isSome_iff_exists.1 (isSome_literal? k hk)
    obtain ⟨t, ht⟩ := Option.isSome_iff_exists.1 (isSome_literal? v hv)
    simpa only [entryLiterals?, hs, ht, Option.bind_some, Option.isSome_map] using isSome_entryLiterals? rest others

/-- So can the pairs of an ordered mapping. -/
lemma isSome_pairLiterals? :
    (entries : List (Value × Value)) → (∀ n ∈ entryIntegers entries, IsShort n) → (pairLiterals? entries).isSome
  | [], _ => rfl
  | (k, v) :: rest, h => by
    obtain ⟨hk, hrest⟩ := List.forall_mem_append.1 h
    obtain ⟨hv, others⟩ := List.forall_mem_append.1 hrest
    obtain ⟨s, hs⟩ := Option.isSome_iff_exists.1 (isSome_literal? k hk)
    obtain ⟨t, ht⟩ := Option.isSome_iff_exists.1 (isSome_literal? v hv)
    simpa only [pairLiterals?, hs, ht, Option.bind_some, Option.isSome_map] using isSome_pairLiterals? rest others

/-- So can the fields of a record. -/
lemma isSome_fieldLiterals? :
    (fields : List (String × Value)) → (∀ n ∈ fieldIntegers fields, IsShort n) → (fieldLiterals? fields).isSome
  | [], _ => rfl
  | (_, v) :: rest, h => by
    obtain ⟨first, others⟩ := List.forall_mem_append.1 h
    obtain ⟨s, hs⟩ := Option.isSome_iff_exists.1 (isSome_literal? v first)
    simpa only [fieldLiterals?, hs, Option.bind_some, Option.isSome_map] using isSome_fieldLiterals? rest others

end

/-- A value without long numbers can be a step of a path. -/
lemma isSome_text? {v : Value} (h : ∀ n ∈ v.integers, IsShort n) : v.text?.isSome := by
  cases v with
  | str s | day d | instant t => rfl
  | _ => exact isSome_literal? _ h

/-- A whole number can be a step of a path exactly if it is within the limit. -/
lemma isSome_text?_int {n : Int} : (int n).text?.isSome ↔ IsShort n := by
  refine ⟨fun h => ?_, fun h => isSome_text? (by simpa [integers] using h)⟩
  by_contra hn
  simp only [text?, literal?, integerText?_of_not_isShort hn, Option.map_none, Option.isSome_none,
    Bool.false_eq_true] at h

/-- Values with short integers only can all be displayed. -/
lemma isSome_mapM_text? {vs : List Value} (h : ∀ v ∈ vs, ∀ n ∈ v.integers, IsShort n) : (vs.mapM text?).isSome := by
  induction vs with
  | nil => rfl
  | cons v rest ih =>
    obtain ⟨first, others⟩ := List.forall_mem_cons.1 h
    obtain ⟨s, hs⟩ := Option.isSome_iff_exists.1 (isSome_text? first)
    obtain ⟨ss, hss⟩ := Option.isSome_iff_exists.1 (ih others)
    simp [hs, hss]

end TaggedGrammar.Value
