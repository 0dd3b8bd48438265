import TaggedGrammar.Hint.Coerce
import TaggedGrammar.Proofs.Outcomes
import TaggedGrammar.Proofs.Value.Display

/-!
# What coercion accepts

For each kind of hint that tables use: the values that it accepts, and what becomes of them.
-/

namespace TaggedGrammar

open Outcome

namespace Value

/-- A text is the same as itself only. -/
@[simp] lemma same_str {v : Value} {s : Text} : v.same (.str s) = true ↔ v = .str s := by
  cases v <;> simp [same, sameScalar]

/-- What is found among entries has what all of them have. -/
lemma of_lookup {P : Value → Prop} {key v : Value} {entries : List (Value × Value)}
    (hall : ∀ e ∈ entries, P e.2) (h : lookup key entries = some v) : P v := by
  induction entries with
  | nil => cases h
  | cons e rest ih =>
    obtain ⟨k, w⟩ := e
    obtain ⟨first, others⟩ := List.forall_mem_cons.1 hall
    unfold lookup at h
    split at h
    · cases h
      exact first
    · exact ih others h

/-- A field is looked for from the front. -/
lemma field?_cons {name key : Text} {v : Value} {rest : List (Value × Value)} :
    field? name ((.str key, v) :: rest) = if key = name then some v else field? name rest := by
  simp [field?, lookup]

/-- A field is missing if no key is its name. -/
lemma field?_eq_none {name : Text} {entries : List (Value × Value)} :
    field? name entries = none ↔ ∀ e ∈ entries, e.1 ≠ .str name := by
  unfold field?
  induction entries with
  | nil => simp [lookup]
  | cons e rest ih => by_cases h : e.1 = .str name <;> simp [lookup, h, ih]

end Value

/-- A fault that a table causes: a problem at a place of it, or a number that is too long for a message. -/
inductive Fault.FromTable (short : Prop) : Fault → Prop where
  | problem (e) :
    FromTable short (.table e)
  | digits :
    ¬short →
    FromTable short .tooManyDigits

/-- A stronger condition on the numbers gives the same faults. -/
lemma Fault.FromTable.mono {short short' : Prop} {f : Fault} (h : f.FromTable short) (himp : short' → short) :
    f.FromTable short' := by
  cases h with
  | problem e => exact .problem e
  | digits hlong => exact .digits fun hshort => hlong (himp hshort)

/-- With short numbers only a fault is a problem of the table. -/
lemma Fault.FromTable.table {short : Prop} {f : Fault} (h : f.FromTable short) (hshort : short) :
    ∃ e, f = .table e := by
  cases h with
  | problem e => exact ⟨e, rfl⟩
  | digits hlong => exact absurd hshort hlong

namespace Hint

/-- The items that a list or a fixed sequence holds. -/
inductive HasItems : Value → List Value → Prop where
  | list (items) : HasItems (.list items) items
  | tuple (items) : HasItems (.tuple items) items

/-- The entries that a mapping of either kind holds. -/
inductive HasEntries : Value → List (Value × Value) → Prop where
  | map (entries) : HasEntries (.map entries) entries
  | ordered (entries) : HasEntries (.ordered entries) entries

/-- A value has its items in one way. -/
lemma HasItems.unique {v : Value} {xs ys : List Value} (h : HasItems v xs) (h' : HasItems v ys) : xs = ys := by
  cases h <;> cases h' <;> rfl

/-- A value has its entries in one way. -/
lemma HasEntries.unique {v : Value} {es es' : List (Value × Value)} (h : HasEntries v es) (h' : HasEntries v es') :
    es = es' := by
  cases h <;> cases h' <;> rfl

variable {v x : Value} {path : Hint.Place}

/-- A text is accepted where a text is expected, and nothing else is. -/
lemma coerce_str_eq_ok : (coerce .str v path).result = .ok x ↔ ∃ s, v = .str s ∧ x = .str s := by
  cases v <;> simp [str, coerce, coerceScalar, Class.holds, eq_comm]

/-- Coercing the items of a list, if it does not matter where they are. -/
lemma eachItem_eq_ok {f : Value → Hint.Place → Outcome Value} {R : Value → Value → Prop}
    (hf : ∀ v x path, (f v path).result = .ok x ↔ R v x) {i : Nat} {items xs : List Value} :
    (eachItem f path i items).result = .ok xs ↔ List.Forall₂ R items xs := by
  induction items generalizing i xs with
  | nil => simp [eachItem, eq_comm]
  | cons v rest ih =>
    simp only [eachItem, result_bind_eq_ok, hf, ih, result_pure, Except.ok.injEq]
    constructor
    · rintro ⟨x, hx, others, hothers, rfl⟩
      exact .cons hx hothers
    · intro h
      cases h with
      | cons hx hothers => exact ⟨_, hx, _, hothers, rfl⟩

/-- A sequence is accepted if its items are, and becomes a fixed sequence. -/
lemma coerce_run_eq_ok {item : Hint} {R : Value → Value → Prop}
    (hitem : ∀ v x path, (coerce item v path).result = .ok x ↔ R v x) :
    (coerce (.run item) v path).result = .ok x ↔
      ∃ items xs, HasItems v items ∧ List.Forall₂ R items xs ∧ x = .tuple xs := by
  have accepted (items : List Value) :
      ((eachItem (fun x p => coerce item x p) path 0 items).andThen (.ok ∘ Value.tuple)).result = .ok x ↔
        ∃ xs, List.Forall₂ R items xs ∧ x = .tuple xs := by
    rw [andThen_eq_bind, result_bind_eq_ok]
    simp only [eachItem_eq_ok hitem, Function.comp_apply, result_ok, Except.ok.injEq, @eq_comm _ x]
  constructor
  · intro h
    unfold coerce at h
    split at h
    · obtain ⟨xs, hxs, rfl⟩ := (accepted _).1 h
      exact ⟨_, xs, .list _, hxs, rfl⟩
    · obtain ⟨xs, hxs, rfl⟩ := (accepted _).1 h
      exact ⟨_, xs, .tuple _, hxs, rfl⟩
    · cases h
  · rintro ⟨items, xs, hitems, hxs, rfl⟩
    cases hitems with
    | list => exact (accepted items).2 ⟨xs, hxs, rfl⟩
    | tuple => exact (accepted items).2 ⟨xs, hxs, rfl⟩

/-- A run of texts is a sequence of nothing but texts. -/
lemma coerce_texts_eq_ok :
    (coerce (.run .str) v path).result = .ok x ↔
      ∃ texts : List Text, HasItems v (texts.map .str) ∧ x = .tuple (texts.map .str) := by
  have same_texts {items xs : List Value} :
      List.Forall₂ (fun v x => ∃ s, v = Value.str s ∧ x = Value.str s) items xs ↔
        ∃ texts : List Text, items = texts.map .str ∧ xs = texts.map .str := by
    constructor
    · intro h
      induction h with
      | nil => exact ⟨[], rfl, rfl⟩
      | cons first _ ih =>
        obtain ⟨s, rfl, rfl⟩ := first
        obtain ⟨texts, rfl, rfl⟩ := ih
        exact ⟨s :: texts, rfl, rfl⟩
    · rintro ⟨texts, rfl, rfl⟩
      induction texts with
      | nil => exact .nil
      | cons s rest ih => exact .cons ⟨s, rfl, rfl⟩ ih
  rw [coerce_run_eq_ok fun _ _ _ => coerce_str_eq_ok]
  constructor
  · rintro ⟨items, xs, hitems, hxs, rfl⟩
    obtain ⟨texts, rfl, rfl⟩ := same_texts.1 hxs
    exact ⟨texts, hitems, rfl⟩
  · rintro ⟨texts, hitems, rfl⟩
    exact ⟨_, _, hitems, same_texts.2 ⟨texts, rfl, rfl⟩, rfl⟩

/-- A choice without members gives nothing. -/
lemma coerceFirst_nil_ne_ok {refusals : List Text} : (coerceFirst [] v path refusals).result ≠ .ok x := by
  cases refusals <;> simp [coerceFirst]

/-- A choice takes its first member, or what follows if that one is refused. -/
lemma coerceFirst_cons_eq_ok {h : Hint} {hs : List Hint} {refusals : List Text} (hnull : isNull h = false) :
    (coerceFirst (h :: hs) v path refusals).result = .ok x ↔
      (coerce h v path).result = .ok x ∨ ∃ e, (coerce h v path).result = .error (.table e) ∧
        (coerceFirst hs v path (refusals ++ [e.message])).result = .ok x := by
  simp only [coerceFirst, hnull, Bool.false_eq_true, if_false]
  cases hr : (coerce h v path).result with
  | ok a => simp [hr]
  | error f => cases f <;> simp [hr]

/-- A choice without null tries its members. -/
lemma coerce_union {barred : Bool} {members : List Hint} (hnull : members.any isNull = false) :
    coerce (.union barred members) v path = coerceFirst members v path [] := by
  cases v <;> simp [coerce, hnull]

/-- A text or a sequence of texts is accepted as such. -/
lemma coerce_textOrTexts_eq_ok :
    (coerce (.oneOf [.str, .run .str]) v path).result = .ok x ↔
      (∃ s, v = .str s ∧ x = .str s) ∨
        ∃ texts : List Text, HasItems v (texts.map .str) ∧ x = .tuple (texts.map .str) := by
  have members : oneOf [.str, .run .str] = .union false [.str, .run .str] := rfl
  rw [members, coerce_union rfl, coerceFirst_cons_eq_ok rfl, coerce_str_eq_ok]
  simp only [coerceFirst_cons_eq_ok (h := .run .str) rfl, coerceFirst_nil_ne_ok, and_false, exists_false, or_false,
    coerce_texts_eq_ok]
  constructor
  · rintro (hone | ⟨-, -, hmany⟩)
    · exact .inl hone
    · exact .inr hmany
  · rintro (hone | ⟨texts, hitems, rfl⟩)
    · exact .inl hone
    · -- A sequence is no text, so the first member refuses it.
      have refused : ∃ e, (coerce .str v path).result = .error (.table e) := by
        cases hitems <;> exact ⟨_, rfl⟩
      obtain ⟨e, he⟩ := refused
      exact .inr ⟨e, he, texts, hitems, rfl⟩

/-- A field without default has to be there. -/
lemma coerceFields_required {name : String} {hint : Hint} {rest : List (Field Hint)}
    {entries : List (Value × Value)} {values : List (String × Value)} :
    (coerceFields (⟨name, hint, none, true⟩ :: rest) entries path).result = .ok values ↔
      ∃ v x others, Value.field? name entries = some v ∧
        (coerce hint v (path ++ [Text.ofString name])).result = .ok x ∧
        (coerceFields rest entries path).result = .ok others ∧ values = (name, x) :: others := by
  cases hv : Value.field? name entries with
  | none => simp [coerceFields, hv, result_bind_eq_ok]
  | some v =>
    simp only [coerceFields, hv, result_bind_eq_ok, result_ok, result_pure, Except.ok.injEq, Option.some.injEq]
    constructor
    · rintro ⟨x, hx, _, rfl, others, hothers, rfl⟩
      exact ⟨v, x, others, rfl, hx, hothers, rfl⟩
    · rintro ⟨_, x, others, rfl, hx, hothers, rfl⟩
      exact ⟨x, hx, _, rfl, others, hothers, rfl⟩

/-- Keys pass if each of them is declared. -/
lemma checkKeys_eq_ok {declared : List Text} {entries : List (Value × Value)} :
    (checkKeys declared entries path).result = .ok () ↔ ∀ e ∈ entries, ∃ name ∈ declared, e.1 = .str name := by
  have none_extra : extraKeys declared entries = [] ↔ ∀ e ∈ entries, ∃ name ∈ declared, e.1 = .str name := by
    simp [extraKeys, List.filter_eq_nil_iff]
  rw [← none_extra]
  unfold checkKeys
  cases extraKeys declared entries with
  | nil => simp
  | cons k rest =>
    dsimp only
    split <;> simp

/-- Undeclared keys are a problem of the table, if they can be displayed. -/
lemma checkKeys_fault {declared : List Text} {entries : List (Value × Value)} {f : Fault}
    (h : (checkKeys declared entries path).result = .error f) :
    f.FromTable (∀ e ∈ entries, ∀ n ∈ e.1.integers, Value.IsShort n) := by
  have shown (short : ∀ e ∈ entries, ∀ n ∈ e.1.integers, Value.IsShort n) :
      ((extraKeys declared entries).mapM Value.text?).isSome := by
    refine Value.isSome_mapM_text? fun k hk => ?_
    obtain ⟨e, he, rfl⟩ := List.mem_map.1 (List.mem_filter.1 hk).1
    exact short e he
  unfold checkKeys at h
  split at h
  · cases h
  · split at h
    next hnone =>
      cases h
      refine .digits fun short => ?_
      rw [hnone] at shown
      cases shown short
    next =>
      cases h
      exact .problem _

/-- A mapping is accepted as a record if its keys are declared and its fields are accepted. -/
lemma coerce_record_eq_ok {name : String} {home : Option String} {fields : List (Field Hint)} :
    (coerce (.record name home fields none) v path).result = .ok x ↔
      ∃ entries values, HasEntries v entries ∧
        (∀ e ∈ entries, ∃ n ∈ fields.map (fun f => Text.ofString f.name), e.1 = .str n) ∧
        (coerceFields fields entries path).result = .ok values ∧ x = .record name values := by
  have accepted (entries : List (Value × Value)) :
      (do
        checkKeys (fields.map fun f => f.name) entries path
        let values ← coerceFields fields entries path
        Outcome.note (.built name path)
        Outcome.ok (Value.record name values) : Outcome Value).result = .ok x ↔
        ∃ values, (∀ e ∈ entries, ∃ n ∈ fields.map (fun f => Text.ofString f.name), e.1 = .str n) ∧
          (coerceFields fields entries path).result = .ok values ∧ x = .record name values := by
    simp only [result_bind_eq_ok, result_note, result_ok, Except.ok.injEq]
    constructor
    · rintro ⟨_, hkeys, values, hvalues, _, -, rfl⟩
      exact ⟨values, checkKeys_eq_ok.1 hkeys, hvalues, rfl⟩
    · rintro ⟨values, hkeys, hvalues, rfl⟩
      exact ⟨(), checkKeys_eq_ok.2 hkeys, values, hvalues, (), trivial, rfl⟩
  -- mappings of both kinds go the same way
  constructor
  · intro h
    unfold coerce at h
    split at h
    · obtain ⟨values, hrest⟩ := (accepted _).1 h
      exact ⟨_, values, .map _, hrest⟩
    · obtain ⟨values, hrest⟩ := (accepted _).1 h
      exact ⟨_, values, .ordered _, hrest⟩
    · cases h
  · rintro ⟨entries, values, hentries, hrest⟩
    cases hentries with
    | map => exact (accepted entries).2 ⟨values, hrest⟩
    | ordered => exact (accepted entries).2 ⟨values, hrest⟩

/-- A record is built from a mapping with declared keys whose fields are accepted. -/
lemma build_record_eq_ok {name : String} {home : Option String} {fields : List (Field Hint)} :
    (build (.record name home fields none) v path).result = .ok x ↔
      ∃ entries values, HasEntries v entries ∧
        (∀ e ∈ entries, ∃ n ∈ fields.map (fun f => Text.ofString f.name), e.1 = .str n) ∧
        (coerceFields fields entries path).result = .ok values ∧ x = .record name values := by
  rw [build, result_mapFault_eq_ok]
  exact coerce_record_eq_ok

/-- Whatever cannot be built is a problem of the table. -/
lemma build_eq_error {hint : Hint} {f : Fault} (h : (build hint v path).result = .error f) :
    ∃ e, f = .table e := by
  unfold build at h
  rw [result_mapFault_eq_error] at h
  obtain ⟨f', -, rfl⟩ := h
  cases f' <;> exact ⟨_, rfl⟩

end Hint

end TaggedGrammar
