import TaggedGrammar.Proofs.Hint.Records
import TaggedGrammar.Proofs.Table.Check
import TaggedGrammar.Table.Shape

/-!
# What coercion makes of captures and of absent fields

A mapping from whole numbers to texts becomes captures: each entry is written after those before it. A field that
is absent has its default.
-/

namespace TaggedGrammar

open Outcome

/-- Captures as the entries of a mapping. -/
def Captures.entries (c : Captures) : List (Value × Value) :=
  c.map fun e => (.int e.1, .str e.2)

/-- Captures that a mapping can hold: no group has two scopes. -/
def Captures.IsMapping (c : Captures) : Prop :=
  (c.map Prod.fst).Nodup

/-- A scope is put under a number as it is put among the entries. -/
lemma Captures.put_entries (index : Int) (scope : Text) (c : Captures) :
    Value.put (.int index) (.str scope) c.entries = (c.put index scope).entries := by
  induction c with
  | nil => rfl
  | cons e rest ih =>
    obtain ⟨i, s⟩ := e
    have hsame : (Value.int i).same (.int index) = (i == index) := by simp only [Value.same, Value.sameScalar]
    by_cases h : i = index
    · subst h
      simp [entries, Value.put, put, hsame]
    · simpa [entries, Value.put, put, hsame, h] using ih

namespace Hint

variable {v x : Value} {path : Hint.Place}

/-- A whole number is accepted as it is. -/
lemma coerce_int_eq_ok : (coerce (.scalar .int) v path).result = .ok x ↔ ∃ n, v = .int n ∧ x = .int n := by
  cases v <;> simp [coerce, coerceScalar, Class.holds, eq_comm]

/-- Entries that were written into captures are from whole numbers to texts, and the numbers can be displayed. -/
lemma eachEntry_captures_eq_ok {done : Captures} {es out : List (Value × Value)} :
    (eachEntry (fun k p => coerce (.scalar .int) k p) (fun y p => coerce .str y p) path done.entries es).result =
        .ok out ↔
      ∃ pairs : Captures, es = pairs.entries ∧ pairs.IsShort ∧
        out = (pairs.foldl (fun c e => Captures.put e.1 e.2 c) done).entries := by
  induction es generalizing done with
  | nil =>
    constructor
    · intro h
      cases h
      exact ⟨[], rfl, nofun, rfl⟩
    · rintro ⟨pairs, hpairs, -, rfl⟩
      cases List.map_eq_nil_iff.1 hpairs.symm
      rfl
  | cons e rest ih =>
    obtain ⟨k, y⟩ := e
    simp only [eachEntry, result_bind_eq_ok, coerce_int_eq_ok, coerce_str_eq_ok, result_ofOption_eq_ok]
    constructor
    · rintro ⟨_, ⟨n, rfl, rfl⟩, step, hstep, _, ⟨s, rfl, rfl⟩, hrest⟩
      rw [Captures.put_entries] at hrest
      obtain ⟨pairs, rfl, short, rfl⟩ := ih.1 hrest
      have short_n : Value.IsShort n := Value.isSome_text?_int.1 (Option.isSome_iff_exists.2 ⟨step, hstep⟩)
      exact ⟨(n, s) :: pairs, rfl, List.forall_mem_cons.2 ⟨short_n, short⟩, rfl⟩
    · rintro ⟨pairs, hpairs, short, rfl⟩
      cases pairs with
      | nil => cases hpairs
      | cons p pairs =>
        obtain ⟨n, s⟩ := p
        cases hpairs
        obtain ⟨short_n, short_rest⟩ := List.forall_mem_cons.1 short
        obtain ⟨step, hstep⟩ := Option.isSome_iff_exists.1 (Value.isSome_text?_int.2 short_n)
        refine ⟨_, ⟨n, rfl, rfl⟩, step, hstep, _, ⟨s, rfl, rfl⟩, ?_⟩
        rw [Captures.put_entries]
        exact ih.2 ⟨pairs, rfl, short_rest, rfl⟩

/-- A mapping from whole numbers that can be displayed to texts is accepted as captures. -/
lemma coerce_captures_eq_ok :
    (coerce Shape.captures v path).result = .ok x ↔
      ∃ pairs : Captures, HasEntries v pairs.entries ∧ pairs.IsShort ∧ x = .map (Captures.ofPairs pairs).entries := by
  have accepted {es : List (Value × Value)} :
      ((eachEntry (fun k p => coerce (.scalar .int) k p) (fun y p => coerce .str y p) path [] es).andThen
          (.ok ∘ Value.map)).result = .ok x ↔
        ∃ pairs : Captures, es = pairs.entries ∧ pairs.IsShort ∧ x = .map (Captures.ofPairs pairs).entries := by
    have written {out : List (Value × Value)} := @eachEntry_captures_eq_ok path [] es out
    rw [andThen_eq_bind, result_bind_eq_ok]
    constructor
    · rintro ⟨out, hout, hx⟩
      cases hx
      obtain ⟨pairs, hes, short, rfl⟩ := written.1 hout
      exact ⟨pairs, hes, short, rfl⟩
    · rintro ⟨pairs, hes, short, rfl⟩
      exact ⟨_, written.2 ⟨pairs, hes, short, rfl⟩, rfl⟩
  constructor
  · intro h
    unfold Shape.captures coerce at h
    split at h
    · obtain ⟨pairs, rfl, hrest⟩ := accepted.1 h
      exact ⟨pairs, .map _, hrest⟩
    · obtain ⟨pairs, rfl, hrest⟩ := accepted.1 h
      exact ⟨pairs, .ordered _, hrest⟩
    · cases h
  · rintro ⟨pairs, hentries, hrest⟩
    generalize hes : pairs.entries = es at hentries
    cases hentries with
    | map => exact accepted.2 ⟨pairs, hes.symm, hrest⟩
    | ordered => exact accepted.2 ⟨pairs, hes.symm, hrest⟩

/-- Where captures may be absent, null is accepted beside them. -/
lemma coerce_optional_captures_eq_ok :
    (coerce (.optional Shape.captures) v path).result = .ok x ↔
      v = .null ∧ x = .null ∨ (coerce Shape.captures v path).result = .ok x := by
  have members : optional Shape.captures = .union false [Shape.captures, .instanceOf .null] := rfl
  have first : (coerceFirst [Shape.captures, .instanceOf .null] v path []).result = .ok x ↔
      (coerce Shape.captures v path).result = .ok x := by
    have skipped {refusals : List Text} :
        (coerceFirst [.instanceOf .null] v path refusals).result ≠ .ok x := coerceFirst_nil_ne_ok
    simp only [coerceFirst_cons_eq_ok (h := Shape.captures) rfl, skipped, and_false, exists_false, or_false]
  rw [members]
  cases v with
  | null =>
    have refused : (coerce Shape.captures .null path).result ≠ .ok x := nofun
    constructor
    · intro h
      cases h
      exact .inl ⟨rfl, rfl⟩
    · rintro (⟨-, rfl⟩ | h)
      · rfl
      · exact absurd h refused
  | _ => simpa [coerce] using first

/-- A field with a default is accepted if it is absent. -/
lemma coerceFields_defaulted {name : String} {hint : Hint} {d : Value} {rest : List (Field Hint)}
    {entries : List (Value × Value)} {values : List (String × Value)} :
    (coerceFields (⟨name, hint, some d, true⟩ :: rest) entries path).result = .ok values ↔
      ∃ x others, (Value.field? name entries = none ∧ x = d ∨
          ∃ v, Value.field? name entries = some v ∧ (coerce hint v (path ++ [Text.ofString name])).result = .ok x) ∧
        (coerceFields rest entries path).result = .ok others ∧ values = (name, x) :: others := by
  cases hv : Value.field? name entries with
  | none =>
    simp only [coerceFields, hv, result_bind_eq_ok, result_ok, result_pure, Except.ok.injEq]
    constructor
    · rintro ⟨_, rfl, others, hothers, rfl⟩
      exact ⟨d, others, .inl ⟨trivial, rfl⟩, hothers, rfl⟩
    · rintro ⟨_, others, ⟨-, rfl⟩ | ⟨_, hsome, -⟩, hothers, rfl⟩
      · exact ⟨_, rfl, others, hothers, rfl⟩
      · cases hsome
  | some v =>
    simp only [coerceFields, hv, result_bind_eq_ok, result_ok, result_pure, Except.ok.injEq, Option.some.injEq]
    constructor
    · rintro ⟨x, hx, _, rfl, others, hothers, rfl⟩
      exact ⟨x, others, .inr ⟨v, rfl, hx⟩, hothers, rfl⟩
    · rintro ⟨x, others, ⟨hnone, -⟩ | ⟨_, rfl, hx⟩, hothers, rfl⟩
      · cases hnone
      · exact ⟨x, hx, _, rfl, others, hothers, rfl⟩

end Hint

end TaggedGrammar
