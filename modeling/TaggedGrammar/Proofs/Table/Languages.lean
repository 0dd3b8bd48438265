import TaggedGrammar.Proofs.Hint.Records
import TaggedGrammar.Proofs.Table.Check

/-!
# The format of language tables

`IsLanguageTable` says which mappings are language tables and what they describe, without an order of checks.
The parser accepts these mappings, gives what they describe, and refuses all others.
-/

namespace TaggedGrammar.Table

open Outcome Hint Value

/-- A value that an author may write for a source. -/
inductive DescribesSource : Value → Source → Prop where
  | one (scope) : DescribesSource (.str scope) (.one scope)
  | many {v : Value} {scopes : List Text} : HasItems v (scopes.map .str) → DescribesSource v (.many scopes)

/-- The entries that an author may write for a language, in any order. -/
structure DescribesLanguage (entries : List (Value × Value)) (l : Language) : Prop where
  keys : ∀ e ∈ entries, e.1 ∈ [Value.str "name", .str "identifiers", .str "source"]
  name : field? "name" entries = some (.str l.name)
  identifiers : ∃ v, field? "identifiers" entries = some v ∧ HasItems v (l.identifiers.map .str)
  source : ∃ v, field? "source" entries = some v ∧ DescribesSource v l.source

/-- An item of a language table that describes a language. -/
def ItemDescribes (item : Value) (l : Language) : Prop :=
  ∃ entries, HasEntries item entries ∧ DescribesLanguage entries l

/-- A mapping that is a language table, and the languages that it describes. -/
structure IsLanguageTable (raw : List (Value × Value)) (languages : List Language) : Prop where
  keys : ∀ e ∈ raw, e.1 = .str "languages"
  items : ∃ items, field? "languages" raw = some (.list items) ∧ List.Forall₂ ItemDescribes items languages
  nonempty : languages ≠ []
  wellFormed : ∀ l ∈ languages, l.WellFormed
  names : (languages.map Language.name).Nodup

/-- Texts are read back from their values. -/
lemma mapM_asText? (texts : List Text) : (texts.map Value.str).mapM Value.asText? = some texts := by
  induction texts with
  | nil => rfl
  | cons s rest ih => simp [ih, Value.asText?]

/-- A source is one scope or several. -/
lemma describesSource_iff {v : Value} {path : Hint.Place} {source : Source} :
    (∃ x, (coerce (.oneOf [.str, .run .str]) v path).result = .ok x ∧ Source.ofValue? x = some source) ↔
      DescribesSource v source := by
  simp only [coerce_textOrTexts_eq_ok]
  constructor
  · rintro ⟨x, ⟨s, rfl, rfl⟩ | ⟨texts, hitems, rfl⟩, hsource⟩
    · cases hsource
      exact .one s
    · simp only [Source.ofValue?, mapM_asText?, Option.map_some, Option.some.injEq] at hsource
      cases hsource
      exact .many hitems
  · intro h
    cases h with
    | one s => exact ⟨.str s, .inl ⟨s, rfl, rfl⟩, rfl⟩
    | @many _ scopes hitems =>
      exact ⟨_, .inr ⟨scopes, hitems, rfl⟩, by simp only [Source.ofValue?, mapM_asText?, Option.map_some]⟩

/-- The record of a language stands for the language that its entries describe. -/
lemma buildLanguage_eq_ok {item : Value} {i : Nat} {l : Language} :
    (buildLanguage item i).result = .ok l ↔ ItemDescribes item l := by
  have declared (e : Value × Value) :
      (∃ n ∈ ["name", "identifiers", "source"].map Text.ofString, e.1 = .str n) ↔
        e.1 ∈ [Value.str "name", .str "identifiers", .str "source"] := by
    simp
  simp only [buildLanguage, result_bind_eq_ok, result_ofOption_eq_ok]
  constructor
  · rintro ⟨v, hv, hl⟩
    obtain ⟨entries, values, hentries, hkeys, hfields, rfl⟩ := build_record_eq_ok.1 hv
    obtain ⟨_, _, _, hname, hn, hfields₁, rfl⟩ := coerceFields_required.1 hfields
    obtain ⟨name, rfl, rfl⟩ := coerce_str_eq_ok.1 hn
    obtain ⟨vi, _, _, hidentifiers, hi, hfields₂, rfl⟩ := coerceFields_required.1 hfields₁
    obtain ⟨identifiers, hitems, rfl⟩ := coerce_texts_eq_ok.1 hi
    obtain ⟨vs, x, _, hsource, hx, hfields₃, rfl⟩ := coerceFields_required.1 hfields₂
    cases hfields₃
    simp only [Language.ofValue?, mapM_asText?, Option.bind_eq_bind, Option.bind_some, Option.bind_eq_some_iff,
      Option.pure_def, Option.some.injEq] at hl
    obtain ⟨source, hx', rfl⟩ := hl
    exact ⟨entries, hentries, fun e he => (declared e).1 (hkeys e he), hname, ⟨vi, hidentifiers, hitems⟩,
      ⟨vs, hsource, describesSource_iff.1 ⟨x, hx, hx'⟩⟩⟩
  · rintro ⟨entries, hentries, hkeys, hname, ⟨vi, hidentifiers, hitems⟩, ⟨vs, hsource, describes⟩⟩
    obtain ⟨x, hx, hx'⟩ := describesSource_iff.2 describes
    refine ⟨_, build_record_eq_ok.2 ⟨entries, _, hentries, fun e he => (declared e).2 (hkeys e he),
      coerceFields_required.2 ⟨_, _, _, hname, coerce_str_eq_ok.2 ⟨_, rfl, rfl⟩,
        coerceFields_required.2 ⟨_, _, _, hidentifiers, coerce_texts_eq_ok.2 ⟨_, hitems, rfl⟩,
          coerceFields_required.2 ⟨_, _, _, hsource, hx, rfl, rfl⟩, rfl⟩, rfl⟩, rfl⟩, ?_⟩
    simp only [Language.ofValue?, mapM_asText?, hx', Option.bind_eq_bind, Option.bind_some, Option.pure_def]

/-- Languages are built if their items describe them. -/
lemma buildLanguages_eq_ok {i : Nat} {items : List Value} {languages : List Language} :
    (buildLanguages i items).result = .ok languages ↔ List.Forall₂ ItemDescribes items languages := by
  induction items generalizing i languages with
  | nil => simp [buildLanguages, eq_comm]
  | cons item rest ih =>
    simp only [buildLanguages, result_bind_eq_ok, buildLanguage_eq_ok, ih, result_pure, Except.ok.injEq]
    constructor
    · rintro ⟨l, hl, ls, hls, rfl⟩
      exact .cons hl hls
    · intro h
      cases h with
      | cons hl hls => exact ⟨_, hl, _, hls, rfl⟩

/-- A language is refused for a problem of the table. -/
lemma buildLanguage_eq_error {item : Value} {i : Nat} {f : Fault} (h : (buildLanguage item i).result = .error f) :
    ∃ e, f = .table e := by
  rcases result_bind_eq_error.1 h with hbuilt | ⟨v, -, hrecord⟩
  · exact build_eq_error hbuilt
  · cases hl : Language.ofValue? v with
    | none =>
      rw [hl, result_ofOption_none] at hrecord
      exact ⟨_, (Except.error.inj hrecord).symm⟩
    | some l =>
      rw [hl] at hrecord
      cases hrecord

/-- Languages are refused for a problem of the table. -/
lemma buildLanguages_eq_error {i : Nat} {items : List Value} {f : Fault}
    (h : (buildLanguages i items).result = .error f) : ∃ e, f = .table e := by
  induction items generalizing i with
  | nil => cases h
  | cons item rest ih =>
    rcases result_bind_eq_error.1 h with hfirst | ⟨l, -, hrest⟩
    · exact buildLanguage_eq_error hfirst
    · rcases result_bind_eq_error.1 hrest with hothers | ⟨ls, -, hpure⟩
      · exact ih hothers
      · cases hpure

/-- The parser accepts the language tables. -/
lemma parseLanguages_eq_ok {raw : List (Value × Value)} {languages : List Language} :
    (parseLanguages raw).result = .ok languages ↔ IsLanguageTable raw languages := by
  constructor
  · intro h
    unfold parseLanguages at h
    split at h
    · next items hitems =>
      simp only [result_bind_eq_ok, result_pure, Except.ok.injEq] at h
      obtain ⟨_, hkeys, _, hbuilt, _, hchecked, rfl⟩ := h
      obtain ⟨nonempty, wellFormed, names⟩ := checkLanguages_eq_ok.1 (checked_eq_ok.1 hchecked)
      have only : ∀ e ∈ raw, e.1 = .str "languages" := by
        simpa using checkKeys_eq_ok.1 hkeys
      exact ⟨only, ⟨items, hitems, buildLanguages_eq_ok.1 hbuilt⟩, nonempty, wellFormed, names⟩
    · cases h
  · rintro ⟨only, ⟨items, hitems, described⟩, nonempty, wellFormed, names⟩
    have hkeys : (checkKeys [Text.ofString "languages"] raw []).result = .ok () :=
      checkKeys_eq_ok.2 (by simpa using only)
    have hchecked : (checked (checkLanguages languages)).result = .ok () :=
      checked_eq_ok.2 (checkLanguages_eq_ok.2 ⟨nonempty, wellFormed, names⟩)
    simp only [parseLanguages, hitems, result_bind_eq_ok]
    exact ⟨(), hkeys, languages, buildLanguages_eq_ok.2 described, (), hchecked, rfl⟩

/-- A language table is refused for a problem of its own, or because a key cannot be displayed. -/
lemma parseLanguages_fault {raw : List (Value × Value)} {f : Fault} (h : (parseLanguages raw).result = .error f) :
    f.FromTable (∀ e ∈ raw, ∀ n ∈ e.1.integers, IsShort n) := by
  unfold parseLanguages at h
  split at h
  · rcases result_bind_eq_error.1 h with hkeys | ⟨_, -, h₁⟩
    · exact checkKeys_fault hkeys
    rcases result_bind_eq_error.1 h₁ with hbuilt | ⟨languages, -, h₂⟩
    · obtain ⟨e, rfl⟩ := buildLanguages_eq_error hbuilt
      exact .problem e
    rcases result_bind_eq_error.1 h₂ with hchecked | ⟨_, -, h₃⟩
    · obtain ⟨e, -, rfl⟩ := checked_eq_error.1 hchecked
      exact .problem e
    · cases h₃
  · cases h
    exact .problem _

/-- The parser stops with a problem of the table only. -/
lemma parseLanguages_eq_error {raw : List (Value × Value)} {f : Fault}
    (hshort : ∀ e ∈ raw, ∀ n ∈ e.1.integers, IsShort n) (h : (parseLanguages raw).result = .error f) :
    ∃ e, f = .table e :=
  (parseLanguages_fault h).table hshort

/-- A mapping is parsed into languages if and only if it is a language table that describes them. Every other
mapping is refused as a problem of the table, if the whole numbers in its keys can be displayed. -/
theorem parseLanguages_accepts_language_tables (raw : List (Value × Value)) :
    (∀ languages, (parseLanguages raw).result = .ok languages ↔ IsLanguageTable raw languages) ∧
      ((∀ e ∈ raw, ∀ n ∈ e.1.integers, IsShort n) → (∀ languages, ¬IsLanguageTable raw languages) →
        ∃ e, (parseLanguages raw).result = .error (.table e)) := by
  refine ⟨fun languages => parseLanguages_eq_ok, fun hshort none => ?_⟩
  cases hresult : (parseLanguages raw).result with
  | ok languages => exact absurd (parseLanguages_eq_ok.1 hresult) (none languages)
  | error f =>
    obtain ⟨e, rfl⟩ := parseLanguages_eq_error hshort hresult
    exact ⟨e, rfl⟩

section Sample

/-- The entries of a language with two scopes, out of order. -/
def sampleEntries : List (Value × Value) :=
  [(.str "source", .tuple [.str "s", .str "t"]), (.str "name", .str "a"), (.str "identifiers", .list [.str "b"])]

/-- The language of these entries. -/
def sampleLanguage : Language :=
  { name := "a", identifiers := [Text.ofString "b"], source := .many [Text.ofString "s", Text.ofString "t"] }

/-- The language of the sample. -/
lemma describesLanguage_sample : DescribesLanguage sampleEntries sampleLanguage where
  keys := by simp [sampleEntries]
  name := by simp [sampleEntries, sampleLanguage, field?, lookup, Text.ofString, Text.ofChars]
  identifiers := ⟨.list [.str "b"], by simp [sampleEntries, field?, lookup, Text.ofString, Text.ofChars], .list _⟩
  source := ⟨.tuple [.str "s", .str "t"], by simp [sampleEntries, field?, lookup], .many (.tuple _)⟩

/-- The sample is a language table. -/
lemma isLanguageTable_sample :
    IsLanguageTable [(.str "languages", .list [.ordered sampleEntries])] [sampleLanguage] where
  keys := by simp
  items := ⟨_, by simp [field?, lookup], .cons ⟨_, .ordered _, describesLanguage_sample⟩ .nil⟩
  nonempty := by simp
  wellFormed := List.forall_mem_singleton.2 ⟨by decide, by decide, by decide, by decide, by decide⟩
  names := by simp

/-- A table is parsed, and the same table with a number as a key beside it is refused. -/
theorem parseLanguages_tells_a_stray_key :
    (parseLanguages [(.str "languages", .list [.ordered sampleEntries])]).result = .ok [sampleLanguage] ∧
      ∃ e, (parseLanguages [(.int 7, .null), (.str "languages", .list [.ordered sampleEntries])]).result =
        .error (.table e) := by
  refine ⟨((parseLanguages_accepts_language_tables _).1 _).2 isLanguageTable_sample,
    (parseLanguages_accepts_language_tables _).2 ?_ fun languages h => ?_⟩
  · have hshort : IsShort 7 := Nat.lt_of_lt_of_le (by decide : 7 < 10) (Nat.le_self_pow (by decide) 10)
    simpa [integers] using hshort
  · cases h.keys _ List.mem_cons_self

end Sample

end TaggedGrammar.Table
