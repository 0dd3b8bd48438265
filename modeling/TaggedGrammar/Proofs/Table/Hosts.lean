import TaggedGrammar.Proofs.Hint.Mappings
import TaggedGrammar.Proofs.Table.Languages
import TaggedGrammar.Proofs.Yaml.Keys

/-!
# The format of host tables

`IsHostTable` says which mappings are host tables and what they describe, without an order of checks. The parser
accepts these mappings, gives what they describe, and refuses all others.
-/

namespace TaggedGrammar

namespace Table

open Outcome Hint Value

/-- A value that an author may write for captures. A number that is written twice keeps its place and has its last
scope; no mapping does so. -/
def DescribesCaptures (v : Value) (c : Captures) : Prop :=
  ∃ pairs : Captures, HasEntries v pairs.entries ∧ c = Captures.ofPairs pairs

/-- What an author may write for captures that may be left out. -/
inductive DescribesOptional : Option Value → Option Captures → Prop where
  | absent : DescribesOptional none none
  | null : DescribesOptional (some .null) none
  | given {v : Value} {c : Captures} : DescribesCaptures v c → DescribesOptional (some v) (some c)

/-- The entries that an author may write for a region shape, in any order. -/
structure DescribesBoundary (entries : List (Value × Value)) (b : Boundary) : Prop where
  keys : ∀ e ∈ entries, e.1 ∈ [Value.str "begin", .str "end", .str "begin_captures", .str "end_captures"]
  opening : field? "begin" entries = some (.str b.opening)
  closing : field? "end" entries = some (.str b.closing)
  openingCaptures : ∃ v, field? "begin_captures" entries = some v ∧ DescribesCaptures v b.openingCaptures
  closingCaptures : DescribesOptional (field? "end_captures" entries) b.closingCaptures

/-- A mapping that describes a region shape. -/
def MapsBoundary (v : Value) (b : Boundary) : Prop :=
  ∃ entries, HasEntries v entries ∧ DescribesBoundary entries b

/-- What an author may write for a text with a default. -/
inductive DescribesText (default : Text) : Option Value → Text → Prop where
  | absent : DescribesText default none default
  | given (s : Text) : DescribesText default (some (.str s)) s

/-- The entries that an author may write for a host, its name apart, in any order. -/
structure DescribesHost (entries : List (Value × Value)) (host : Host) : Prop where
  keys : ∀ e ∈ entries, e.1 ∈ [Value.str "target_scopes", .str "basic_grammar_pattern", .str "basic_grammar",
    .str "substitution_include", .str "string_scope"]
  targetScopes : ∃ v, field? "target_scopes" entries = some v ∧ HasItems v (host.targetScopes.map .str)
  tagged : ∃ v, field? "basic_grammar_pattern" entries = some v ∧ MapsBoundary v host.tagged
  dispatch : ∃ v, field? "basic_grammar" entries = some v ∧ MapsBoundary v host.dispatch
  substitution : DescribesText defaultSubstitution (field? "substitution_include" entries) host.substitution
  stringScope : DescribesText defaultStringScope (field? "string_scope" entries) host.stringScope

/-- An entry of a host table that describes a host: the key is its name. -/
structure EntryDescribes (e : Value × Value) (host : Host) : Prop where
  name : e.1 = .str host.name
  body : ∃ entries, HasEntries e.2 entries ∧ DescribesHost entries host

/-- A mapping that is a host table, and the hosts that it describes. -/
structure IsHostTable (raw : List (Value × Value)) (hosts : List Host) : Prop where
  keys : ∀ e ∈ raw, e.1 = .str "hosts"
  entries : ∃ v entries, field? "hosts" raw = some v ∧ HasEntries v entries ∧
    List.Forall₂ EntryDescribes entries hosts
  nonempty : hosts ≠ []
  wellFormed : ∀ host ∈ hosts, host.WellFormed

section Captures

/-- Captures are read back from their entries. -/
lemma mapM_entries (c : Captures) : c.entries.mapM Captures.entry? = some c := by
  unfold Captures.entries
  induction c with
  | nil => rfl
  | cons e rest ih => simp [ih, Captures.entry?]

/-- Captures have the numbers of the pairs they are made of. -/
lemma mem_keys_ofPairs {pairs : Captures} {n : Int} :
    n ∈ (Captures.ofPairs pairs).map Prod.fst ↔ n ∈ pairs.map Prod.fst := by
  have put (c : Captures) (i : Int) (s : Text) :
      n ∈ (c.put i s).map Prod.fst ↔ n ∈ c.map Prod.fst ∨ n = i := by
    induction c with
    | nil => simp [Captures.put]
    | cons e rest ih =>
      obtain ⟨j, t⟩ := e
      by_cases hj : j = i
      · subst hj
        simp only [Captures.put, if_true, List.map_cons, List.mem_cons]
        tauto
      · simp only [Captures.put, if_neg hj, List.map_cons, List.mem_cons, ih, or_assoc]
  have written (done : Captures) : n ∈ (pairs.foldl (fun c e => Captures.put e.1 e.2 c) done).map Prod.fst ↔
      n ∈ done.map Prod.fst ∨ n ∈ pairs.map Prod.fst := by
    induction pairs generalizing done with
    | nil => simp
    | cons e rest ih => rw [List.foldl_cons, ih, put, List.map_cons, List.mem_cons, or_assoc]
  rw [Captures.ofPairs, written]
  simp

/-- Captures are short if their numbers are. -/
lemma isShort_iff_keys {c : Captures} : c.IsShort ↔ ∀ n ∈ c.map Prod.fst, IsShort n := by
  simp [Captures.IsShort]

/-- Captures are short if the pairs they are made of are. -/
lemma isShort_ofPairs {pairs : Captures} : (Captures.ofPairs pairs).IsShort ↔ pairs.IsShort := by
  simp only [isShort_iff_keys, mem_keys_ofPairs]

/-- Captures are accepted if a mapping describes them and their numbers can be displayed. -/
lemma describesCaptures_iff {v : Value} {c : Captures} (path : Hint.Place) :
    (∃ es, (coerce Shape.captures v path).result = .ok (.map es) ∧ es.mapM Captures.entry? = some c) ↔
      DescribesCaptures v c ∧ c.IsShort := by
  simp only [coerce_captures_eq_ok]
  constructor
  · rintro ⟨es, ⟨pairs, hentries, short, heq⟩, hc⟩
    cases heq
    rw [mapM_entries] at hc
    cases hc
    exact ⟨⟨pairs, hentries, rfl⟩, isShort_ofPairs.2 short⟩
  · rintro ⟨⟨pairs, hentries, rfl⟩, short⟩
    exact ⟨_, ⟨pairs, hentries, isShort_ofPairs.1 short, rfl⟩, mapM_entries _⟩

/-- The same holds of captures that may be absent or null. -/
lemma describesOptional_iff {found : Option Value} {path : Hint.Place} {c : Option Captures} :
    (∃ y, (found = none ∧ y = .null ∨
        ∃ v, found = some v ∧ (coerce (.optional Shape.captures) v path).result = .ok y) ∧
      Captures.optional? y = some c) ↔ DescribesOptional found c ∧ ∀ c' ∈ c, c'.IsShort := by
  simp only [coerce_optional_captures_eq_ok]
  constructor
  · rintro ⟨y, ⟨rfl, rfl⟩ | ⟨v, rfl, ⟨rfl, rfl⟩ | hcoerced⟩, hc⟩
    · cases hc
      exact ⟨.absent, nofun⟩
    · cases hc
      exact ⟨.null, nofun⟩
    · obtain ⟨pairs, hentries, short, rfl⟩ := coerce_captures_eq_ok.1 hcoerced
      simp only [Captures.optional?, mapM_entries, Option.map_some, Option.some.injEq] at hc
      subst hc
      exact ⟨.given ⟨pairs, hentries, rfl⟩, by simpa using isShort_ofPairs.2 short⟩
  · rintro ⟨h, short⟩
    cases h with
    | absent => exact ⟨.null, .inl ⟨rfl, rfl⟩, rfl⟩
    | null => exact ⟨.null, .inr ⟨.null, rfl, .inl ⟨rfl, rfl⟩⟩, rfl⟩
    | @given v c described =>
      obtain ⟨es, hes, hc⟩ := (describesCaptures_iff path).2 ⟨described, short c rfl⟩
      exact ⟨.map es, .inr ⟨v, rfl, .inr hes⟩, by simp only [Captures.optional?, hc, Option.map_some]⟩

/-- A new number is put at the end. -/
lemma put_of_notMem {c : Captures} {index : Int} (h : index ∉ c.map Prod.fst) (scope : Text) :
    c.put index scope = c ++ [(index, scope)] := by
  induction c with
  | nil => rfl
  | cons e rest ih =>
    obtain ⟨i, s⟩ := e
    simp only [List.map_cons, List.mem_cons, not_or] at h
    simp only [Captures.put, if_neg (Ne.symm h.1), ih h.2, List.cons_append]

/-- Pairs with different numbers are captures as they are. -/
lemma ofPairs_of_nodup {pairs : Captures} (h : (pairs.map Prod.fst).Nodup) : Captures.ofPairs pairs = pairs := by
  have written (done : Captures) (hnew : (done.map Prod.fst).Disjoint (pairs.map Prod.fst)) :
      pairs.foldl (fun c e => Captures.put e.1 e.2 c) done = done ++ pairs := by
    induction pairs generalizing done with
    | nil => simp
    | cons e rest ih =>
      obtain ⟨i, s⟩ := e
      simp only [List.map_cons, List.nodup_cons, List.disjoint_cons_right] at h hnew
      have hrest : ((done ++ [(i, s)]).map Prod.fst).Disjoint (rest.map Prod.fst) := by
        simp only [List.map_append, List.map_cons, List.map_nil, List.disjoint_append_left, List.singleton_disjoint]
        exact ⟨hnew.2, h.1⟩
      rw [List.foldl_cons, put_of_notMem hnew.1, ih h.2 _ hrest, List.append_assoc]
      rfl
  exact written [] (by simp)

/-- A mapping with different keys gives captures with different numbers. -/
lemma isMapping_of_differentKeys {c : Captures} (h : DifferentKeys c.entries) : c.IsMapping := by
  rw [DifferentKeys, Captures.entries, List.map_map, List.pairwise_map] at h
  rw [Captures.IsMapping, List.Nodup, List.pairwise_map]
  refine h.imp fun hne heq => hne ?_
  simp [heq, Value.same, sameScalar]

/-- The captures of a mapping are its entries. -/
lemma describesCaptures_of_hasEntries {v : Value} {entries : List (Value × Value)} {c : Captures}
    (hentries : HasEntries v entries) (hkeys : DifferentKeys entries) :
    DescribesCaptures v c ↔ entries = c.entries := by
  constructor
  · rintro ⟨pairs, hpairs, rfl⟩
    cases hentries.unique hpairs
    rw [ofPairs_of_nodup (isMapping_of_differentKeys hkeys)]
  · rintro rfl
    exact ⟨c, hentries, (ofPairs_of_nodup (isMapping_of_differentKeys hkeys)).symm⟩

end Captures

/-- The record of a region shape stands for the shape that its entries describe. -/
lemma mapsBoundary_iff {v : Value} {path : Hint.Place} {b : Boundary} :
    (∃ x, (coerce Shape.boundary v path).result = .ok x ∧ Boundary.ofValue? x = some b) ↔
      MapsBoundary v b ∧ b.IsShort := by
  have declared (e : Value × Value) :
      (∃ n ∈ ["begin", "end", "begin_captures", "end_captures"].map Text.ofString, e.1 = .str n) ↔
        e.1 ∈ [Value.str "begin", .str "end", .str "begin_captures", .str "end_captures"] := by
    simp
  constructor
  · rintro ⟨x, hx, hb⟩
    obtain ⟨entries, values, hentries, hkeys, hfields, rfl⟩ := coerce_record_eq_ok.1 hx
    obtain ⟨_, _, _, hopening, ho, hfields₁, rfl⟩ := coerceFields_required.1 hfields
    obtain ⟨opening, rfl, rfl⟩ := coerce_str_eq_ok.1 ho
    obtain ⟨_, _, _, hclosing, hc, hfields₂, rfl⟩ := coerceFields_required.1 hfields₁
    obtain ⟨closing, rfl, rfl⟩ := coerce_str_eq_ok.1 hc
    obtain ⟨vc, xc, _, hcaptures, hxc, hfields₃, rfl⟩ := coerceFields_required.1 hfields₂
    obtain ⟨y, _, hy, hfields₄, rfl⟩ := coerceFields_defaulted.1 hfields₃
    cases hfields₄
    obtain ⟨pairs, hpairs, short, rfl⟩ := coerce_captures_eq_ok.1 hxc
    simp only [Boundary.ofValue?, mapM_entries, Option.bind_eq_bind, Option.bind_some, Option.bind_eq_some_iff,
      Option.pure_def, Option.some.injEq] at hb
    obtain ⟨c, hoptional, rfl⟩ := hb
    obtain ⟨optional, short_optional⟩ := describesOptional_iff.1 ⟨y, hy, hoptional⟩
    exact ⟨⟨entries, hentries, fun e he => (declared e).1 (hkeys e he), hopening, hclosing,
      ⟨vc, hcaptures, pairs, hpairs, rfl⟩, optional⟩, isShort_ofPairs.2 short, short_optional⟩
  · rintro ⟨⟨entries, hentries, hkeys, hopening, hclosing, ⟨vc, hcaptures, describes⟩, optional⟩, short⟩
    obtain ⟨es, hes, hc⟩ := (describesCaptures_iff _).2 ⟨describes, short.openingCaptures⟩
    obtain ⟨y, hy, hoptional⟩ := describesOptional_iff.2 ⟨optional, short.closingCaptures⟩
    refine ⟨_, coerce_record_eq_ok.2 ⟨entries, _, hentries, fun e he => (declared e).2 (hkeys e he),
      coerceFields_required.2 ⟨_, _, _, hopening, coerce_str_eq_ok.2 ⟨_, rfl, rfl⟩,
        coerceFields_required.2 ⟨_, _, _, hclosing, coerce_str_eq_ok.2 ⟨_, rfl, rfl⟩,
          coerceFields_required.2 ⟨_, _, _, hcaptures, hes,
            coerceFields_defaulted.2 ⟨y, _, hy, rfl, rfl⟩, rfl⟩, rfl⟩, rfl⟩, rfl⟩, ?_⟩
    simp only [Boundary.ofValue?, hc, hoptional, Option.bind_eq_bind, Option.bind_some, Option.pure_def]

/-- A text is accepted if it is one, and its default stands in for one that is absent. -/
lemma describesText_iff {found : Option Value} {path : Hint.Place} {default : Text} {y : Value} :
    (found = none ∧ y = .str default ∨ ∃ v, found = some v ∧ (coerce .str v path).result = .ok y) ↔
      ∃ s, y = .str s ∧ DescribesText default found s := by
  simp only [coerce_str_eq_ok]
  constructor
  · rintro (⟨rfl, rfl⟩ | ⟨_, rfl, s, rfl, rfl⟩)
    · exact ⟨_, rfl, .absent⟩
    · exact ⟨s, rfl, .given s⟩
  · rintro ⟨s, rfl, h⟩
    cases h with
    | absent => exact .inl ⟨rfl, rfl⟩
    | given => exact .inr ⟨_, rfl, s, rfl, rfl⟩

/-- The record of a host stands for the host that its entries describe, with the name that was put in front. -/
lemma describesHost_iff {name : Value} {entries : List (Value × Value)} {path : Hint.Place} {host : Host}
    (unnamed : field? "name" entries = none) :
    (∃ v, (Shape.host.build (.map ((.str "name", name) :: entries)) path).result = .ok v ∧
        Host.ofValue? v = some host) ↔
      name = .str host.name ∧ DescribesHost entries host ∧ host.IsShort := by
  have front : field? "name" ((.str "name", name) :: entries) = some name := by rw [field?_cons, if_pos rfl]
  have behind {key : Text} (h : Text.ofString "name" ≠ key) :
      field? key ((.str "name", name) :: entries) = field? key entries := by rw [field?_cons, if_neg h]
  have declared : (∀ e ∈ (.str "name", name) :: entries, ∃ n ∈ ["name", "target_scopes", "basic_grammar_pattern",
        "basic_grammar", "substitution_include", "string_scope"].map Text.ofString, e.1 = .str n) ↔
      ∀ e ∈ entries, e.1 ∈ [Value.str "target_scopes", .str "basic_grammar_pattern", .str "basic_grammar",
        .str "substitution_include", .str "string_scope"] := by
    have other (e) (he : e ∈ entries) : e.1 ≠ Value.str "name" := field?_eq_none.1 unnamed e he
    rw [List.forall_mem_cons]
    constructor
    · rintro ⟨-, hkeys⟩ e he
      simpa [other e he] using hkeys e he
    · intro hkeys
      exact ⟨by simp, fun e he => by simpa [other e he] using hkeys e he⟩
  constructor
  · rintro ⟨v, hv, hhost⟩
    obtain ⟨_, values, hentries, hkeys, hfields, rfl⟩ := build_record_eq_ok.1 hv
    cases hentries
    obtain ⟨_, _, _, hname, hn, hfields₁, rfl⟩ := coerceFields_required.1 hfields
    obtain ⟨s, rfl, rfl⟩ := coerce_str_eq_ok.1 hn
    obtain ⟨vs, _, _, hscopes, hs, hfields₂, rfl⟩ := coerceFields_required.1 hfields₁
    obtain ⟨scopes, hitems, rfl⟩ := coerce_texts_eq_ok.1 hs
    obtain ⟨vt, xt, _, htagged, hxt, hfields₃, rfl⟩ := coerceFields_required.1 hfields₂
    obtain ⟨vd, xd, _, hdispatch, hxd, hfields₄, rfl⟩ := coerceFields_required.1 hfields₃
    obtain ⟨_, _, hsubstitution, hfields₅, rfl⟩ := coerceFields_defaulted.1 hfields₄
    obtain ⟨substitution, rfl, substitution_text⟩ := describesText_iff.1 hsubstitution
    obtain ⟨_, _, hstring, hfields₆, rfl⟩ := coerceFields_defaulted.1 hfields₅
    obtain ⟨stringScope, rfl, string_text⟩ := describesText_iff.1 hstring
    cases hfields₆
    rw [front, Option.some.injEq] at hname
    rw [behind (by decide)] at hscopes htagged hdispatch substitution_text string_text
    simp only [Host.ofValue?, mapM_asText?, Option.bind_eq_bind, Option.bind_some, Option.bind_eq_some_iff,
      Option.pure_def, Option.some.injEq] at hhost
    obtain ⟨tagged, ht, dispatch, hd, rfl⟩ := hhost
    obtain ⟨tagged_shape, short_tagged⟩ := mapsBoundary_iff.1 ⟨xt, hxt, ht⟩
    obtain ⟨dispatch_shape, short_dispatch⟩ := mapsBoundary_iff.1 ⟨xd, hxd, hd⟩
    exact ⟨hname, ⟨declared.1 hkeys, ⟨vs, hscopes, hitems⟩, ⟨vt, htagged, tagged_shape⟩,
      ⟨vd, hdispatch, dispatch_shape⟩, substitution_text, string_text⟩, short_tagged, short_dispatch⟩
  · rintro ⟨rfl, ⟨hkeys, ⟨vs, hscopes, hitems⟩, ⟨vt, htagged, tagged⟩, ⟨vd, hdispatch, dispatch⟩, substitution,
      stringScope⟩, short⟩
    obtain ⟨xt, hxt, ht⟩ := mapsBoundary_iff.2 ⟨tagged, short.tagged⟩
    obtain ⟨xd, hxd, hd⟩ := mapsBoundary_iff.2 ⟨dispatch, short.dispatch⟩
    rw [← behind (by decide)] at hscopes htagged hdispatch substitution stringScope
    refine ⟨_, build_record_eq_ok.2 ⟨_, _, .map _, declared.2 hkeys,
      coerceFields_required.2 ⟨_, _, _, front, coerce_str_eq_ok.2 ⟨_, rfl, rfl⟩,
        coerceFields_required.2 ⟨_, _, _, hscopes, coerce_texts_eq_ok.2 ⟨_, hitems, rfl⟩,
          coerceFields_required.2 ⟨_, _, _, htagged, hxt,
            coerceFields_required.2 ⟨_, _, _, hdispatch, hxd,
              coerceFields_defaulted.2 ⟨_, _, describesText_iff.2 ⟨_, rfl, substitution⟩,
                coerceFields_defaulted.2 ⟨_, _, describesText_iff.2 ⟨_, rfl, stringScope⟩, rfl, rfl⟩, rfl⟩,
              rfl⟩, rfl⟩, rfl⟩, rfl⟩, rfl⟩, ?_⟩
    simp only [Host.ofValue?, mapM_asText?, ht, hd, Option.bind_eq_bind, Option.bind_some, Option.pure_def]

/-- The body of a host does not have its name. -/
lemma DescribesHost.unnamed {entries : List (Value × Value)} {host : Host} (h : DescribesHost entries host) :
    field? "name" entries = none := by
  refine field?_eq_none.2 fun e he hname => ?_
  have hkey := h.keys e he
  rw [hname] at hkey
  simp [Text.ofString, Text.ofChars] at hkey

section Build

variable {name body : Value} {entries : List (Value × Value)} {host : Host}

/-- A host whose body is a mapping is built from its name and the entries of the body. -/
lemma buildHost_of_hasEntries (h : HasEntries body entries) :
    buildHost name body = (do
      let step ← Outcome.ofOption .tooManyDigits name.text?
      let path : List Text := ["hosts", step]
      if (field? "name" entries).isSome then .fail (.inTable (path ++ [Text.ofString "name"]) .nameInBody)
      else
        let v ← Shape.host.build (.map ((.str "name", name) :: entries)) path
        Outcome.ofOption (.inTable path (.expectedRecord Shape.host.builtName v.kind)) (Host.ofValue? v)) := by
  cases h with
  | map => rfl
  | ordered => rfl

/-- A host is built from a mapping. -/
lemma hasEntries_of_buildHost (h : (buildHost name body).result = .ok host) : ∃ entries, HasEntries body entries := by
  obtain ⟨step, -, hbody⟩ := result_bind_eq_ok.1 h
  split at hbody
  · next entries => exact ⟨entries, .map _⟩
  · next entries => exact ⟨entries, .ordered _⟩
  · cases hbody

/-- A host is built from a body that does not name it. -/
lemma buildHost_eq_ok :
    (buildHost name body).result = .ok host ↔
      ∃ step entries, name.text? = some step ∧ HasEntries body entries ∧ field? "name" entries = none ∧
        ∃ v, (Shape.host.build (.map ((.str "name", name) :: entries)) [Text.ofString "hosts", step]).result = .ok v ∧
          Host.ofValue? v = some host := by
  constructor
  · intro h
    obtain ⟨entries, hentries⟩ := hasEntries_of_buildHost h
    rw [buildHost_of_hasEntries hentries, result_bind_eq_ok] at h
    obtain ⟨step, hstep, hbody⟩ := h
    cases unnamed : field? "name" entries with
    | some v => simp [unnamed] at hbody
    | none =>
      rw [unnamed, Option.isSome_none, if_neg Bool.false_ne_true, result_bind_eq_ok] at hbody
      simp only [result_ofOption_eq_ok] at hstep hbody
      exact ⟨step, entries, hstep, hentries, unnamed, hbody⟩
  · rintro ⟨step, entries, hstep, hentries, unnamed, v, hv, hhost⟩
    rw [buildHost_of_hasEntries hentries, result_bind_eq_ok]
    refine ⟨step, result_ofOption_eq_ok.2 hstep, ?_⟩
    rw [unnamed, Option.isSome_none, if_neg Bool.false_ne_true, result_bind_eq_ok]
    exact ⟨v, hv, result_ofOption_eq_ok.2 hhost⟩

/-- An entry is built into the host that it describes, if the group numbers of that host can be displayed. -/
lemma entryDescribes_iff :
    (buildHost name body).result = .ok host ↔ EntryDescribes (name, body) host ∧ host.IsShort := by
  rw [buildHost_eq_ok]
  constructor
  · rintro ⟨step, entries, -, hentries, unnamed, built⟩
    obtain ⟨hname, hhost, short⟩ := (describesHost_iff unnamed).1 built
    exact ⟨⟨hname, entries, hentries, hhost⟩, short⟩
  · rintro ⟨⟨rfl, entries, hentries, hhost⟩, short⟩
    refine ⟨host.name, entries, rfl, hentries, hhost.unnamed, ?_⟩
    exact (describesHost_iff hhost.unnamed).2 ⟨rfl, hhost, short⟩

/-- Hosts are built if their entries describe them and all numbers can be displayed. -/
lemma buildHosts_eq_ok {hosts : List Host} :
    (buildHosts entries).result = .ok hosts ↔
      List.Forall₂ EntryDescribes entries hosts ∧ ∀ host ∈ hosts, host.IsShort := by
  induction entries generalizing hosts with
  | nil => simp +contextual [buildHosts, eq_comm]
  | cons e rest ih =>
    obtain ⟨name, body⟩ := e
    simp only [buildHosts, result_bind_eq_ok, entryDescribes_iff, ih, result_pure, Except.ok.injEq]
    constructor
    · rintro ⟨host, ⟨hhost, short⟩, others, ⟨hothers, short_others⟩, rfl⟩
      exact ⟨.cons hhost hothers, List.forall_mem_cons.2 ⟨short, short_others⟩⟩
    · rintro ⟨h, short⟩
      cases h with
      | cons hhost hothers =>
        obtain ⟨short_host, short_others⟩ := List.forall_mem_cons.1 short
        exact ⟨_, ⟨hhost, short_host⟩, _, ⟨hothers, short_others⟩, rfl⟩

/-- An entry that is no host is a problem of the table if its key has a text. -/
lemma exists_problem_of_buildHost {f : Fault} {step : Text} (hstep : name.text? = some step)
    (h : (buildHost name body).result = .error f) : ∃ e, f = .table e := by
  have refused {entries : List (Value × Value)} (hentries : HasEntries body entries) : ∃ e, f = .table e := by
    rw [buildHost_of_hasEntries hentries, hstep] at h
    rcases result_bind_eq_error.1 h with hkey | ⟨_, -, hbody⟩
    · cases hkey
    split at hbody
    · cases hbody
      exact ⟨_, rfl⟩
    rcases result_bind_eq_error.1 hbody with hbuilt | ⟨v, -, hrecord⟩
    · exact build_eq_error hbuilt
    cases hhost : Host.ofValue? v with
    | none =>
      rw [hhost] at hrecord
      cases hrecord
      exact ⟨_, rfl⟩
    | some host =>
      rw [hhost] at hrecord
      cases hrecord
  cases body with
  | map entries => exact refused (.map _)
  | ordered entries => exact refused (.ordered _)
  | _ =>
    rw [buildHost, hstep] at h
    cases h
    exact ⟨_, rfl⟩

/-- An entry that is no host is a problem of the table, if its key can be displayed. -/
lemma buildHost_fault {f : Fault} (h : (buildHost name body).result = .error f) :
    f.FromTable (∀ n ∈ name.integers, IsShort n) := by
  cases hstep : name.text? with
  | none =>
    have failed : (buildHost name body).result = .error .tooManyDigits := by
      rw [buildHost, hstep]
      rfl
    cases h.symm.trans failed
    refine .digits fun short => ?_
    have shown := isSome_text? short
    rw [hstep] at shown
    cases shown
  | some step =>
    obtain ⟨e, rfl⟩ := exists_problem_of_buildHost hstep h
    exact .problem e

/-- Hosts are refused for a problem of the table, or because a number cannot be displayed. -/
lemma buildHosts_fault {f : Fault} (h : (buildHosts entries).result = .error f) :
    f.FromTable (∀ n ∈ entryIntegers entries, IsShort n) := by
  induction entries with
  | nil => cases h
  | cons e rest ih =>
    obtain ⟨name, body⟩ := e
    rcases result_bind_eq_error.1 h with hfirst | ⟨host, -, hrest⟩
    · refine (buildHost_fault hfirst).mono fun short => ?_
      exact (List.forall_mem_append.1 short).1
    · rcases result_bind_eq_error.1 hrest with hothers | ⟨hosts, -, hpure⟩
      · refine (ih hothers).mono fun short => ?_
        exact (List.forall_mem_append.1 (List.forall_mem_append.1 short).2).2
      · cases hpure

end Build

section Short

/-- The integers of a field are among those of its mapping. -/
lemma isShort_of_field? {name : Text} {v : Value} {entries : List (Value × Value)}
    (short : ∀ n ∈ entryIntegers entries, IsShort n) (h : field? name entries = some v) :
    ∀ n ∈ v.integers, IsShort n :=
  of_lookup (P := fun w => ∀ n ∈ w.integers, IsShort n)
    (fun e he => (forall_mem_entryIntegers.1 short e he).2) h

/-- The integers of the entries are those of the value. -/
lemma isShort_of_hasEntries {v : Value} {entries : List (Value × Value)} (short : ∀ n ∈ v.integers, IsShort n)
    (h : HasEntries v entries) : ∀ n ∈ entryIntegers entries, IsShort n := by
  cases h with
  | map => exact short
  | ordered => exact short

/-- Captures are short if the value that describes them has short integers only. -/
lemma DescribesCaptures.isShort {v : Value} {c : Captures} (h : DescribesCaptures v c)
    (short : ∀ n ∈ v.integers, IsShort n) : c.IsShort := by
  obtain ⟨pairs, hentries, rfl⟩ := h
  refine isShort_ofPairs.2 fun e he => ?_
  have hmem : (Value.int e.1, Value.str e.2) ∈ pairs.entries := List.mem_map.2 ⟨e, he, rfl⟩
  exact (forall_mem_entryIntegers.1 (isShort_of_hasEntries short hentries) _ hmem).1 e.1 (by simp [integers])

/-- So are the captures of a region shape. -/
lemma MapsBoundary.isShort {v : Value} {b : Boundary} (h : MapsBoundary v b) (short : ∀ n ∈ v.integers, IsShort n) :
    b.IsShort := by
  obtain ⟨entries, hentries, shape⟩ := h
  have shorts := isShort_of_hasEntries short hentries
  obtain ⟨vc, hcaptures, describes⟩ := shape.openingCaptures
  refine ⟨describes.isShort (isShort_of_field? shorts hcaptures), fun c hc => ?_⟩
  have optional := shape.closingCaptures
  rw [Option.mem_def.1 hc] at optional
  generalize hfound : field? "end_captures" entries = found at optional
  cases optional with
  | given described => exact described.isShort (isShort_of_field? shorts hfound)

/-- So are the captures of a host. -/
lemma EntryDescribes.isShort {e : Value × Value} {host : Host} (h : EntryDescribes e host)
    (short : ∀ n ∈ e.2.integers, IsShort n) : host.IsShort := by
  obtain ⟨-, entries, hentries, described⟩ := h
  have shorts := isShort_of_hasEntries short hentries
  obtain ⟨vt, htagged, tagged⟩ := described.tagged
  obtain ⟨vd, hdispatch, dispatch⟩ := described.dispatch
  exact ⟨tagged.isShort (isShort_of_field? shorts htagged), dispatch.isShort (isShort_of_field? shorts hdispatch)⟩

/-- The hosts of a table without long numbers have none. -/
lemma IsHostTable.isShort {raw : List (Value × Value)} {hosts : List Host} (h : IsHostTable raw hosts)
    (short : ∀ n ∈ entryIntegers raw, IsShort n) : ∀ host ∈ hosts, host.IsShort := by
  obtain ⟨v, entries, hfound, hentries, described⟩ := h.entries
  have shorts := isShort_of_hasEntries (isShort_of_field? short hfound) hentries
  rw [forall_mem_entryIntegers] at shorts
  clear hentries h
  induction described with
  | nil => exact nofun
  | cons first _ ih =>
    obtain ⟨short_first, short_rest⟩ := List.forall_mem_cons.1 shorts
    exact List.forall_mem_cons.2 ⟨first.isShort short_first.2, ih short_rest⟩

end Short

section Parse

variable {raw : List (Value × Value)} {hosts : List Host}

/-- A mapping with a mapping of hosts is parsed by building and checking these. -/
lemma parseHosts_of_hasEntries {v : Value} {entries : List (Value × Value)} (hfound : field? "hosts" raw = some v)
    (hentries : HasEntries v entries) :
    parseHosts raw = (do
      Hint.checkKeys ["hosts"] raw []
      let hosts ← buildHosts entries
      checked (checkHosts hosts)
      return hosts) := by
  cases hentries with
  | map => simp only [parseHosts, hfound]
  | ordered => simp only [parseHosts, hfound]

/-- Hosts are parsed from a mapping. -/
lemma hasEntries_of_parseHosts (h : (parseHosts raw).result = .ok hosts) :
    ∃ v entries, field? "hosts" raw = some v ∧ HasEntries v entries := by
  unfold parseHosts at h
  split at h
  · next entries hfound => exact ⟨_, entries, hfound, .map _⟩
  · next entries hfound => exact ⟨_, entries, hfound, .ordered _⟩
  · cases h

/-- Hosts are parsed from a mapping of hosts under the one key. -/
lemma parseHosts_eq_ok :
    (parseHosts raw).result = .ok hosts ↔
      (checkKeys [Text.ofString "hosts"] raw []).result = .ok () ∧
        (∃ v entries, field? "hosts" raw = some v ∧ HasEntries v entries ∧ (buildHosts entries).result = .ok hosts) ∧
        checkHosts hosts = .ok () := by
  constructor
  · intro h
    obtain ⟨v, entries, hfound, hentries⟩ := hasEntries_of_parseHosts h
    simp only [parseHosts_of_hasEntries hfound hentries, result_bind_eq_ok, result_pure, Except.ok.injEq] at h
    obtain ⟨_, hkeys, _, hbuilt, _, hchecked, rfl⟩ := h
    exact ⟨hkeys, ⟨v, entries, hfound, hentries, hbuilt⟩, checked_eq_ok.1 hchecked⟩
  · rintro ⟨hkeys, ⟨v, entries, hfound, hentries, hbuilt⟩, hchecked⟩
    simp only [parseHosts_of_hasEntries hfound hentries, result_bind_eq_ok]
    exact ⟨(), hkeys, hosts, hbuilt, (), checked_eq_ok.2 hchecked, rfl⟩

/-- The parser accepts the host tables in which all group numbers can be displayed. -/
lemma parseHosts_eq_ok_iff :
    (parseHosts raw).result = .ok hosts ↔ IsHostTable raw hosts ∧ ∀ host ∈ hosts, host.IsShort := by
  rw [parseHosts_eq_ok, checkKeys_eq_ok, checkHosts_eq_ok]
  constructor
  · rintro ⟨hkeys, ⟨v, entries, hfound, hentries, hbuilt⟩, nonempty, each⟩
    obtain ⟨described, short⟩ := buildHosts_eq_ok.1 hbuilt
    exact ⟨⟨by simpa using hkeys, ⟨v, entries, hfound, hentries, described⟩, nonempty,
      fun host hhost => checkHost_eq_ok.1 (each host hhost)⟩, short⟩
  · rintro ⟨⟨only, ⟨v, entries, hfound, hentries, described⟩, nonempty, wellFormed⟩, short⟩
    exact ⟨by simpa using only, ⟨v, entries, hfound, hentries, buildHosts_eq_ok.2 ⟨described, short⟩⟩, nonempty,
      fun host hhost => checkHost_eq_ok.2 (wellFormed host hhost)⟩

/-- The parser accepts the host tables, if all whole numbers in the mapping can be displayed. -/
lemma isHostTable_iff (short : ∀ n ∈ entryIntegers raw, IsShort n) :
    (parseHosts raw).result = .ok hosts ↔ IsHostTable raw hosts := by
  rw [parseHosts_eq_ok_iff]
  exact ⟨And.left, fun table => ⟨table, table.isShort short⟩⟩

/-- A host table is refused for a problem of its own, or because a number cannot be displayed. -/
lemma parseHosts_fault {f : Fault} (h : (parseHosts raw).result = .error f) :
    f.FromTable (∀ n ∈ entryIntegers raw, IsShort n) := by
  have refused {v : Value} {entries : List (Value × Value)} (hfound : field? "hosts" raw = some v)
      (hentries : HasEntries v entries) : f.FromTable (∀ n ∈ entryIntegers raw, IsShort n) := by
    rw [parseHosts_of_hasEntries hfound hentries] at h
    rcases result_bind_eq_error.1 h with hkeys | ⟨_, -, h₁⟩
    · refine (checkKeys_fault hkeys).mono fun short e he => ?_
      exact (forall_mem_entryIntegers.1 short e he).1
    rcases result_bind_eq_error.1 h₁ with hbuilt | ⟨hosts, -, h₂⟩
    · refine (buildHosts_fault hbuilt).mono fun short => ?_
      exact isShort_of_hasEntries (isShort_of_field? short hfound) hentries
    rcases result_bind_eq_error.1 h₂ with hchecked | ⟨_, -, h₃⟩
    · obtain ⟨e, -, rfl⟩ := checked_eq_error.1 hchecked
      exact .problem e
    · cases h₃
  cases hfound : field? "hosts" raw with
  | none =>
    simp only [parseHosts, hfound] at h
    cases h
    exact .problem _
  | some v =>
    cases v with
    | map entries => exact refused hfound (.map _)
    | ordered entries => exact refused hfound (.ordered _)
    | _ =>
      simp only [parseHosts, hfound] at h
      cases h
      exact .problem _

/-- The parser stops with a problem of the table only. -/
lemma parseHosts_eq_error {f : Fault} (short : ∀ n ∈ entryIntegers raw, IsShort n)
    (h : (parseHosts raw).result = .error f) : ∃ e, f = .table e :=
  (parseHosts_fault h).table short

end Parse

/-- A mapping is parsed into hosts if and only if it is a host table that describes them, and every other mapping is
refused as a problem of the table, as long as the whole numbers in it can be displayed. Captures are described by
the entries of a mapping whose keys differ. -/
theorem parseHosts_accepts_host_tables (raw : List (Value × Value)) (short : ∀ n ∈ entryIntegers raw, IsShort n) :
    (∀ hosts, (parseHosts raw).result = .ok hosts ↔ IsHostTable raw hosts) ∧
      ((∀ hosts, ¬IsHostTable raw hosts) → ∃ e, (parseHosts raw).result = .error (.table e)) ∧
      ∀ (v : Value) (entries : List (Value × Value)) (c : Captures), HasEntries v entries → DifferentKeys entries →
        (DescribesCaptures v c ↔ entries = c.entries) := by
  refine ⟨fun hosts => isHostTable_iff short, fun none => ?_, fun v entries c => describesCaptures_of_hasEntries⟩
  cases hresult : (parseHosts raw).result with
  | ok hosts => exact absurd ((isHostTable_iff short).1 hresult) (none hosts)
  | error f =>
    obtain ⟨e, rfl⟩ := parseHosts_eq_error short hresult
    exact ⟨e, rfl⟩

section Sample

/-- The entries of a region shape as they are written, with a group number to be chosen. -/
def shapeEntries (group : Value) : List (Value × Value) :=
  [(.str "begin_captures", .ordered [(.int 2, .str "t"), (group, .str "s")]), (.str "end_captures", .null),
    (.str "end", .str "e"), (.str "begin", .str "x\x7baliases\x7d")]

/-- The entries of a host as they are written, out of order. -/
def sampleBody (group : Value) : List (Value × Value) :=
  [(.str "basic_grammar", .map (shapeEntries group)), (.str "string_scope", .str "q"),
    (.str "basic_grammar_pattern", .map (shapeEntries (.int 0))), (.str "target_scopes", .tuple [.str "t"])]

/-- A host table as it is written. -/
def sampleHosts (group : Value) : List (Value × Value) :=
  [(.str "hosts", .map [(.str "h", .ordered (sampleBody group))])]

/-- The region shape of the sample. -/
def sampleShape (group : Int) : Boundary :=
  { opening := "x\x7baliases\x7d", closing := "e", openingCaptures := [(2, "t"), (group, "s")] }

/-- The host of the sample; its rule for substitutions is the default. -/
def sampleHost : Host :=
  { name := "h", targetScopes := [Text.ofString "t"], tagged := sampleShape 0, dispatch := sampleShape (-1)
    stringScope := "q" }

/-- The region shape of the sample. -/
lemma mapsBoundary_sample (group : Int) (hgroup : group ≠ 2) :
    MapsBoundary (.map (shapeEntries (.int group))) (sampleShape group) := by
  have captures : DescribesCaptures (.ordered [(.int 2, .str "t"), (.int group, .str "s")])
      [(2, Text.ofString "t"), (group, Text.ofString "s")] :=
    ⟨_, .ordered _, (ofPairs_of_nodup (by simpa using hgroup.symm)).symm⟩
  have null : field? "end_captures" (shapeEntries (.int group)) = some .null := by
    simp [shapeEntries, field?_cons, Text.ofString, Text.ofChars]
  refine ⟨_, .map _, by simp [shapeEntries], ?_, ?_, ⟨_, field?_cons, captures⟩, null ▸ .null⟩
  · simp [shapeEntries, field?_cons, sampleShape, Text.ofString, Text.ofChars]
  · simp [shapeEntries, field?_cons, sampleShape, Text.ofString, Text.ofChars]

/-- The host of the sample. -/
lemma describesHost_sample : DescribesHost (sampleBody (.int (-1))) sampleHost := by
  have given : field? "string_scope" (sampleBody (.int (-1))) = some (.str "q") := by
    simp [sampleBody, field?_cons, Text.ofString, Text.ofChars]
  have absent : field? "substitution_include" (sampleBody (.int (-1))) = none :=
    field?_eq_none.2 (by simp [sampleBody, Text.ofString, Text.ofChars])
  refine ⟨by simp [sampleBody], ⟨_, ?_, .tuple [.str "t"]⟩, ⟨_, ?_, mapsBoundary_sample 0 (by decide)⟩,
    ⟨_, ?_, mapsBoundary_sample (-1) (by decide)⟩, absent ▸ .absent, given ▸ .given _⟩
  · simp [sampleBody, field?_cons, Text.ofString, Text.ofChars]
  · simp [sampleBody, field?_cons, Text.ofString, Text.ofChars]
  · simp [sampleBody, field?_cons]

/-- The sample is a host table. -/
lemma isHostTable_sample : IsHostTable (sampleHosts (.int (-1))) [sampleHost] where
  keys := by simp [sampleHosts]
  entries := ⟨_, _, field?_cons, .map _, .cons ⟨rfl, _, .ordered _, describesHost_sample⟩ .nil⟩
  nonempty := by simp
  wellFormed := by
    have shape (group : Int) : (sampleShape group).WellFormed :=
      ⟨⟨[.char 'x'], [], rfl⟩, by simp [sampleShape, Text.ofString, Text.ofChars]⟩
    exact List.forall_mem_singleton.2 ⟨by decide, by decide, by decide, by decide, by decide, shape 0, shape (-1)⟩

/-- A number of one digit can be displayed. -/
lemma isShort_of_lt_ten {n : Int} (h : n.natAbs < 10) : IsShort n :=
  Nat.lt_of_lt_of_le h (Nat.le_self_pow (by decide) 10)

/-- All numbers of the sample have one digit. -/
lemma isShort_sample {group : Value} (h : ∀ n ∈ group.integers, n.natAbs < 10) :
    ∀ n ∈ entryIntegers (sampleHosts group), IsShort n := by
  intro n hn
  simp only [sampleHosts, sampleBody, shapeEntries, entryIntegers, itemIntegers, integers, List.append_nil,
    List.nil_append, List.mem_append, List.mem_cons, List.not_mem_nil, or_false] at hn
  apply isShort_of_lt_ten
  rcases hn with (rfl | hn) | rfl | rfl
  · decide
  · exact h n hn
  · decide
  · decide

/-- A truth value is no group number. -/
lemma not_mapsBoundary_sample (b : Boundary) : ¬MapsBoundary (.map (shapeEntries (.bool true))) b := by
  rintro ⟨entries, hentries, shape⟩
  cases hentries
  obtain ⟨v, hv, pairs, hpairs, -⟩ := shape.openingCaptures
  rw [shapeEntries, field?_cons, if_pos rfl] at hv
  cases hv
  have hmem : (Value.bool true, Value.str "s") ∈ pairs.entries := by
    rw [hpairs.unique (.ordered _)]
    simp
  obtain ⟨e, -, he⟩ := List.mem_map.1 hmem
  cases he

/-- So the sample with a truth value for a number is no host table. -/
lemma not_isHostTable_sample (hosts : List Host) : ¬IsHostTable (sampleHosts (.bool true)) hosts := by
  rintro ⟨-, ⟨v, entries, hfound, hentries, described⟩, -, -⟩
  rw [sampleHosts, field?_cons, if_pos rfl] at hfound
  cases hfound
  cases hentries
  cases described with
  | cons first _ =>
    obtain ⟨-, body, hbody, host⟩ := first
    cases hbody
    obtain ⟨v, hv, boundary⟩ := host.dispatch
    rw [sampleBody, field?_cons, if_pos rfl] at hv
    cases hv
    exact not_mapsBoundary_sample _ boundary

/-- A table is parsed, and the same table with a truth value as a group number is refused. -/
theorem parseHosts_tells_a_truth_value :
    (parseHosts (sampleHosts (.int (-1)))).result = .ok [sampleHost] ∧
      ∃ e, (parseHosts (sampleHosts (.bool true))).result = .error (.table e) :=
  ⟨((parseHosts_accepts_host_tables _ (isShort_sample (by simp [integers]))).1 _).2 isHostTable_sample,
    (parseHosts_accepts_host_tables _ (isShort_sample (by simp [integers]))).2.1 not_isHostTable_sample⟩

end Sample

end Table

end TaggedGrammar
