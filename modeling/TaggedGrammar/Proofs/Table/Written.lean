import TaggedGrammar.Proofs.Output.Documents
import TaggedGrammar.Proofs.Table.Hosts
import TaggedGrammar.Table.Raw

/-!
# Tables that are given and tables that are written

A table can be given as data, or written down as a mapping. What is written for a table is parsed into that table,
so the shapes of tables ask for nothing that the checks do not ask for, and a table that is not well formed is refused
for the same problem at the same place on both ways. Only a group number that is too long to be displayed makes a
difference. What is written for it is refused as a problem of the table. Where it is given, the checks pass, and no
document can be built.
-/

namespace TaggedGrammar

/-- A region shape whose captures are mappings. -/
structure Boundary.HasMappings (b : Boundary) : Prop where
  openingCaptures : b.openingCaptures.IsMapping
  closingCaptures : ∀ c ∈ b.closingCaptures, Captures.IsMapping c

/-- A host whose captures are mappings. -/
structure Host.HasMappings (host : Host) : Prop where
  tagged : host.tagged.HasMappings
  dispatch : host.dispatch.HasMappings

/-- A region shape as it is written if captures that are absent are null. -/
def Boundary.rawWithNull (b : Boundary) : Value :=
  match b.closingCaptures with
  | none => .ofFields [("begin", .str b.opening), ("end", .str b.closing), ("begin_captures", b.openingCaptures.raw),
      ("end_captures", .null)]
  | some _ => b.raw

/-- A host as it is written, with a way to write its region shapes. -/
def Host.rawBy (write : Boundary → Value) (host : Host) : Value :=
  .ofFields [("target_scopes", .ofTexts host.targetScopes), ("basic_grammar_pattern", write host.tagged),
    ("basic_grammar", write host.dispatch), ("substitution_include", .str host.substitution),
    ("string_scope", .str host.stringScope)]

namespace Table

open Outcome Hint Value

/-- A mapping that an author may write for languages. -/
def WritesLanguages (raw : List (Value × Value)) (languages : List Language) : Prop :=
  ∃ items, raw = [(.str "languages", .list items)] ∧ List.Forall₂ ItemDescribes items languages

/-- A mapping that an author may write for hosts. No two of its keys are the same. -/
def WritesHosts (raw : List (Value × Value)) (hosts : List Host) : Prop :=
  ∃ v entries, raw = [(.str "hosts", v)] ∧ HasEntries v entries ∧ DifferentKeys entries ∧
    List.Forall₂ EntryDescribes entries hosts

/-- Parsing gives what a check says: the table if it passes, and otherwise the problem that the check reports. -/
structure ParsesAs {α : Type} (parsed : Outcome α) (verdict : Except TableError Unit) (table : α) : Prop where
  passes : verdict = .ok () → parsed.result = .ok table
  refuses : ∀ e, verdict = .error e → parsed.result = .error (.table e)

section Raw

/-- What is written for a language describes it. -/
lemma itemDescribes_raw (l : Language) : ItemDescribes l.raw l := by
  refine ⟨_, .map _, by simp, ?_, ⟨_, ?_, .list _⟩, ⟨l.source.raw, ?_, ?_⟩⟩
  · simp [field?_cons]
  · simp [field?_cons, Text.ofString, Text.ofChars, Value.ofTexts]
  · simp [field?_cons, Text.ofString, Text.ofChars]
  · cases l.source with
    | one scope => exact .one scope
    | many scopes => exact .many (.list _)

/-- What is written for captures describes them. -/
lemma describesCaptures_raw {c : Captures} (h : c.IsMapping) : DescribesCaptures c.raw c :=
  ⟨c, .map _, (ofPairs_of_nodup h).symm⟩

/-- A region shape is written with its required fields in front and what there is of its last captures behind. -/
lemma describesBoundary_fields {b : Boundary} {last : List (Value × Value)} (h : b.openingCaptures.IsMapping)
    (only : ∀ e ∈ last, e.1 = .str "end_captures")
    (optional : DescribesOptional (field? "end_captures" last) b.closingCaptures) :
    DescribesBoundary ((.str "begin", .str b.opening) :: (.str "end", .str b.closing) ::
      (.str "begin_captures", b.openingCaptures.raw) :: last) b where
  keys := by
    simp only [List.forall_mem_cons]
    exact ⟨by simp, by simp, by simp, fun e he => by simp [only e he]⟩
  opening := by simp [field?_cons]
  closing := by simp [field?_cons, Text.ofString, Text.ofChars]
  openingCaptures := ⟨_, by simp [field?_cons, Text.ofString, Text.ofChars], describesCaptures_raw h⟩
  closingCaptures := by simpa [field?_cons, Text.ofString, Text.ofChars] using optional

/-- What is written for a region shape describes it if absent captures are left out. -/
lemma mapsBoundary_raw {b : Boundary} (h : b.HasMappings) : MapsBoundary b.raw b := by
  obtain ⟨opening, closing, openingCaptures, closingCaptures⟩ := b
  cases closingCaptures with
  | none => exact ⟨_, .map _, describesBoundary_fields h.openingCaptures nofun .absent⟩
  | some c =>
    have found : field? "end_captures" [(.str "end_captures", c.raw)] = some c.raw := by rw [field?_cons, if_pos rfl]
    have given := DescribesOptional.given (describesCaptures_raw (h.closingCaptures c rfl))
    exact ⟨_, .map _, describesBoundary_fields h.openingCaptures (by simp) (found ▸ given)⟩

/-- So it does with null in their place. -/
lemma mapsBoundary_rawWithNull {b : Boundary} (h : b.HasMappings) : MapsBoundary b.rawWithNull b := by
  obtain ⟨opening, closing, openingCaptures, closingCaptures⟩ := b
  cases closingCaptures with
  | none =>
    have found : field? "end_captures" [(.str "end_captures", .null)] = some .null := by rw [field?_cons, if_pos rfl]
    exact ⟨_, .map _, describesBoundary_fields h.openingCaptures (by simp) (found ▸ .null)⟩
  | some c => exact mapsBoundary_raw h

/-- What is written for a host describes it, whichever way its shapes are written. -/
lemma entryDescribes_rawBy {write : Boundary → Value} {host : Host} (h : host.HasMappings)
    (hwrite : ∀ b : Boundary, b.HasMappings → MapsBoundary (write b) b) :
    EntryDescribes (.str host.name, host.rawBy write) host := by
  have given (default s : Text) : DescribesText default (some (.str s)) s := .given s
  refine ⟨rfl, _, .map _, by simp, ⟨_, ?_, .list _⟩, ⟨_, ?_, hwrite _ h.tagged⟩, ⟨_, ?_, hwrite _ h.dispatch⟩, ?_, ?_⟩
  · simp [field?_cons, Value.ofTexts]
  · simp [field?_cons, Text.ofString, Text.ofChars]
  · simp [field?_cons, Text.ofString, Text.ofChars]
  · simpa [field?_cons, Text.ofString, Text.ofChars] using given _ _
  · simpa [field?_cons, Text.ofString, Text.ofChars] using given _ _

/-- What is written for languages is one way to write them. -/
lemma writesLanguages_raw (languages : List Language) : WritesLanguages (rawLanguages languages) languages := by
  refine ⟨_, rfl, List.forall₂_map_left_iff.2 ?_⟩
  exact List.forall₂_same.2 fun l _ => itemDescribes_raw l

/-- Hosts with different names are written as one mapping, in whatever way their region shapes are written. -/
lemma writesHosts_rawBy {write : Boundary → Value} {hosts : List Host} (different : (hosts.map Host.name).Nodup)
    (h : ∀ host ∈ hosts, host.HasMappings) (hwrite : ∀ b : Boundary, b.HasMappings → MapsBoundary (write b) b) :
    WritesHosts [(.str "hosts", .map (hosts.map fun host => (.str host.name, host.rawBy write)))] hosts := by
  refine ⟨_, _, rfl, .map _, ?_, List.forall₂_map_left_iff.2 ?_⟩
  · rw [DifferentKeys, List.map_map, List.pairwise_map]
    refine (List.pairwise_map.1 different).imp fun hne heq => hne ?_
    simpa using heq
  · exact List.forall₂_same.2 fun host hhost => entryDescribes_rawBy (h host hhost) hwrite

end Raw

section Long

variable {v : Value} {path : Hint.Place} {entries : List (Value × Value)} {f : Fault}

/-- A field that is refused ends the record. -/
lemma coerceFields_of_error {name : String} {hint : Hint} {default : Option Value} {rest : List (Field Hint)}
    (found : field? name entries = some v)
    (refused : (coerce hint v (path ++ [Text.ofString name])).result = .error f) :
    (coerceFields (⟨name, hint, default, true⟩ :: rest) entries path).result = .error f := by
  simp only [coerceFields, found]
  exact result_bind_eq_error.2 (.inl refused)

/-- Behind a field that is accepted the record goes on with the others. -/
lemma coerceFields_of_ok {name : String} {hint : Hint} {default : Option Value} {rest : List (Field Hint)} {x : Value}
    (found : field? name entries = some v) (accepted : (coerce hint v (path ++ [Text.ofString name])).result = .ok x)
    (refused : (coerceFields rest entries path).result = .error f) :
    (coerceFields (⟨name, hint, default, true⟩ :: rest) entries path).result = .error f := by
  simp only [coerceFields, found]
  rw [result_bind_of_ok accepted, result_bind_of_ok (result_ok _)]
  exact result_bind_eq_error.2 (.inl refused)

/-- A record without undeclared keys fails as its fields do. -/
lemma coerce_record_of_error {name : String} {home : Option String} {fields : List (Field Hint)}
    {refusal : Option Text} (hentries : HasEntries v entries)
    (hkeys : ∀ e ∈ entries, ∃ n ∈ fields.map (fun f => Text.ofString f.name), e.1 = .str n)
    (refused : (coerceFields fields entries path).result = .error f) :
    (coerce (.record name home fields refusal) v path).result = .error f := by
  have keys : (checkKeys (fields.map fun f => Text.ofString f.name) entries path).result = .ok () :=
    checkKeys_eq_ok.2 hkeys
  cases hentries with
  | map =>
    rw [coerce, result_bind_of_ok keys]
    exact result_bind_eq_error.2 (.inl refused)
  | ordered =>
    rw [coerce, result_bind_of_ok keys]
    exact result_bind_eq_error.2 (.inl refused)

/-- Captures are read up to the first number that is too long to be a step of a path. -/
lemma eachEntry_of_not_isShort {pairs : Captures} {done : List (Value × Value)} (long : ¬pairs.IsShort) :
    (eachEntry (fun k p => coerce (.scalar .int) k p) (fun y p => coerce .str y p) path done pairs.entries).result =
      .error .tooManyDigits := by
  induction pairs generalizing done with
  | nil => exact absurd (List.forall_mem_nil _) long
  | cons e rest ih =>
    obtain ⟨n, scope⟩ := e
    have key : (coerce (.scalar .int) (.int n) (path ++ [Text.ofString "<key>"])).result = .ok (.int n) := rfl
    show (eachEntry _ _ path done ((.int n, .str scope) :: Captures.entries rest)).result = _
    rw [eachEntry, result_bind_of_ok key]
    cases hstep : (Value.int n).text? with
    | none => rfl
    | some step =>
      have short : IsShort n := isSome_text?_int.1 (Option.isSome_iff_exists.2 ⟨step, hstep⟩)
      have others : ¬Captures.IsShort rest := fun h => long (List.forall_mem_cons.2 ⟨short, h⟩)
      rw [result_bind_of_ok (result_ofOption_some _ step), result_bind_of_ok (coerce_str_eq_ok.2 ⟨scope, rfl, rfl⟩)]
      exact ih others

/-- Captures with a number that is too long are not accepted. -/
lemma coerce_captures_of_not_isShort {c : Captures} (h : DescribesCaptures v c) (long : ¬c.IsShort) :
    (coerce Shape.captures v path).result = .error .tooManyDigits := by
  obtain ⟨pairs, hentries, rfl⟩ := h
  have failed := @eachEntry_of_not_isShort path pairs [] (mt isShort_ofPairs.2 long)
  generalize pairs.entries = es at hentries failed
  cases hentries with
  | map => exact result_bind_eq_error.2 (.inl failed)
  | ordered => exact result_bind_eq_error.2 (.inl failed)

/-- A fault that is none of the table is not held back by a choice. -/
lemma coerce_optional_of_tooManyDigits (refused : (coerce Shape.captures v path).result = .error .tooManyDigits) :
    (coerce (.optional Shape.captures) v path).result = .error .tooManyDigits := by
  have members : optional Shape.captures = .union false [Shape.captures, .instanceOf .null] := rfl
  have first : (coerceFirst [Shape.captures, .instanceOf .null] v path []).result = .error .tooManyDigits := by
    simp only [coerceFirst, show isNull Shape.captures = false from rfl, Bool.false_eq_true, if_false, refused]
  rw [members]
  cases v with
  | null => cases refused
  | _ => exact first

/-- Neither is a region shape with such captures. -/
lemma coerce_boundary_of_not_isShort {b : Boundary} (h : MapsBoundary v b) (long : ¬b.IsShort) :
    (coerce Shape.boundary v path).result = .error .tooManyDigits := by
  obtain ⟨entries, hentries, shape⟩ := h
  obtain ⟨vc, found, describes⟩ := shape.openingCaptures
  refine coerce_record_of_error hentries
    (fun e he => by simpa [Shape.required, Shape.defaulted] using shape.keys e he) ?_
  refine coerceFields_of_ok shape.opening (coerce_str_eq_ok.2 ⟨_, rfl, rfl⟩) ?_
  refine coerceFields_of_ok shape.closing (coerce_str_eq_ok.2 ⟨_, rfl, rfl⟩) ?_
  by_cases opening : b.openingCaptures.IsShort
  · -- the captures at the end have the number
    obtain ⟨es, accepted, -⟩ := (describesCaptures_iff _).2 ⟨describes, opening⟩
    refine coerceFields_of_ok found accepted ?_
    have optional := shape.closingCaptures
    generalize hfound : field? "end_captures" entries = found, hclosing : b.closingCaptures = closing at optional
    cases optional with
    | absent | null => exact absurd ⟨opening, by simp [hclosing]⟩ long
    | given describes' =>
      have long' := fun short => long ⟨opening, by simpa [hclosing] using short⟩
      exact coerceFields_of_error hfound
        (coerce_optional_of_tooManyDigits (coerce_captures_of_not_isShort describes' long'))
  · exact coerceFields_of_error found (coerce_captures_of_not_isShort describes opening)

/-- Neither is a host with such a shape. -/
lemma coerce_host_of_not_isShort {host : Host} (h : DescribesHost entries host) (long : ¬host.IsShort) :
    (coerce Shape.host (.map ((.str "name", .str host.name) :: entries)) path).result = .error .tooManyDigits := by
  have behind {key : Text} (hne : Text.ofString "name" ≠ key) :
      field? key ((.str "name", .str host.name) :: entries) = field? key entries := by rw [field?_cons, if_neg hne]
  obtain ⟨vs, hscopes, items⟩ := h.targetScopes
  obtain ⟨vt, htagged, tagged⟩ := h.tagged
  obtain ⟨vd, hdispatch, dispatch⟩ := h.dispatch
  rw [← behind (by decide)] at hscopes htagged hdispatch
  refine coerce_record_of_error (.map _) (List.forall_mem_cons.2 ⟨?_, fun e he => ?_⟩) ?_
  · exact ⟨_, List.mem_cons_self, rfl⟩
  · have key := h.keys e he
    simp only [List.mem_cons, List.not_mem_nil, or_false] at key
    rcases key with key | key | key | key | key <;> exact ⟨_, by simp [Shape.required, Shape.defaulted], key⟩
  refine coerceFields_of_ok (field?_cons.trans (if_pos rfl)) (coerce_str_eq_ok.2 ⟨_, rfl, rfl⟩) ?_
  refine coerceFields_of_ok hscopes (coerce_texts_eq_ok.2 ⟨_, items, rfl⟩) ?_
  by_cases short : host.tagged.IsShort
  · obtain ⟨x, accepted, -⟩ := mapsBoundary_iff.2 ⟨tagged, short⟩
    refine coerceFields_of_ok htagged accepted ?_
    exact coerceFields_of_error hdispatch (coerce_boundary_of_not_isShort dispatch fun h => long ⟨short, h⟩)
  · exact coerceFields_of_error htagged (coerce_boundary_of_not_isShort tagged short)

/-- What is reported of a host that is written with a number that is too long. -/
def tooLongProblem (host : Host) : TableError :=
  ⟨["hosts", host.name], .buildFailed Shape.host.builtName Fault.tooManyDigits.message⟩

/-- An entry that describes such a host is a problem of the table. -/
lemma buildHost_of_not_isShort {e : Value × Value} {host : Host} (h : EntryDescribes e host) (long : ¬host.IsShort) :
    (buildHost e.1 e.2).result = .error (.table (tooLongProblem host)) := by
  obtain ⟨hname, entries, hentries, described⟩ := h
  have built (path : Hint.Place) : (Shape.host.build (.map ((.str "name", .str host.name) :: entries)) path).result =
      .error (.inTable path (.buildFailed Shape.host.builtName Fault.tooManyDigits.message)) :=
    result_mapFault_eq_error.2 ⟨_, coerce_host_of_not_isShort described long, rfl⟩
  rw [hname, buildHost_of_hasEntries hentries, described.unnamed]
  exact result_bind_eq_error.2 (.inr ⟨host.name, rfl, result_bind_eq_error.2 (.inl (built _))⟩)

/-- The first such entry is reported. -/
lemma buildHosts_of_not_isShort {before after : List Host} {host : Host}
    (h : List.Forall₂ EntryDescribes entries (before ++ host :: after)) (short : ∀ h ∈ before, h.IsShort)
    (long : ¬host.IsShort) : (buildHosts entries).result = .error (.table (tooLongProblem host)) := by
  induction before generalizing entries with
  | nil =>
    cases h with
    | cons first _ => exact result_bind_eq_error.2 (.inl (buildHost_of_not_isShort first long))
  | cons own rest ih =>
    obtain ⟨short_own, short_rest⟩ := List.forall_mem_cons.1 short
    cases h with
    | cons first others =>
      have built := entryDescribes_iff.2 ⟨first, short_own⟩
      refine result_bind_eq_error.2 (.inr ⟨own, built, ?_⟩)
      exact result_bind_eq_error.2 (.inl (ih others short_rest))

end Long

section Parse

variable {raw : List (Value × Value)} {languages : List Language} {hosts : List Host}

/-- A table that was built and then checked has the verdict of the check. -/
lemma ParsesAs.of_checked {α : Type} {parsed : Outcome α} {verdict : Except TableError Unit} {table : α}
    (h : parsed.result = (do checked verdict; return table : Outcome α).result) : ParsesAs parsed verdict table where
  passes hpass := by
    rw [h, result_bind_eq_ok]
    exact ⟨(), checked_eq_ok.2 hpass, rfl⟩
  refuses e he := by
    rw [h, result_bind_eq_error]
    exact .inl (checked_eq_error.2 ⟨e, he, rfl⟩)

/-- Parsing what is written for languages is checking them. -/
lemma result_parseLanguages (h : WritesLanguages raw languages) :
    (parseLanguages raw).result = (do checked (checkLanguages languages); return languages : Outcome _).result := by
  obtain ⟨items, rfl, described⟩ := h
  have found : field? "languages" [(.str "languages", .list items)] = some (.list items) := by
    rw [field?_cons, if_pos rfl]
  have keys : (checkKeys [Text.ofString "languages"] [(.str "languages", .list items)] []).result = .ok () :=
    checkKeys_eq_ok.2 (by simp)
  simp only [parseLanguages, found]
  rw [result_bind_of_ok keys, result_bind_of_ok (buildLanguages_eq_ok.2 described)]

/-- Parsing what is written for hosts is building and checking them. -/
lemma exists_parseHosts (h : WritesHosts raw hosts) :
    ∃ entries, List.Forall₂ EntryDescribes entries hosts ∧ (parseHosts raw).result =
      (do let hosts ← buildHosts entries; checked (checkHosts hosts); return hosts : Outcome _).result := by
  obtain ⟨v, entries, rfl, hentries, -, described⟩ := h
  have found : field? "hosts" [(.str "hosts", v)] = some v := by rw [field?_cons, if_pos rfl]
  have keys : (checkKeys [Text.ofString "hosts"] [(.str "hosts", v)] []).result = .ok () :=
    checkKeys_eq_ok.2 (by simp)
  exact ⟨entries, described, by rw [parseHosts_of_hasEntries found hentries, result_bind_of_ok keys]⟩

/-- If the group numbers of the hosts can be displayed, only their check can fail. -/
lemma result_parseHosts (h : WritesHosts raw hosts) (short : ∀ host ∈ hosts, host.IsShort) :
    (parseHosts raw).result = (do checked (checkHosts hosts); return hosts : Outcome _).result := by
  obtain ⟨entries, described, parsed⟩ := exists_parseHosts h
  rw [parsed, result_bind_of_ok (buildHosts_eq_ok.2 ⟨described, short⟩)]

/-- Otherwise the first host with a number that is too long is reported, whatever the check says. -/
lemma result_parseHosts_of_not_isShort {before after : List Host} {host : Host}
    (h : WritesHosts raw (before ++ host :: after)) (short : ∀ h ∈ before, h.IsShort) (long : ¬host.IsShort) :
    (parseHosts raw).result = .error (.table (tooLongProblem host)) := by
  obtain ⟨entries, described, parsed⟩ := exists_parseHosts h
  rw [parsed]
  exact result_bind_eq_error.2 (.inl (buildHosts_of_not_isShort described short long))

/-- Documents of parsed tables are the documents of the tables, and they fail for the same problem. -/
lemma result_generate_of_parsesAs {parsedLanguages : Outcome (List Language)} {parsedHosts : Outcome (List Host)}
    (hlanguages : ParsesAs parsedLanguages (checkLanguages languages) languages)
    (hhosts : ParsesAs parsedHosts (checkHosts hosts) hosts) :
    (do let ls ← parsedLanguages; let hs ← parsedHosts; generate ls hs).result = (generate languages hosts).result := by
  cases first : checkLanguages languages with
  | error e =>
    have stops : (generate languages hosts).result = .error (.table e) := by
      rw [generate, first]
      rfl
    rw [stops, result_bind_eq_error]
    exact .inl (hlanguages.refuses e first)
  | ok _ =>
    rw [result_bind_of_ok (hlanguages.passes first)]
    cases second : checkHosts hosts with
    | error e =>
      have stops : (generate languages hosts).result = .error (.table e) := by
        rw [generate, first, second]
        rfl
      rw [stops, result_bind_eq_error]
      exact .inl (hhosts.refuses e second)
    | ok _ => rw [result_bind_of_ok (hhosts.passes second)]

end Parse

/-- Whatever is written for languages is parsed into them if they pass their check, and is otherwise refused for the
problem that the check reports. The same holds of hosts whose group numbers can be displayed, and then documents are
generated or refused alike from what is written and from what is given. What is written for hosts includes their
mapping with absent captures left out and with null in their place. If a group number of a host is too long, what is
written is refused as a problem of the table at the first such host, even if the check of the hosts passes. In that case
generation from what is given fails with a fault that is none of the table. -/
theorem written_tables_parse_as_given (languages : List Language) (hosts : List Host)
    (different : (hosts.map Host.name).Nodup) (mappings : ∀ host ∈ hosts, host.HasMappings) :
    WritesLanguages (rawLanguages languages) languages ∧ WritesHosts (rawHosts hosts) hosts ∧
      WritesHosts [(.str "hosts", .map (hosts.map fun h => (.str h.name, h.rawBy Boundary.rawWithNull)))] hosts ∧
      ∀ rawL rawH, WritesLanguages rawL languages → WritesHosts rawH hosts →
        ParsesAs (parseLanguages rawL) (checkLanguages languages) languages ∧
          ((∀ host ∈ hosts, host.IsShort) → ParsesAs (parseHosts rawH) (checkHosts hosts) hosts ∧
            (do let ls ← parseLanguages rawL; let hs ← parseHosts rawH; generate ls hs).result =
              (generate languages hosts).result) ∧
          ∀ before host after, hosts = before ++ host :: after → (∀ h ∈ before, h.IsShort) → ¬host.IsShort →
            (parseHosts rawH).result = .error (.table (tooLongProblem host)) ∧
              (checkLanguages languages = .ok () → checkHosts hosts = .ok () →
                (generate languages hosts).result = .error .tooManyDigits) := by
  refine ⟨writesLanguages_raw languages, writesHosts_rawBy different mappings fun _ => mapsBoundary_raw,
    writesHosts_rawBy different mappings fun _ => mapsBoundary_rawWithNull, fun rawL rawH hl hh => ?_⟩
  have parsedLanguages := ParsesAs.of_checked (result_parseLanguages hl)
  refine ⟨parsedLanguages, fun short => ?_, ?_⟩
  · have parsedHosts := ParsesAs.of_checked (result_parseHosts hh short)
    exact ⟨parsedHosts, result_generate_of_parsesAs parsedLanguages parsedHosts⟩
  · rintro before host after rfl short long
    refine ⟨result_parseHosts_of_not_isShort hh short long, fun hlanguages hhosts => ?_⟩
    exact result_generate_of_not_isShort hlanguages hhosts fun h => long (h host (by simp))

section Sample

/-- A language without aliases. -/
def bareLanguage : Language :=
  { name := "a", identifiers := [], source := .one "s" }

/-- The host of the sample has mappings for captures. -/
lemma hasMappings_sampleHost : sampleHost.HasMappings := by
  have shape (group : Int) (hgroup : group ≠ 2) : (sampleShape group).HasMappings :=
    ⟨by simpa [Captures.IsMapping, sampleShape] using hgroup.symm, nofun⟩
  exact ⟨shape 0 (by decide), shape (-1) (by decide)⟩

/-- Its numbers have one digit. -/
lemma isShort_sampleHost : sampleHost.IsShort := by
  have shape (group : Int) (hgroup : group.natAbs < 10) : (sampleShape group).IsShort :=
    ⟨by simpa [Captures.IsShort, sampleShape] using ⟨isShort_of_lt_ten (by decide), isShort_of_lt_ten hgroup⟩, nofun⟩
  exact ⟨shape 0 (by decide), shape (-1) (by decide)⟩

/-- A host with a chosen number for its one group. -/
def numberedHost (group : Int) : Host :=
  slotHost "h" [Text.ofString "t"] [(group, "s")]

/-- Any number does for the group of a host. -/
lemma wellFormed_numberedHost (group : Int) : (numberedHost group).WellFormed where
  name := (by decide : Text.isBlank "h" = false)
  slash := (by decide : .char '/' ∉ Text.ofString "h")
  backslash := (by decide : .char '\\' ∉ Text.ofString "h")
  points := (by decide : ¬Text.ofString ".." <:+: Text.ofString "h")
  targetScopes := by simp [numberedHost, slotHost]
  tagged := slotShape_wellFormed _
  dispatch := slotShape_wellFormed _

/-- One group is a mapping. -/
lemma hasMappings_numberedHost (group : Int) : (numberedHost group).HasMappings where
  tagged := ⟨by simp [numberedHost, slotHost, slotShape, Captures.IsMapping], nofun⟩
  dispatch := ⟨by simp [numberedHost, slotHost, slotShape, Captures.IsMapping], nofun⟩

/-- With the least number that cannot be displayed the host is not short. -/
lemma not_isShort_numberedHost : ¬(numberedHost (10 ^ digitLimit)).IsShort := fun short =>
  not_isShort_pow (isShort_slotHost.1 short (10 ^ digitLimit, "s") List.mem_cons_self)

/-- A host table that is written out of order is parsed, and beside it a language without aliases stops generation
where the check stops it. A host with a group number that has more digits than can be displayed passes its check, and
what is written for it is refused; where it is given, generation ends with a fault that is none of the table. -/
theorem written_tables_parse_as_given_sample :
    ((parseHosts (sampleHosts (.int (-1)))).result = .ok [sampleHost] ∧
      (do let ls ← parseLanguages (rawLanguages [bareLanguage])
          let hs ← parseHosts (sampleHosts (.int (-1)))
          generate ls hs).result = (generate [bareLanguage] [sampleHost]).result ∧
      (generate [bareLanguage] [sampleHost]).result =
        .error (.table ⟨["languages", "0", "identifiers"], .empty⟩)) ∧
      checkHosts [numberedHost (10 ^ digitLimit)] = .ok () ∧
      (parseHosts (rawHosts [numberedHost (10 ^ digitLimit)])).result =
        .error (.table (tooLongProblem (numberedHost (10 ^ digitLimit)))) ∧
      (generate [sampleLanguage] [numberedHost (10 ^ digitLimit)]).result = .error .tooManyDigits := by
  have written : WritesHosts (sampleHosts (.int (-1))) [sampleHost] :=
    ⟨_, _, rfl, .map _, List.pairwise_singleton _ _, .cons ⟨rfl, _, .ordered _, describesHost_sample⟩ .nil⟩
  have passes : checkHosts [sampleHost] = .ok () :=
    checkHosts_eq_ok.2 ⟨by simp, fun host hhost => checkHost_eq_ok.2 (isHostTable_sample.wellFormed host hhost)⟩
  have numbered : checkHosts [numberedHost (10 ^ digitLimit)] = .ok () :=
    checkHosts_eq_ok.2 ⟨by simp, List.forall_mem_singleton.2 (checkHost_eq_ok.2 (wellFormed_numberedHost _))⟩
  obtain ⟨hl, -, -, parses⟩ := written_tables_parse_as_given [bareLanguage] [sampleHost] (List.nodup_singleton _)
    (List.forall_mem_singleton.2 hasMappings_sampleHost)
  obtain ⟨-, parsed, -⟩ := parses _ _ hl written
  obtain ⟨parsedHosts, same⟩ := parsed (List.forall_mem_singleton.2 isShort_sampleHost)
  obtain ⟨hl', hh', -, parses'⟩ := written_tables_parse_as_given [sampleLanguage] [numberedHost (10 ^ digitLimit)]
    (List.nodup_singleton _) (List.forall_mem_singleton.2 (hasMappings_numberedHost _))
  obtain ⟨-, -, refused⟩ := parses' _ _ hl' hh'
  obtain ⟨problem, fault⟩ := refused [] _ [] rfl (List.forall_mem_nil _) not_isShort_numberedHost
  exact ⟨⟨parsedHosts.passes passes, same, rfl⟩, numbered, problem, fault (by decide) numbered⟩

end Sample

end Table

end TaggedGrammar
