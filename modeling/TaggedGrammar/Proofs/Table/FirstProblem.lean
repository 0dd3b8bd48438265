import TaggedGrammar.Proofs.Table.Check

/-!
# The first problem of a language table

A language is bad behind others if it has a blank part, lacks one, or has the name of one of them. `FirstDefect` says
which check refuses a bad language, and with what. The check of a table splits it at the first bad language: those
before it pass, and those behind it are never looked at.
-/

namespace TaggedGrammar.Table

/-- A language that cannot stand behind the others. -/
def Bad (before : List Language) (l : Language) : Prop :=
  Text.isBlank l.name = true ∨ l.name ∈ before.map Language.name ∨ l.identifiers = [] ∨
    (∃ a ∈ l.identifiers, Text.isBlank a = true) ∨ l.sources = [] ∨ ∃ scope ∈ l.sources, Text.isBlank scope = true

/-- The language at an index cannot stand behind those before it. -/
def BadAt (languages : List Language) (i : Nat) : Prop :=
  ∃ l, languages[i]? = some l ∧ Bad (languages.take i) l

/-- The place of a language in the table. -/
def placeOf (i : Nat) : List Text :=
  [Text.ofString "languages", Text.ofString (toString i)]

/-- The first check that a language behind others fails, and the error that tells of it. -/
inductive FirstDefect (before : List Language) (l : Language) : TableError → Prop where
  | blankName :
    Text.isBlank l.name = true →
    FirstDefect before l ⟨placeOf before.length ++ [Text.ofString "name"], .empty⟩
  | repeatedName {first} :
    Text.isBlank l.name = false →
    (∀ k, (before.map Language.name)[k]? = some l.name ↔ k = first) →
    FirstDefect before l ⟨placeOf before.length ++ [Text.ofString "name"], .duplicateName l.name first⟩
  | noAliases :
    Text.isBlank l.name = false →
    l.name ∉ before.map Language.name →
    l.identifiers = [] →
    FirstDefect before l ⟨placeOf before.length ++ [Text.ofString "identifiers"], .empty⟩
  | blankAlias {j a} :
    Text.isBlank l.name = false →
    l.name ∉ before.map Language.name →
    l.identifiers[j]? = some a →
    Text.isBlank a = true →
    (∀ b ∈ l.identifiers.take j, Text.isBlank b = false) →
    FirstDefect before l ⟨placeOf before.length ++ [Text.ofString "identifiers", Text.ofNat j], .blankAlias⟩
  | noScope :
    Text.isBlank l.name = false →
    l.name ∉ before.map Language.name →
    l.identifiers ≠ [] →
    (∀ a ∈ l.identifiers, Text.isBlank a = false) →
    (l.sources = [] ∨ ∃ scope ∈ l.sources, Text.isBlank scope = true) →
    FirstDefect before l ⟨placeOf before.length ++ [Text.ofString "source"], .emptyScope⟩

variable {before rest languages : List Language} {l : Language} {e : TableError}

/-- A language is good behind others if it is well-formed and has a new name. -/
lemma not_bad_iff : ¬Bad before l ↔ l.WellFormed ∧ l.name ∉ before.map Language.name := by
  simp only [Bad, not_or, not_exists, not_and, Bool.not_eq_true]
  constructor
  · rintro ⟨name, notBefore, identifiers, identifier, sources, source⟩
    exact ⟨⟨name, identifiers, identifier, sources, source⟩, notBefore⟩
  · rintro ⟨⟨name, identifiers, identifier, sources, source⟩, notBefore⟩
    exact ⟨name, notBefore, identifiers, identifier, sources, source⟩

/-- The names before a language, as the check has seen them. -/
def seen (before : List Language) : List (Text × Nat) :=
  (before.map Language.name).zipIdx

/-- The names that were seen are those of the languages in front. -/
lemma map_fst_seen (before : List Language) : (seen before).map Prod.fst = before.map Language.name :=
  List.zipIdx_map_fst 0 _

/-- What was seen grows with each language that passes. -/
lemma seen_append (before : List Language) (l : Language) :
    seen before ++ [(l.name, before.length)] = seen (before ++ [l]) := by
  simp [seen, List.zipIdx_append]

/-- A name that was seen is that of the language it was seen at. -/
lemma lookup_seen {name : Text} {first : Nat} (h : (seen before).lookup name = some first) :
    (before.map Language.name)[first]? = some name := by
  obtain ⟨front, back, heq, -⟩ := List.lookup_eq_some_iff.1 h
  apply List.mk_mem_zipIdx_iff_getElem?.1
  show (name, first) ∈ seen before
  rw [heq]
  simp

/-- Names that differ are seen at one index only. -/
lemma lookup_seen_eq_some (different : (before.map Language.name).Nodup) {name : Text} {first : Nat} :
    (seen before).lookup name = some first ↔ ∀ k, (before.map Language.name)[k]? = some name ↔ k = first := by
  constructor
  · intro h k
    have hfirst := lookup_seen h
    constructor
    · intro hk
      obtain ⟨hlt, -⟩ := List.getElem?_eq_some_iff.1 hk
      exact (List.getElem?_inj hlt different).1 (hk.trans hfirst.symm)
    · rintro rfl
      exact hfirst
  · intro h
    cases hlook : (seen before).lookup name with
    | some k => rw [(h k).1 (lookup_seen hlook)]
    | none =>
      rw [lookup_eq_none, map_fst_seen] at hlook
      exact absurd (List.mem_of_getElem? ((h first).2 rfl)) hlook

/-- Aliases fail at the first blank one, and the place says which one it is. -/
lemma checkAliases_eq_error {path : List Text} {j : Nat} {aliases : List Text} :
    checkAliases path j aliases = .error e ↔
      ∃ k a, aliases[k]? = some a ∧ Text.isBlank a = true ∧ (∀ b ∈ aliases.take k, Text.isBlank b = false) ∧
        e = ⟨path ++ [Text.ofString "identifiers", Text.ofNat (j + k)], .blankAlias⟩ := by
  induction aliases generalizing j with
  | nil => simp [checkAliases]
  | cons a rest ih =>
    unfold checkAliases
    split
    next hblank =>
      constructor
      · intro h
        cases h
        exact ⟨0, a, rfl, hblank, List.forall_mem_nil _, rfl⟩
      · rintro ⟨k, b, hk, hb, hbefore, rfl⟩
        cases k with
        | zero => rfl
        | succ k =>
          have hfirst := hbefore a (by simp)
          rw [hblank] at hfirst
          cases hfirst
    next hblank =>
      -- a later alias is blank, and its index counts this one
      rw [ih]
      rw [Bool.not_eq_true] at hblank
      constructor
      · rintro ⟨k, b, hk, hb, hbefore, rfl⟩
        refine ⟨k + 1, b, hk, hb, ?_, ?_⟩
        · simpa [hblank] using hbefore
        · rw [Nat.add_right_comm, Nat.add_assoc]
      · rintro ⟨k, b, hk, hb, hbefore, rfl⟩
        cases k with
        | zero =>
          cases hk
          rw [hblank] at hb
          cases hb
        | succ k =>
          refine ⟨k, b, hk, hb, ?_, ?_⟩
          · simpa [hblank] using hbefore
          · rw [Nat.add_right_comm, Nat.add_assoc]

/-- Behind languages with different names a language fails the check that is its first defect. -/
lemma firstDefect_of_checkLanguage (different : (before.map Language.name).Nodup)
    (h : checkLanguage (seen before) before.length l = .error e) : FirstDefect before l e := by
  unfold checkLanguage at h
  dsimp only at h
  split at h
  next hname =>
    cases h
    exact .blankName hname
  next hname =>
  rw [Bool.not_eq_true] at hname
  split at h
  next first hfirst =>
    cases h
    exact .repeatedName hname ((lookup_seen_eq_some different).1 hfirst)
  next hnew =>
  rw [lookup_eq_none, map_fst_seen] at hnew
  split at h
  next hidentifiers =>
    cases h
    exact .noAliases hname hnew (List.isEmpty_iff.1 hidentifiers)
  next hidentifiers =>
  split at h
  next haliases =>
    cases h
    obtain ⟨j, a, hj, hblank, hbefore, rfl⟩ := checkAliases_eq_error.1 haliases
    rw [Nat.zero_add]
    exact .blankAlias hname hnew hj hblank hbefore
  next haliases =>
  split at h
  next hsources =>
    cases h
    refine .noScope hname hnew (by simpa using hidentifiers) (checkAliases_eq_ok.1 haliases) ?_
    simpa [List.any_eq_true] using hsources
  next => cases h

/-- The check of a table goes on to the first language that it refuses. -/
lemma checkLanguagesFrom_eq_error :
    checkLanguagesFrom (seen before) before.length rest = .error e ↔
      ∃ passed l behind, rest = passed ++ l :: behind ∧
        checkLanguagesFrom (seen before) before.length passed = .ok () ∧
        checkLanguage (seen (before ++ passed)) (before ++ passed).length l = .error e := by
  induction rest generalizing before with
  | nil => simp [checkLanguagesFrom]
  | cons l rest ih =>
    have step (more : List Language) (hl : checkLanguage (seen before) before.length l = .ok ()) :
        checkLanguagesFrom (seen before) before.length (l :: more) =
          checkLanguagesFrom (seen (before ++ [l])) (before ++ [l]).length more := by
      rw [checkLanguagesFrom, hl, seen_append, List.length_append, List.length_singleton]
    cases hl : checkLanguage (seen before) before.length l with
    | error e' =>
      rw [checkLanguagesFrom, hl]
      constructor
      · intro h
        cases h
        exact ⟨[], l, rest, rfl, rfl, by rwa [List.append_nil]⟩
      · rintro ⟨passed, l', behind, heq, hpassed, hl'⟩
        cases passed with
        | nil =>
          cases heq
          rw [List.append_nil, hl] at hl'
          exact hl'
        | cons first passed =>
          cases heq
          rw [checkLanguagesFrom, hl] at hpassed
          cases hpassed
    | ok _ =>
      rw [step rest hl, ih]
      constructor
      · rintro ⟨passed, l', behind, rfl, hpassed, hl'⟩
        refine ⟨l :: passed, l', behind, rfl, (step passed hl).trans hpassed, ?_⟩
        rwa [List.append_assoc] at hl'
      · rintro ⟨passed, l', behind, heq, hpassed, hl'⟩
        cases passed with
        | nil =>
          cases heq
          rw [List.append_nil, hl] at hl'
          cases hl'
        | cons first passed =>
          cases heq
          refine ⟨passed, l', behind, rfl, (step passed hl).symm.trans hpassed, ?_⟩
          rwa [List.append_assoc]

/-- A table passes, apart from being empty, if no language in it is bad. -/
lemma checkLanguagesFrom_eq_ok_iff : checkLanguagesFrom [] 0 languages = .ok () ↔ ∀ i, ¬BadAt languages i := by
  rw [checkLanguagesFrom_eq_ok]
  constructor
  · rintro ⟨wellFormed, -, different⟩ i ⟨l, hl, bad⟩
    refine not_bad_iff.2 ⟨wellFormed l (List.mem_of_getElem? hl), fun hmem => ?_⟩ bad
    obtain ⟨k, hk⟩ := List.mem_iff_getElem?.1 hmem
    obtain ⟨hlt, -⟩ := List.getElem?_eq_some_iff.1 hk
    rw [List.map_take, List.length_take, lt_min_iff] at hlt
    rw [List.map_take, List.getElem?_take_of_lt hlt.1] at hk
    have hi : (languages.map Language.name)[i]? = some l.name := by rw [List.getElem?_map, hl, Option.map_some]
    exact hlt.1.ne ((List.getElem?_inj hlt.2 different).1 (hk.trans hi.symm))
  · intro good
    have fine {i : Nat} {l : Language} (hl : languages[i]? = some l) := not_bad_iff.1 fun bad => good i ⟨l, hl, bad⟩
    refine ⟨fun l hl => ?_, List.disjoint_nil_left _, List.nodup_iff_getElem?_ne_getElem?.2 fun i j hij hj heq => ?_⟩
    · obtain ⟨i, hi⟩ := List.mem_iff_getElem?.1 hl
      exact (fine hi).1
    · rw [List.length_map] at hj
      have hlast := List.getElem?_eq_getElem hj
      refine (fine hlast).2 (List.mem_iff_getElem?.2 ⟨i, ?_⟩)
      rw [List.map_take, List.getElem?_take_of_lt hij, heq, List.getElem?_map, hlast, Option.map_some]

/-- A language that is refused is bad. -/
lemma bad_of_checkLanguage (h : checkLanguage (seen before) before.length l = .error e) : Bad before l := by
  by_contra hgood
  obtain ⟨wellFormed, hnew⟩ := not_bad_iff.1 hgood
  rw [← map_fst_seen] at hnew
  cases h.symm.trans (checkLanguage_eq_ok.2 ⟨wellFormed, hnew⟩)

/-- Whether a language is bad does not depend on those behind it. -/
lemma badAt_append {k : Nat} (h : k < before.length) : BadAt (before ++ rest) k ↔ BadAt before k := by
  rw [BadAt, BadAt, List.getElem?_append_left h, List.take_append_of_le_length h.le]

/-- A table with languages is checked language by language. -/
lemma checkLanguages_of_ne_nil (h : languages ≠ []) : checkLanguages languages = checkLanguagesFrom [] 0 languages := by
  rw [checkLanguages, if_neg (by simpa using h)]

/-- A defect of a language is told at a place in that language. -/
lemma FirstDefect.placeOf_prefix (h : FirstDefect before l e) : placeOf before.length <+: e.path := by
  cases h <;> exact List.prefix_append _ _

/-- A table with languages is refused if and only if one of them is bad. The error is then that of the first bad
one, and of its first defect; those before it pass by themselves, and what stands behind it does not matter. -/
theorem first_bad_language_is_reported (h : languages ≠ []) :
    ((∃ e, checkLanguages languages = .error e) ↔ ∃ i, BadAt languages i) ∧
      ∀ e, checkLanguages languages = .error e →
        ∃ i l, languages[i]? = some l ∧ BadAt languages i ∧ (∀ k < i, ¬BadAt languages k) ∧
          FirstDefect (languages.take i) l e ∧ placeOf i <+: e.path ∧
          (0 < i → checkLanguages (languages.take i) = .ok ()) ∧
          ∀ others, languages.take (i + 1) <+: others → checkLanguages others = .error e := by
  have passes := @checkLanguagesFrom_eq_ok_iff languages
  rw [checkLanguages_of_ne_nil h]
  constructor
  · cases hcheck : checkLanguagesFrom [] 0 languages with
    | ok _ => simpa using passes.1 hcheck
    | error e =>
      refine iff_of_true ⟨e, rfl⟩ ?_
      by_contra hgood
      rw [not_exists] at hgood
      cases hcheck.symm.trans (passes.2 hgood)
  · intro e hcheck
    obtain ⟨passed, l, behind, rfl, hpassed, hl⟩ := (@checkLanguagesFrom_eq_error [] _ _).1 hcheck
    rw [List.nil_append] at hl
    have htake : (passed ++ l :: behind).take passed.length = passed := List.take_left
    have hget : (passed ++ l :: behind)[passed.length]? = some l := by simp
    have defect := firstDefect_of_checkLanguage (checkLanguagesFrom_eq_ok.1 hpassed).2.2 hl
    have good := checkLanguagesFrom_eq_ok_iff.1 hpassed
    refine ⟨passed.length, l, hget, ?_, fun k hk => ?_, ?_, defect.placeOf_prefix, fun hpos => ?_,
      fun others hothers => ?_⟩
    · refine ⟨l, hget, ?_⟩
      rw [htake]
      exact bad_of_checkLanguage hl
    · rw [badAt_append hk]
      exact good k
    · rwa [htake]
    · rwa [htake, checkLanguages_of_ne_nil (List.ne_nil_of_length_pos hpos)]
    · obtain ⟨more, rfl⟩ := hothers
      rw [List.take_append, List.take_of_length_le (Nat.le_succ _), Nat.add_sub_cancel_left, List.take_succ_cons,
        List.take_zero, List.append_assoc, List.singleton_append, checkLanguages_of_ne_nil (by simp)]
      exact (@checkLanguagesFrom_eq_error [] _ _).2 ⟨passed, l, more, rfl, hpassed, hl⟩

/-- Two good languages, one with the name of the first and a blank alias, and one with nothing. -/
def crowdedLanguages : List Language :=
  let good (name : Text) : Language := { name, identifiers := [name], source := .one "s" }
  [good "a", good "b", { good "a" with identifiers := [Text.ofString " "] },
    { name := [], identifiers := [], source := .many [] }]

/-- The repeated name of the third language is told before its blank alias and before the fourth language. -/
theorem repeated_name_is_reported_first :
    crowdedLanguages ≠ [] ∧ (∃ i, BadAt crowdedLanguages i) ∧
      ∃ e, checkLanguages crowdedLanguages = .error e ∧ e.problem = .duplicateName "a" 0 ∧
        BadAt crowdedLanguages 2 ∧ ¬BadAt crowdedLanguages 1 ∧
        ∀ others, crowdedLanguages.take 3 <+: others → checkLanguages others = .error e := by
  have hne : crowdedLanguages ≠ [] := List.cons_ne_nil _ _
  have hcheck : checkLanguages crowdedLanguages =
      .error ⟨placeOf 2 ++ [Text.ofString "name"], .duplicateName "a" 0⟩ := by decide
  obtain ⟨hiff, first⟩ := first_bad_language_is_reported hne
  obtain ⟨i, l, hl, bad, good, -, place, -, others⟩ := first _ hcheck
  have hi : i = 2 := by
    obtain ⟨hlt, -⟩ := List.getElem?_eq_some_iff.1 hl
    have names : ∀ k < crowdedLanguages.length, placeOf k <+: placeOf 2 ++ [Text.ofString "name"] → k = 2 := by decide
    exact names i hlt place
  subst hi
  exact ⟨hne, hiff.1 ⟨_, hcheck⟩, _, hcheck, rfl, bad, good 1 (by decide), others⟩

end TaggedGrammar.Table
