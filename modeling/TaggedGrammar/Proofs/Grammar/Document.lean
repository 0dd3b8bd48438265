import TaggedGrammar.Grammar.Build
import TaggedGrammar.Proofs.Json.RoundTrip
import TaggedGrammar.Proofs.Outcomes
import TaggedGrammar.Proofs.Table.Check

/-!
# Grammars and their documents

A document is made of texts, lists and mappings with text keys only, so it is read back from its text. The
basic grammar of a host is built if the languages have different names and the group numbers can be displayed, and it
has one rule for each language.
-/

namespace TaggedGrammar.Grammar

section Documents

open Json

/-- The value is read back from its text as it is. -/
def IsRead (v : Value) : Prop :=
  readBack? v = some v

/-- A text is read back. -/
lemma isRead_str (s : Text) : IsRead (.str s) :=
  rfl

/-- A list is read back if its items are. -/
lemma isRead_list {vs : List Value} (h : ∀ v ∈ vs, IsRead v) : IsRead (.list vs) := by
  rw [IsRead, readBack?, readBackItems?_eq_self h, Option.map_some]

/-- An object is read back if its fields are. -/
lemma isRead_ofFields {fields : List (Text × Value)} (h : ∀ f ∈ fields, IsRead f.2) : IsRead (.ofFields fields) := by
  rw [IsRead, Value.ofFields, readBack?, readBackEntries?_eq_self ?_ ?_, Option.map_some] <;> intro e he <;>
    obtain ⟨f, hf, rfl⟩ := List.mem_map.1 he
  · exact ⟨f.1, rfl⟩
  · exact h f hf

/-- A field that may be absent is read back if its value is. -/
lemma isRead_entryIfSome {α : Type} {key : Text} {f : α → Value} (h : ∀ a, IsRead (f a)) (x : Option α) :
    ∀ e ∈ entryIfSome key f x, IsRead e.2 := by
  cases x with
  | none => simp [entryIfSome]
  | some a => simpa [entryIfSome, entry] using h a

/-- The groups of a region are read back. -/
lemma isRead_groupDocument (scopes : GroupScopes) : IsRead (groupDocument scopes) := by
  refine isRead_ofFields fun f hf => ?_
  obtain ⟨e, -, rfl⟩ := List.mem_map.1 hf
  exact isRead_ofFields (by simp [isRead_str])

/-- A rule is read back. -/
lemma isRead_rule (rule : Rule) : IsRead rule.document := by
  cases rule <;> exact isRead_ofFields (by simp [isRead_str])

/-- Rules are read back. -/
lemma isRead_rules (rules : List Rule) : IsRead (.list (rules.map Rule.document)) := by
  refine isRead_list fun v hv => ?_
  obtain ⟨rule, -, rfl⟩ := List.mem_map.1 hv
  exact isRead_rule rule

/-- A region is read back. -/
lemma isRead_region (r : Region) : IsRead r.document := by
  refine isRead_ofFields ?_
  simp only [List.forall_mem_append]
  have single {key : Text} {v : Value} (h : IsRead v) : ∀ e ∈ entry key v, IsRead e.2 := by
    simpa [entry] using h
  exact ⟨⟨⟨⟨⟨⟨isRead_entryIfSome isRead_str _, isRead_entryIfSome isRead_str _⟩, single (isRead_str _)⟩,
    single (isRead_groupDocument _)⟩, single (isRead_str _)⟩, isRead_entryIfSome isRead_groupDocument _⟩,
    single (isRead_rules _)⟩

/-- A basic grammar is read back. -/
lemma isRead_basic (g : Basic) : IsRead g.document := by
  have outer : IsRead (.list [g.outer.document]) := isRead_list (by simp [isRead_region])
  have repository : IsRead (.ofFields (g.repository.map fun e => (e.1, e.2.document))) := by
    refine isRead_ofFields fun f hf => ?_
    obtain ⟨e, -, rfl⟩ := List.mem_map.1 hf
    exact isRead_region e.2
  refine isRead_ofFields ?_
  simp only [List.forall_mem_cons]
  exact ⟨isRead_list (by simp), isRead_str _, outer, repository, isRead_str _, by simp⟩

/-- Basic grammars with the same text are the same document. -/
lemma document_eq_of_render {g₁ g₂ : Basic} (h : g₁.render = g₂.render) : g₁.document = g₂.document := by
  have read₁ : read? g₁.render = some g₁.document := read?_document (isRead_basic g₁)
  have read₂ : read? g₂.render = some g₂.document := read?_document (isRead_basic g₂)
  rw [h, read₂] at read₁
  exact (Option.some.inj read₁).symm

end Documents

section Groups

variable {c : Captures}

/-- The scopes of groups in the order of their numbers, which have all their digits. -/
def scopesByNumber (c : Captures) : GroupScopes :=
  (c.mergeSort fun a b => a.1 ≤ b.1).map fun e => (Text.ofString (toString e.1), e.2)

/-- Groups with short numbers are written one by one. -/
lemma mapM_groupScope?_of_isShort (h : c.IsShort) :
    c.mapM groupScope? = some (c.map fun e => (Text.ofString (toString e.1), e.2)) := by
  induction c with
  | nil => rfl
  | cons e rest ih =>
    obtain ⟨first, others⟩ := List.forall_mem_cons.1 h
    rw [List.mapM_cons, groupScope?, Value.integerText?_of_isShort first, ih others]
    rfl

/-- A number that is too long keeps all groups from being written. -/
lemma mapM_groupScope?_of_not_isShort (h : ¬c.IsShort) : c.mapM groupScope? = none := by
  induction c with
  | nil => exact absurd (List.forall_mem_nil _) h
  | cons e rest ih =>
    rw [List.mapM_cons]
    by_cases first : Value.IsShort e.1
    · have others : ¬Captures.IsShort rest := fun short => h (List.forall_mem_cons.2 ⟨first, short⟩)
      rw [groupScope?, Value.integerText?_of_isShort first, ih others]
      rfl
    · rw [groupScope?, Value.integerText?_of_not_isShort first]
      rfl

/-- Sorting keeps the numbers. -/
lemma isShort_mergeSort : Captures.IsShort (c.mergeSort fun a b => a.1 ≤ b.1) ↔ c.IsShort :=
  forall_congr' fun _ => imp_congr_left List.mem_mergeSort

/-- Groups that can be displayed are listed by number. -/
lemma groupScopes_of_isShort (h : c.IsShort) : groupScopes c = .ok (scopesByNumber c) := by
  rw [groupScopes, mapM_groupScope?_of_isShort (isShort_mergeSort.2 h)]
  rfl

/-- Groups that cannot be displayed are not listed. -/
lemma groupScopes_of_not_isShort (h : ¬c.IsShort) : groupScopes c = .fail .tooManyDigits := by
  rw [groupScopes, mapM_groupScope?_of_not_isShort (mt isShort_mergeSort.1 h)]
  rfl

/-- Captures are sorted by their numbers. -/
lemma pairwise_sorted (c : Captures) : (c.mergeSort fun a b => a.1 ≤ b.1).Pairwise fun a b => a.1 ≤ b.1 := by
  have trans (a b d : Int × Text) (hab : decide (a.1 ≤ b.1)) (hbd : decide (b.1 ≤ d.1)) : decide (a.1 ≤ d.1) :=
    decide_eq_true ((of_decide_eq_true hab).trans (of_decide_eq_true hbd))
  have total (a b : Int × Text) : decide (a.1 ≤ b.1) || decide (b.1 ≤ a.1) := by
    simpa using le_total a.1 b.1
  exact (List.pairwise_mergeSort trans total c).imp of_decide_eq_true

/-- The order in which groups are written does not matter if no group has two scopes. -/
lemma mergeSort_eq_of_perm {c' : Captures} (h : c.Perm c') (different : (c.map Prod.fst).Nodup) :
    (c.mergeSort fun a b => a.1 ≤ b.1) = c'.mergeSort fun a b => a.1 ≤ b.1 := by
  refine List.Perm.eq_of_pairwise ?_ (pairwise_sorted c) (pairwise_sorted c') ?_
  · intro a b ha hb hab hba
    have hb' := h.mem_iff.2 (List.mem_mergeSort.1 hb)
    exact List.inj_on_of_nodup_map different (List.mem_mergeSort.1 ha) hb' (le_antisymm hab hba)
  · exact (List.mergeSort_perm c _).trans (h.trans (List.mergeSort_perm c' _).symm)

/-- The order in which captures are given does not matter. -/
lemma groupScopes_eq_of_perm {c' : Captures} (h : c.Perm c') (different : (c.map Prod.fst).Nodup) :
    groupScopes c = groupScopes c' := by
  rw [groupScopes, groupScopes, mergeSort_eq_of_perm h different]

/-- Nor does it matter for the scopes by number. -/
lemma scopesByNumber_eq_of_perm {c' : Captures} (h : c.Perm c') (different : (c.map Prod.fst).Nodup) :
    scopesByNumber c = scopesByNumber c' := by
  rw [scopesByNumber, scopesByNumber, mergeSort_eq_of_perm h different]

end Groups

section Regions

variable {shape : Boundary} {aliases : List Text} {name contentName : Option Text} {rules : List Rule} {host : Host}
  {languages : List Language}

/-- The region that a shape describes for some aliases, if its groups can be written. -/
def shapeRegion (shape : Boundary) (aliases : List Text) (name contentName : Option Text) (rules : List Rule) :
    Region :=
  { name, contentName
    opening := Pattern.fill shape.opening (Pattern.union aliases)
    openingCaptures := scopesByNumber shape.openingCaptures
    closing := shape.closing
    closingCaptures := shape.closingCaptures.map scopesByNumber
    rules }

/-- The region of one language inside a host. -/
def languageRegion (host : Host) (l : Language) : Region :=
  shapeRegion host.tagged l.identifiers (some (templateScope host l)) (some (embeddedScope l))
    (l.sources.map Rule.include ++ [fallback])

/-- The outer region of a host. -/
def outerRegion (host : Host) (languages : List Language) : Region :=
  shapeRegion host.dispatch (allAliases languages) none none (languages.map fun l => .include ("#" ++ ruleKey l))

/-- A shape with short numbers describes a region. -/
lemma regionOf_of_isShort (h : shape.IsShort) :
    regionOf shape aliases name contentName rules = .ok (shapeRegion shape aliases name contentName rules) := by
  have opening := groupScopes_of_isShort h.openingCaptures
  have closing : optionalScopes shape.closingCaptures = .ok (shape.closingCaptures.map scopesByNumber) := by
    cases found : shape.closingCaptures with
    | none => rfl
    | some c =>
      rw [optionalScopes, groupScopes_of_isShort (h.closingCaptures c found)]
      rfl
  rw [regionOf, opening, closing]
  rfl

/-- A shape with a number that is too long describes none. -/
lemma regionOf_of_not_isShort (h : ¬shape.IsShort) :
    regionOf shape aliases name contentName rules = .fail .tooManyDigits := by
  rw [regionOf]
  by_cases opening : shape.openingCaptures.IsShort
  · -- the number is at the end of the region
    have closing : optionalScopes shape.closingCaptures = .fail .tooManyDigits := by
      cases found : shape.closingCaptures with
      | none => exact absurd ⟨opening, by simp [found]⟩ h
      | some c =>
        have long : ¬c.IsShort := fun short => h ⟨opening, by simpa [found] using short⟩
        rw [optionalScopes, groupScopes_of_not_isShort long]
        rfl
    rw [groupScopes_of_isShort opening, closing]
    rfl
  · rw [groupScopes_of_not_isShort opening]
    rfl

/-- The region of a language is built if its groups can be displayed. -/
lemma result_buildRegion (h : host.tagged.IsShort) (l : Language) :
    (buildRegion host l).result = .ok (languageRegion host l) := by
  rw [buildRegion, regionOf_of_isShort h]
  rfl

/-- Otherwise it is not built. -/
lemma result_buildRegion_of_not_isShort (h : ¬host.tagged.IsShort) (l : Language) :
    (buildRegion host l).result = .error .tooManyDigits := by
  rw [buildRegion, regionOf_of_not_isShort h]
  rfl

/-- The outer region is built if its groups can be displayed. -/
lemma buildOuter_of_isShort (h : host.dispatch.IsShort) (languages : List Language) :
    buildOuter host languages = .ok (outerRegion host languages) :=
  regionOf_of_isShort h

/-- Otherwise it is not built. -/
lemma buildOuter_of_not_isShort (h : ¬host.dispatch.IsShort) (languages : List Language) :
    buildOuter host languages = .fail .tooManyDigits :=
  regionOf_of_not_isShort h

end Regions

section Build

variable {host : Host} {languages : List Language}

/-- The rule of a language, under its name. -/
def namedRule (host : Host) (l : Language) : Text × Region :=
  (ruleKey l, languageRegion host l)

/-- The basic grammar of a host for languages with different names. -/
def basicOf (host : Host) (languages : List Language) : Basic :=
  { selector := basicSelector host.targetScopes
    outer := outerRegion host languages
    repository := languages.map (namedRule host)
    scope := basicScope host }

/-- The groups that the basic grammar of a host has can be displayed. Without languages there are no rules, and only
the outer region has groups. -/
structure DisplaysGroups (host : Host) (languages : List Language) : Prop where
  tagged : languages ≠ [] → host.tagged.IsShort
  dispatch : host.dispatch.IsShort

/-- With some language all groups of a host have to be displayed. -/
lemma displaysGroups_iff (h : languages ≠ []) : DisplaysGroups host languages ↔ host.IsShort :=
  ⟨fun displays => ⟨displays.tagged h, displays.dispatch⟩, fun short => ⟨fun _ => short.tagged, short.dispatch⟩⟩

/-- The key of a rule tells the name of its language. -/
lemma ruleKey_injective {l l' : Language} (h : ruleKey l = ruleKey l') : l.name = l'.name :=
  List.append_cancel_left h

/-- The first language of a table with the name of one before it. -/
def RepeatsName (languages : List Language) (l : Language) : Prop :=
  ∃ before after, languages = before ++ l :: after ∧ (before.map Language.name).Nodup ∧
    l.name ∈ before.map Language.name

/-- A repeated name is one that is there twice. -/
lemma RepeatsName.not_nodup {l : Language} (h : RepeatsName languages l) : ¬(languages.map Language.name).Nodup := by
  obtain ⟨before, after, rfl, -, hl⟩ := h
  rw [List.map_append, List.map_cons, List.nodup_append]
  rintro ⟨-, -, disjoint⟩
  exact disjoint _ hl _ List.mem_cons_self rfl

/-- Rules are added in table order, up to the first language whose name is there already. -/
lemma buildRepository_cases (short : host.tagged.IsShort) (before rest : List Language)
    (hbefore : (before.map Language.name).Nodup) :
    (((before ++ rest).map Language.name).Nodup ∧
        (buildRepository host (before.map (namedRule host)) rest).result =
          .ok ((before ++ rest).map (namedRule host))) ∨
      ∃ l, RepeatsName (before ++ rest) l ∧
        (buildRepository host (before.map (namedRule host)) rest).result =
          .error (.inTable ["languages"] (.repeatedName l.name)) := by
  induction rest generalizing before with
  | nil =>
    left
    rw [List.append_nil]
    exact ⟨hbefore, rfl⟩
  | cons l rest ih =>
    have found : ((before.map (namedRule host)).any fun e => e.1 == ruleKey l) = true ↔
        l.name ∈ before.map Language.name := by
      simp [namedRule, ruleKey]
    by_cases hl : l.name ∈ before.map Language.name
    · right
      refine ⟨l, ⟨before, rest, rfl, hbefore, hl⟩, ?_⟩
      simp only [buildRepository, found.2 hl, if_true, Outcome.result_fail]
    · have hnodup : ((before ++ [l]).map Language.name).Nodup := by
        rw [List.map_append, List.map_singleton, ← List.concat_eq_append, List.nodup_concat]
        exact ⟨hl, hbefore⟩
      have step : (buildRepository host (before.map (namedRule host)) (l :: rest)).result =
          (buildRepository host ((before ++ [l]).map (namedRule host)) rest).result := by
        rw [buildRepository, if_neg (mt found.1 hl), Outcome.result_bind_of_ok (result_buildRegion short l),
          List.map_append]
        rfl
      have others := ih (before ++ [l]) hnodup
      rw [List.append_assoc, List.singleton_append] at others
      rwa [step]

/-- No rule can be built if its groups cannot be displayed, and the first language is told so. -/
lemma buildRepository_of_not_isShort (long : ¬host.tagged.IsShort) (hne : languages ≠ []) :
    (buildRepository host [] languages).result = .error .tooManyDigits := by
  obtain ⟨l, rest, rfl⟩ := List.exists_cons_of_ne_nil hne
  exact Outcome.result_bind_eq_error.2 (.inl (result_buildRegion_of_not_isShort long l))

/-- What building the basic grammar of a host comes to: the grammar of its languages, a name that is repeated, or a
group that cannot be displayed. -/
inductive Built (host : Host) (languages : List Language) : Except Fault Basic → Prop where
  | grammar : (languages.map Language.name).Nodup → DisplaysGroups host languages →
    Built host languages (.ok (basicOf host languages))
  | repeated {l : Language} : RepeatsName languages l → host.tagged.IsShort →
    Built host languages (.error (.inTable ["languages"] (.repeatedName l.name)))
  | tooLong : ¬DisplaysGroups host languages → (host.tagged.IsShort → (languages.map Language.name).Nodup) →
    Built host languages (.error .tooManyDigits)

/-- A basic grammar is built, or refused, as `Built` says. -/
lemma built_buildBasic (host : Host) (languages : List Language) :
    Built host languages (buildBasic host languages).result := by
  -- the rules come first, and the outer region is built when all of them are there
  have outer {rules : List (Text × Region)} (hrules : (buildRepository host [] languages).result = .ok rules) :
      (buildBasic host languages).result = (buildOuter host languages).result.bind fun outer =>
        .ok ⟨basicSelector host.targetScopes, outer, rules, basicScope host⟩ := by
    rw [buildBasic, Outcome.result_bind_of_ok hrules, Outcome.result_bind_of_ok (Outcome.result_note _),
      Outcome.result_bind]
    rfl
  have finish (tagged : languages ≠ [] → host.tagged.IsShort) (hnames : (languages.map Language.name).Nodup)
      (hrules : (buildRepository host [] languages).result = .ok (languages.map (namedRule host))) :
      Built host languages (buildBasic host languages).result := by
    rw [outer hrules]
    by_cases dispatch : host.dispatch.IsShort
    · rw [buildOuter_of_isShort dispatch]
      exact .grammar hnames ⟨tagged, dispatch⟩
    · rw [buildOuter_of_not_isShort dispatch]
      exact .tooLong (fun displays => dispatch displays.dispatch) fun _ => hnames
  by_cases tagged : host.tagged.IsShort
  · rcases buildRepository_cases tagged [] languages List.nodup_nil with ⟨hnames, hrules⟩ | ⟨l, hl, refused⟩
    · exact finish (fun _ => tagged) hnames hrules
    · rw [show (buildBasic host languages).result = _ from Outcome.result_bind_eq_error.2 (.inl refused)]
      exact .repeated hl tagged
  · by_cases hne : languages = []
    · subst hne
      exact finish (absurd rfl) List.nodup_nil rfl
    · have failed := buildRepository_of_not_isShort tagged hne
      rw [show (buildBasic host languages).result = _ from Outcome.result_bind_eq_error.2 (.inl failed)]
      exact .tooLong (fun displays => tagged (displays.tagged hne)) fun short => absurd short tagged

/-- A basic grammar is built exactly for languages with different names, if its groups can be displayed. -/
lemma buildBasic_eq_ok {g : Basic} :
    (buildBasic host languages).result = .ok g ↔
      (languages.map Language.name).Nodup ∧ DisplaysGroups host languages ∧ g = basicOf host languages := by
  have built := built_buildBasic host languages
  generalize (buildBasic host languages).result = result at built
  cases built with
  | grammar hnames displays => simp [hnames, displays, eq_comm]
  | repeated hl _ => simp [hl.not_nodup]
  | tooLong hdisplays _ => simp [hdisplays]

/-- For languages with different names a basic grammar is built exactly if the group numbers can be displayed. -/
lemma exists_buildBasic_iff (hne : languages ≠ []) (h : (languages.map Language.name).Nodup) :
    (∃ g, (buildBasic host languages).result = .ok g) ↔ host.IsShort := by
  simp [buildBasic_eq_ok, h, displaysGroups_iff hne]

/-- Languages with different names and groups that can be displayed give a grammar. -/
lemma result_buildBasic (h : (languages.map Language.name).Nodup) (short : host.IsShort) :
    (buildBasic host languages).result = .ok (basicOf host languages) :=
  buildBasic_eq_ok.2 ⟨h, ⟨fun _ => short.tagged, short.dispatch⟩, rfl⟩

/-- Groups that cannot be displayed give none. -/
lemma result_buildBasic_of_not_isShort (hne : languages ≠ []) (h : (languages.map Language.name).Nodup)
    (long : ¬host.IsShort) : (buildBasic host languages).result = .error .tooManyDigits := by
  have built := built_buildBasic host languages
  generalize (buildBasic host languages).result = result at built
  cases built with
  | grammar _ displays => exact absurd ((displaysGroups_iff hne).1 displays) long
  | repeated hl _ => exact absurd h hl.not_nodup
  | tooLong _ _ => rfl

end Build

end TaggedGrammar.Grammar
