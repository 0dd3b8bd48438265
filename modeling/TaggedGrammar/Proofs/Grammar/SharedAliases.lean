import TaggedGrammar.Proofs.Output.Documents

/-!
# Aliases that several languages declare

The owners of aliases are collected in one pass over the languages. What comes out is said without that pass: an alias
is shared if at least two languages declare it in some case, its owners are those languages in table order, and the
aliases come in the order in which they are first declared. The first owner is the one that the outer region of every
host tries first.
-/

namespace TaggedGrammar.Grammar

/-- The aliases of all languages in lower case, in table order. -/
def lowered (languages : List Language) : List Text :=
  (allAliases languages).map Text.lower

/-- The languages that declare an alias in some case, in table order. -/
def declarers (label : Text) (languages : List Language) : List Language :=
  languages.filter fun l => label ∈ l.identifiers.map Text.lower

/-- The language whose rule an include leads to. -/
def owner? (languages : List Language) : Rule → Option Language
  | .include scope => languages.find? fun l => scope = "#" ++ ruleKey l
  | .matching _ => none

section Distinct

/-- A last text is kept if it is new. -/
lemma distinct_concat (texts : List Text) (t : Text) :
    distinct (texts ++ [t]) = if t ∈ distinct texts then distinct texts else distinct texts ++ [t] := by
  simp [distinct, List.foldl_append]

/-- No text gets lost. -/
lemma mem_distinct {texts : List Text} {t : Text} : t ∈ distinct texts ↔ t ∈ texts := by
  induction texts using List.reverseRecOn with
  | nil => rfl
  | append_singleton texts last ih =>
    rw [distinct_concat, List.mem_append, ← ih, List.mem_singleton]
    split
    next hlast =>
      refine ⟨.inl, ?_⟩
      rintro (h | rfl)
      · exact h
      · exact hlast
    next => rw [List.mem_append, List.mem_singleton]

/-- Texts behind others add those that are new. -/
lemma distinct_append (texts more : List Text) :
    distinct (texts ++ more) = distinct texts ++ (distinct more).filter (· ∉ texts) := by
  induction more using List.reverseRecOn with
  | nil => simp [distinct]
  | append_singleton more last ih =>
    rw [← List.append_assoc, distinct_concat, distinct_concat, ih]
    by_cases hmore : last ∈ distinct more
    · rw [if_pos hmore, if_pos]
      by_cases htexts : last ∈ texts
      · exact List.mem_append_left _ (mem_distinct.2 htexts)
      · exact List.mem_append_right _ (List.mem_filter.2 ⟨hmore, by simpa using htexts⟩)
    · rw [if_neg hmore, List.filter_append]
      by_cases htexts : last ∈ texts
      · rw [if_pos (List.mem_append_left _ (mem_distinct.2 htexts))]
        simp [htexts]
      · rw [if_neg, List.append_assoc]
        · simp [htexts]
        · simp [mem_distinct, htexts, mem_distinct.not.1 hmore]

/-- Texts without repetitions stand in the order of their first places. -/
lemma pairwise_distinct (texts : List Text) :
    (distinct texts).Pairwise fun a b => texts.idxOf a < texts.idxOf b := by
  induction texts using List.reverseRecOn with
  | nil => exact .nil
  | append_singleton texts last ih =>
    have before : (distinct texts).Pairwise fun a b => (texts ++ [last]).idxOf a < (texts ++ [last]).idxOf b := by
      refine ih.imp_of_mem fun ha hb hab => ?_
      rwa [List.idxOf_append_of_mem (mem_distinct.1 ha), List.idxOf_append_of_mem (mem_distinct.1 hb)]
    rw [distinct_concat]
    split
    next => exact before
    next hlast =>
      refine List.pairwise_append.2 ⟨before, List.pairwise_singleton _ _, fun a ha b hb => ?_⟩
      cases List.mem_singleton.1 hb
      have hnew := mem_distinct.not.1 hlast
      rw [List.idxOf_append_of_mem (mem_distinct.1 ha), List.idxOf_append_of_notMem hnew, List.idxOf_cons_self]
      exact Nat.lt_of_lt_of_le (List.idxOf_lt_length_of_mem (mem_distinct.1 ha)) (Nat.le_add_right _ _)

/-- No text is kept twice. -/
lemma nodup_distinct (texts : List Text) : (distinct texts).Nodup := by
  refine (pairwise_distinct texts).imp fun hab heq => ?_
  exact hab.ne (congrArg (texts.idxOf ·) heq)

end Distinct

section Owners

variable {name label : Text} {keys labels : List Text} {f : Text → List Text} {languages : List Language}

/-- One more owner of an alias; an alias without owners is put behind the others. -/
lemma addOwner_map (hkeys : keys.Nodup) (hf : label ∉ keys → f label = []) :
    addOwner name label (keys.map fun k => (k, f k)) =
      (if label ∈ keys then keys else keys ++ [label]).map fun k => (k, if k = label then f k ++ [name] else f k) := by
  induction keys with
  | nil => simp [addOwner, hf]
  | cons key rest ih =>
    obtain ⟨hkey, hrest⟩ := List.nodup_cons.1 hkeys
    rw [List.map_cons, addOwner]
    by_cases heq : key = label
    · subst heq
      -- no other key is this alias, so that the others keep their owners
      have others : rest.map (fun k => (k, f k)) = rest.map fun k => (k, if k = key then f k ++ [name] else f k) := by
        refine List.map_congr_left fun k hk => ?_
        rw [if_neg (ne_of_mem_of_not_mem hk hkey)]
      rw [if_pos rfl, if_pos List.mem_cons_self, List.map_cons, if_pos rfl, others]
    · have hmem : label ∈ key :: rest ↔ label ∈ rest := by simp [Ne.symm heq]
      rw [if_neg heq, ih hrest fun hnew => hf (mt hmem.1 hnew)]
      simp only [hmem]
      split <;> simp [heq]

/-- A language is added to the owners of all its aliases. -/
lemma foldl_addOwner (hkeys : keys.Nodup) (hlabels : labels.Nodup) (hf : ∀ k ∉ keys, f k = []) :
    labels.foldl (fun owners a => addOwner name a owners) (keys.map fun k => (k, f k)) =
      (keys ++ labels.filter (· ∉ keys)).map fun k => (k, if k ∈ labels then f k ++ [name] else f k) := by
  induction labels generalizing keys f with
  | nil => simp
  | cons label rest ih =>
    obtain ⟨hlabel, hrest⟩ := List.nodup_cons.1 hlabels
    have owners (k : Text) : (if k ∈ rest then (if k = label then f k ++ [name] else f k) ++ [name]
        else if k = label then f k ++ [name] else f k) = if k ∈ label :: rest then f k ++ [name] else f k := by
      by_cases heq : k = label
      · rw [if_neg (heq ▸ hlabel), if_pos heq, if_pos (heq ▸ List.mem_cons_self)]
      · simp only [List.mem_cons, heq, false_or, if_false]
    rw [List.foldl_cons, addOwner_map hkeys (hf label)]
    by_cases hmem : label ∈ keys
    · rw [if_pos hmem, ih hkeys hrest]
      · simp [owners, hmem]
      · intro k hk
        rw [if_neg (ne_of_mem_of_not_mem hmem hk).symm, hf k hk]
    · have hkeys' : (keys ++ [label]).Nodup := by
        rw [← List.concat_eq_append, List.nodup_concat]
        exact ⟨hmem, hkeys⟩
      have hfilter : rest.filter (· ∉ keys ++ [label]) = rest.filter (· ∉ keys) := by
        refine List.filter_congr fun k hk => ?_
        simp [ne_of_mem_of_not_mem hk hlabel]
      rw [if_neg hmem, ih hkeys' hrest, hfilter]
      · simp [owners, hmem]
      · intro k hk
        rw [List.mem_append, List.mem_singleton, not_or] at hk
        rw [if_neg hk.2, hf k hk.1]

/-- An alias that no language declares has no declarers. -/
lemma declarers_eq_nil (h : label ∉ lowered languages) : declarers label languages = [] := by
  refine List.filter_eq_nil_iff.2 fun l hl hlabel => h ?_
  obtain ⟨a, ha, rfl⟩ := List.mem_map.1 (of_decide_eq_true hlabel)
  exact List.mem_map_of_mem (List.mem_flatMap.2 ⟨l, hl, ha⟩)

/-- The pass over the languages finds the declaring languages of each alias. -/
lemma aliasOwners_eq (languages : List Language) :
    aliasOwners languages =
      (distinct (lowered languages)).map fun a => (a, (declarers a languages).map Language.name) := by
  induction languages using List.reverseRecOn with
  | nil => rfl
  | append_singleton languages l ih =>
    have step : aliasOwners (languages ++ [l]) = (distinct (l.identifiers.map Text.lower)).foldl
        (fun owners a => addOwner l.name a owners) (aliasOwners languages) := by
      simp only [aliasOwners, List.foldl_append, List.foldl_cons, List.foldl_nil]
    have aliases : lowered (languages ++ [l]) = lowered languages ++ l.identifiers.map Text.lower := by
      simp [lowered, allAliases]
    rw [step, ih, foldl_addOwner (nodup_distinct _) (nodup_distinct _), aliases, distinct_append]
    · simp only [mem_distinct]
      refine List.map_congr_left fun k _ => ?_
      have last : [l].filter (fun l => k ∈ l.identifiers.map Text.lower) =
          if k ∈ l.identifiers.map Text.lower then [l] else [] := by
        simp only [List.filter_cons, List.filter_nil, decide_eq_true_eq]
      rw [declarers, declarers, List.filter_append, List.map_append, last]
      split
      next => rfl
      next => rw [List.map_nil, List.append_nil]
    · intro k hk
      rw [declarers_eq_nil (mem_distinct.not.1 hk), List.map_nil]

/-- A shared alias has more than one declaring language. -/
lemma sharedAliases_eq (languages : List Language) :
    sharedAliases languages = ((distinct (lowered languages)).filter fun a => 1 < (declarers a languages).length).map
      fun a => (a, (declarers a languages).map Language.name) := by
  rw [sharedAliases, aliasOwners_eq, List.filter_map]
  congr 2
  funext a
  simp

/-- A shared alias has two declarers, and all of them are named. -/
lemma mem_sharedAliases {names : List Text} :
    (label, names) ∈ sharedAliases languages ↔
      2 ≤ (declarers label languages).length ∧ names = (declarers label languages).map Language.name := by
  rw [sharedAliases_eq, List.mem_map]
  simp only [List.mem_filter, decide_eq_true_eq, Prod.mk.injEq]
  constructor
  · rintro ⟨a, ⟨-, hshared⟩, rfl, rfl⟩
    exact ⟨hshared, rfl⟩
  · rintro ⟨hshared, rfl⟩
    refine ⟨label, ⟨mem_distinct.2 ?_, hshared⟩, rfl, rfl⟩
    by_contra hnew
    rw [declarers_eq_nil hnew] at hshared
    cases hshared

/-- Shared aliases come in the order of their first declaration. -/
lemma pairwise_sharedAliases (languages : List Language) : ((sharedAliases languages).map Prod.fst).Pairwise
    fun a b => (lowered languages).idxOf a < (lowered languages).idxOf b := by
  have keys : (sharedAliases languages).map Prod.fst =
      (distinct (lowered languages)).filter fun a => 1 < (declarers a languages).length := by
    rw [sharedAliases_eq, List.map_map]
    exact List.map_id _
  rw [keys]
  exact (pairwise_distinct _).sublist List.filter_sublist

end Owners

section Warnings

open Outcome

variable {host : Host} {hosts : List Host} {languages : List Language}

/-- What is told while grammars are built is told for debugging. -/
def IsDebug (n : Notice) : Prop :=
  n.level = .debug

/-- Nothing is told while a region is built from its shape. -/
lemma notes_regionOf {shape : Boundary} {aliases : List Text} {name contentName : Option Text} {rules : List Rule}
    {P : Notice → Prop} : Notes P (regionOf shape aliases name contentName rules) := by
  by_cases short : shape.IsShort
  · rw [regionOf_of_isShort short]
    exact List.forall_mem_nil _
  · rw [regionOf_of_not_isShort short]
    exact List.forall_mem_nil _

/-- The repository is built without a warning. -/
lemma notes_buildRepository {done : List (Text × Region)} : Notes IsDebug (buildRepository host done languages) := by
  induction languages generalizing done with
  | nil => exact List.forall_mem_nil _
  | cons l rest ih =>
    rw [buildRepository]
    split
    next => exact List.forall_mem_nil _
    next =>
      have told : Notes IsDebug (buildRegion host l) := by
        refine Notes.bind (List.forall_mem_singleton.2 rfl) fun _ => ?_
        exact notes_regionOf
      exact told.bind fun region => ih

/-- So are all documents. -/
lemma notes_filesOfHosts : Notes IsDebug (filesOfHosts languages hosts) := by
  induction hosts with
  | nil => exact List.forall_mem_nil _
  | cons host rest ih =>
    have own : Notes IsDebug (hostFiles host languages) := by
      refine Notes.bind ?_ fun basic => List.forall_mem_nil _
      refine notes_buildRepository.bind fun repository => ?_
      refine Notes.bind (List.forall_mem_singleton.2 rfl) fun _ => ?_
      exact notes_regionOf.bind fun outer => List.forall_mem_nil _
    exact own.bind fun files => ih.bind fun others => List.forall_mem_nil _

/-- Checked tables are warned of each shared alias once, whatever their hosts are. -/
lemma warnings_generate (hlanguages : Table.checkLanguages languages = .ok ())
    (hhosts : Table.checkHosts hosts = .ok ()) :
    (generate languages hosts).notices.filter (·.level = .warning) =
      (sharedAliases languages).map fun e => .sharedAlias e.1 e.2 := by
  have notices : (generate languages hosts).notices =
      aliasWarnings languages ++ (filesOfHosts languages hosts).notices := by
    rw [generate, hlanguages, hhosts]
    rfl
  have silent : (filesOfHosts languages hosts).notices.filter (·.level = .warning) = [] := by
    refine List.filter_eq_nil_iff.2 fun n hn => ?_
    rw [notes_filesOfHosts n hn]
    exact Bool.false_ne_true
  have loud : (aliasWarnings languages).filter (·.level = .warning) = aliasWarnings languages := by
    refine List.filter_eq_self.2 fun n hn => ?_
    obtain ⟨e, -, rfl⟩ := List.mem_map.1 hn
    rfl
  rw [notices, List.filter_append, silent, loud, List.append_nil, aliasWarnings]

/-- The includes of an outer region lead to the languages in table order. -/
lemma filterMap_owner? (different : (languages.map Language.name).Nodup) :
    (outerRegion host languages).rules.filterMap (owner? languages) = languages := by
  have own : ∀ l ∈ languages, owner? languages (.include ("#" ++ ruleKey l)) = some l := by
    intro l hl
    rw [owner?]
    cases hfind : languages.find? fun l' => ("#" ++ ruleKey l : Text) = "#" ++ ruleKey l' with
    | none => simpa using List.find?_eq_none.1 hfind l hl
    | some l' =>
      have hkey : ruleKey l = ruleKey l' := by simpa using List.find?_some hfind
      rw [List.inj_on_of_nodup_map different hl (List.mem_of_find?_eq_some hfind) (ruleKey_injective hkey)]
  rw [outerRegion, shapeRegion, List.filterMap_map]
  exact (List.filterMap_congr own).trans List.filterMap_some

/-- The warning of a shared alias names its first declaring language. -/
lemma message_sharedAlias (label : Text) (first : Language) (others : List Language) :
    (Notice.sharedAlias label ((first :: others).map Language.name)).message =
      "Alias '" ++ label ++ "' is declared by " ++ Text.join ", " ((first :: others).map Language.name) ++ "; '" ++
        first.name ++ "' takes precedence" :=
  rfl

end Warnings

/-- An alias is shared if and only if at least two languages of the table declare it in some case; its owners are these
languages in table order, and the aliases come in the order of their first declaration. If the tables pass, there is
one warning for each shared alias in that order, whether or not the documents can be built. In every basic grammar that
is built, which is a document of the run if this one succeeds, the language that has precedence is that of the first
include in the outer region whose language declares the alias. -/
theorem shared_aliases_are_told (languages : List Language) :
    (∀ label names, (label, names) ∈ sharedAliases languages ↔
      2 ≤ (declarers label languages).length ∧ names = (declarers label languages).map Language.name) ∧
    ((sharedAliases languages).map Prod.fst).Pairwise
      (fun a b => (lowered languages).idxOf a < (lowered languages).idxOf b) ∧
    ∀ hosts, Table.checkLanguages languages = .ok () → Table.checkHosts hosts = .ok () →
      (generate languages hosts).notices.filter (·.level = .warning) =
        (sharedAliases languages).map (fun e => .sharedAlias e.1 e.2) ∧
      ∀ label names, (label, names) ∈ sharedAliases languages → ∃ first,
        (Notice.sharedAlias label names).message = "Alias '" ++ label ++ "' is declared by " ++
          Text.join ", " names ++ "; '" ++ first.name ++ "' takes precedence" ∧
        ∀ host ∈ hosts, ((∃ g, (buildBasic host languages).result = .ok g) ↔ host.IsShort) ∧
          ∀ g, (buildBasic host languages).result = .ok g →
            (∀ files, (generate languages hosts).result = .ok files → ⟨grammarFile host.name, g.render⟩ ∈ files) ∧
            (g.outer.rules.filterMap (owner? languages)).find? (fun l => label ∈ l.identifiers.map Text.lower) =
              some first := by
  refine ⟨fun _ _ => mem_sharedAliases, pairwise_sharedAliases languages, fun hosts hlanguages hhosts => ?_⟩
  refine ⟨warnings_generate hlanguages hhosts, fun label names hshared => ?_⟩
  obtain ⟨htwo, rfl⟩ := mem_sharedAliases.1 hshared
  obtain ⟨hne, -, different⟩ := Table.checkLanguages_eq_ok.1 hlanguages
  cases hdeclarers : declarers label languages with
  | nil =>
    rw [hdeclarers] at htwo
    cases htwo
  | cons first others =>
    refine ⟨first, message_sharedAlias label first others, fun host hhost => ?_⟩
    refine ⟨exists_buildBasic_iff hne different, fun g built => ?_⟩
    obtain ⟨-, -, rfl⟩ := buildBasic_eq_ok.1 built
    refine ⟨fun files generated => ?_, ?_⟩
    · obtain ⟨-, rfl⟩ := (generate_eq_ok_of_checked hlanguages hhosts).1 generated
      exact List.mem_flatMap.2 ⟨host, hhost, List.mem_cons_self⟩
    · show ((outerRegion host languages).rules.filterMap (owner? languages)).find? _ = some first
      rw [filterMap_owner? different, ← List.head?_filter]
      exact congrArg List.head? hdeclarers

section Sample

/-- Three languages that share two aliases, the first one with both cases of one. -/
def sharingLanguages : List Language :=
  [{ name := "a", identifiers := [Text.ofString "X", Text.ofString "x"], source := .one "s" },
    { name := "b", identifiers := [Text.ofString "y"], source := .one "s" },
    { name := "c", identifiers := [Text.ofString "Y", Text.ofString "x"], source := .one "s" }]

/-- Two hosts get one warning for each of two aliases, and the include of the first declaring language comes first in
both. -/
theorem two_shared_aliases_are_told :
    let hosts := [slotHost "h" [Text.ofString "t"] [], slotHost "k" [Text.ofString "t"] []]
    Table.checkLanguages sharingLanguages = .ok () ∧ Table.checkHosts hosts = .ok () ∧
      (generate sharingLanguages hosts).notices.filter (·.level = .warning) =
        [.sharedAlias "x" [Text.ofString "a", Text.ofString "c"],
          .sharedAlias "y" [Text.ofString "b", Text.ofString "c"]] ∧
      ∃ first, (Notice.sharedAlias "y" [Text.ofString "b", Text.ofString "c"]).message =
          "Alias 'y' is declared by b, c; '" ++ first.name ++ "' takes precedence" ∧
        ∀ host ∈ hosts, ∃ g, (buildBasic host sharingLanguages).result = .ok g ∧
          (g.outer.rules.filterMap (owner? sharingLanguages)).find?
            (fun l => Text.ofString "y" ∈ l.identifiers.map Text.lower) = some first := by
  intro hosts
  have hlanguages : Table.checkLanguages sharingLanguages = .ok () := by decide
  have hhosts : Table.checkHosts hosts = .ok () := by decide
  have shared : sharedAliases sharingLanguages =
      [(Text.ofString "x", [Text.ofString "a", Text.ofString "c"]),
        (Text.ofString "y", [Text.ofString "b", Text.ofString "c"])] := by decide
  obtain ⟨warnings, told⟩ := (shared_aliases_are_told sharingLanguages).2.2 hosts hlanguages hhosts
  obtain ⟨first, message, includes⟩ := told "y" [Text.ofString "b", Text.ofString "c"] (by simp [shared])
  refine ⟨hlanguages, hhosts, ?_, first, message, fun host hhost => ?_⟩
  · rw [warnings, shared]
    rfl
  · have short : host.IsShort := by
      simp only [hosts, List.mem_cons, List.not_mem_nil, or_false] at hhost
      rcases hhost with rfl | rfl
      · exact isShort_slotHost.2 (List.forall_mem_nil _)
      · exact isShort_slotHost.2 (List.forall_mem_nil _)
    obtain ⟨builds, found⟩ := includes host hhost
    obtain ⟨g, built⟩ := builds.2 short
    exact ⟨g, built, (found g built).2⟩

end Sample

end TaggedGrammar.Grammar
