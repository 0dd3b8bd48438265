import TaggedGrammar.Proofs.Outcomes
import TaggedGrammar.Proofs.Pattern
import TaggedGrammar.Proofs.Value.Display
import TaggedGrammar.Table.Parse

/-!
# What a checked table is

The conditions that the checks of tables stand for, without an order among them. A checked host may still have a group
number that is too long to be displayed; hosts without such a number are short.
-/

namespace TaggedGrammar

/-- A language with a name, aliases and scopes, none of them blank. -/
structure Language.WellFormed (l : Language) : Prop where
  name : Text.isBlank l.name = false
  identifiers : l.identifiers ≠ []
  identifier : ∀ a ∈ l.identifiers, Text.isBlank a = false
  sources : l.sources ≠ []
  source : ∀ scope ∈ l.sources, Text.isBlank scope = false

/-- A region shape with a place for the aliases and an end. -/
structure Boundary.WellFormed (b : Boundary) : Prop where
  slot : Text.ofString aliasSlot <:+: b.opening
  closing : b.closing ≠ []

/-- A host with target scopes, well-formed regions, and a name that stays in its directory as part of a file name. -/
structure Host.WellFormed (h : Host) : Prop where
  name : Text.isBlank h.name = false
  slash : .char '/' ∉ h.name
  backslash : .char '\\' ∉ h.name
  points : ¬Text.ofString ".." <:+: h.name
  targetScopes : h.targetScopes ≠ []
  tagged : h.tagged.WellFormed
  dispatch : h.dispatch.WellFormed

/-- All group numbers can be displayed. -/
def Captures.IsShort (c : Captures) : Prop :=
  ∀ e ∈ c, Value.IsShort e.1

/-- A region shape in which all group numbers can be displayed. -/
structure Boundary.IsShort (b : Boundary) : Prop where
  openingCaptures : b.openingCaptures.IsShort
  closingCaptures : ∀ c ∈ b.closingCaptures, Captures.IsShort c

/-- A host in whose shapes all group numbers can be displayed. -/
structure Host.IsShort (host : Host) : Prop where
  tagged : host.tagged.IsShort
  dispatch : host.dispatch.IsShort

namespace Table

/-- A check passes as a part of a run if it passes by itself. -/
lemma checked_eq_ok {r : Except TableError Unit} {u : Unit} : (checked r).result = .ok u ↔ r = .ok () := by
  cases r <;> simp [checked]

/-- A check that fails in a run tells a problem of the table. -/
lemma checked_eq_error {r : Except TableError Unit} {f : Fault} :
    (checked r).result = .error f ↔ ∃ e, r = .error e ∧ f = .table e := by
  cases r <;> simp [checked, eq_comm]

/-- Aliases pass if none of them is blank. -/
lemma checkAliases_eq_ok {path : List Text} {j : Nat} {aliases : List Text} :
    checkAliases path j aliases = .ok () ↔ ∀ a ∈ aliases, Text.isBlank a = false := by
  induction aliases generalizing j with
  | nil => simp [checkAliases]
  | cons a rest ih =>
    unfold checkAliases
    split
    · next hblank => simp [reject, hblank]
    · next hblank => simp [ih, hblank]

/-- A name is not found if it is none of the keys. -/
lemma lookup_eq_none {name : Text} {seen : List (Text × Nat)} :
    seen.lookup name = none ↔ name ∉ seen.map Prod.fst := by
  simp only [List.lookup_eq_none_iff, bne_iff_ne, List.mem_map, not_exists, not_and]
  exact forall₂_congr fun _ _ => ne_comm

/-- A language passes if it is well-formed and its name is new. -/
lemma checkLanguage_eq_ok {seen : List (Text × Nat)} {i : Nat} {l : Language} :
    checkLanguage seen i l = .ok () ↔ l.WellFormed ∧ l.name ∉ seen.map Prod.fst := by
  rw [← lookup_eq_none]
  unfold checkLanguage
  constructor
  · intro h
    dsimp only at h
    split at h
    · cases h
    next hname =>
    split at h
    · cases h
    next hseen =>
    split at h
    · cases h
    next hidentifiers =>
    split at h
    · cases h
    next haliases =>
    split at h
    · cases h
    next hsources =>
    simp only [Bool.or_eq_true, not_or, List.any_eq_true, not_exists, not_and, Bool.not_eq_true,
      List.isEmpty_iff] at hname hidentifiers hsources
    exact ⟨⟨hname, hidentifiers, checkAliases_eq_ok.1 haliases, hsources.1, hsources.2⟩, hseen⟩
  · rintro ⟨wellFormed, hseen⟩
    have hscopes : (l.sources.isEmpty || l.sources.any Text.isBlank) = false := by
      simp only [Bool.or_eq_false_iff, List.isEmpty_eq_false_iff, List.any_eq_false, Bool.not_eq_true]
      exact ⟨wellFormed.sources, wellFormed.source⟩
    simp only [wellFormed.name, hseen, List.isEmpty_eq_false_iff.2 wellFormed.identifiers,
      checkAliases_eq_ok.2 wellFormed.identifier, hscopes, Bool.false_eq_true, if_false]

/-- Languages pass behind others if all are well-formed and all names are new. -/
lemma checkLanguagesFrom_eq_ok {seen : List (Text × Nat)} {i : Nat} {languages : List Language} :
    checkLanguagesFrom seen i languages = .ok () ↔
      (∀ l ∈ languages, l.WellFormed) ∧ (seen.map Prod.fst).Disjoint (languages.map Language.name) ∧
        (languages.map Language.name).Nodup := by
  -- the names seen so far carry the condition that names differ
  induction languages generalizing seen i with
  | nil => simp [checkLanguagesFrom]
  | cons l rest ih =>
    unfold checkLanguagesFrom
    cases hl : checkLanguage seen i l with
    | error e =>
      simp only [reduceCtorEq, false_iff]
      rintro ⟨wellFormed, disjoint, -⟩
      have hok : checkLanguage seen i l = .ok () := by
        refine checkLanguage_eq_ok.2 ⟨wellFormed l (by simp), fun hseen => disjoint hseen (by simp)⟩
      rw [hok] at hl
      cases hl
    | ok _ =>
      obtain ⟨wellFormed, hseen⟩ := checkLanguage_eq_ok.1 hl
      simp only [ih, List.forall_mem_cons, List.map_append, List.map_cons, List.map_nil, List.nodup_cons,
        List.disjoint_append_left, List.disjoint_cons_right, List.singleton_disjoint]
      tauto

/-- A language table passes if its languages are well formed and have different names. -/
lemma checkLanguages_eq_ok {languages : List Language} :
    checkLanguages languages = .ok () ↔
      languages ≠ [] ∧ (∀ l ∈ languages, l.WellFormed) ∧ (languages.map Language.name).Nodup := by
  unfold checkLanguages
  cases languages with
  | nil => simp [reject]
  | cons l rest => simp [checkLanguagesFrom_eq_ok]

/-- A region shape passes if it is well-formed. -/
lemma checkBoundary_eq_ok {path : List Text} {b : Boundary} : checkBoundary path b = .ok () ↔ b.WellFormed := by
  unfold checkBoundary
  constructor
  · intro h
    split at h
    · cases h
    next hslot =>
    split at h
    · cases h
    next hclosing =>
    simp only [Bool.not_eq_true', Bool.not_eq_false, List.isEmpty_iff] at hslot hclosing
    exact ⟨Pattern.hasSlot_iff.1 hslot, hclosing⟩
  · rintro ⟨slot, closing⟩
    have hslot : Pattern.hasSlot b.opening := Pattern.hasSlot_iff.2 slot
    simp [hslot, closing]

/-- The search for two points finds them anywhere in a name. -/
lemma hasTwoPoints_iff {name : Text} : hasTwoPoints name ↔ Text.ofString ".." <:+: name := by
  fun_induction hasTwoPoints name with
  | case1 rest => exact iff_of_true rfl ⟨[], rest, rfl⟩
  | case2 l rest hne ih =>
    rw [ih, List.infix_cons_iff]
    refine ⟨.inr, ?_⟩
    rintro (⟨behind, heq⟩ | hrest)
    · cases heq
      exact absurd rfl (hne behind rfl)
    · exact hrest
  | case3 => simp [Text.ofString, Text.ofChars]

/-- A name is safe if it has no slash of either kind and no two points. -/
lemma isUnsafeName_eq_false {name : Text} :
    isUnsafeName name = false ↔
      .char '/' ∉ name ∧ .char '\\' ∉ name ∧ ¬Text.ofString ".." <:+: name := by
  rw [← hasTwoPoints_iff]
  simp [isUnsafeName, and_assoc]

/-- A host passes if it is well-formed. -/
lemma checkHost_eq_ok {host : Host} : checkHost host = .ok () ↔ host.WellFormed := by
  unfold checkHost
  constructor
  · intro h
    dsimp only at h
    split at h
    · cases h
    next hname =>
    split at h
    · cases h
    next hsafe =>
    split at h
    · cases h
    next hscopes =>
    split at h
    · cases h
    next htagged =>
    simp only [Bool.not_eq_true, List.isEmpty_iff] at hname hsafe hscopes
    obtain ⟨slash, backslash, points⟩ := isUnsafeName_eq_false.1 hsafe
    exact ⟨hname, slash, backslash, points, hscopes, checkBoundary_eq_ok.1 htagged, checkBoundary_eq_ok.1 h⟩
  · rintro ⟨name, slash, backslash, points, targetScopes, tagged, dispatch⟩
    have hsafe := isUnsafeName_eq_false.2 ⟨slash, backslash, points⟩
    simp only [name, hsafe, List.isEmpty_eq_false_iff.2 targetScopes, checkBoundary_eq_ok.2 tagged,
      checkBoundary_eq_ok.2 dispatch, Bool.false_eq_true, if_false]

/-- Hosts are checked one by one, and none depends on another. -/
lemma checkEachHost_eq_ok {hosts : List Host} :
    checkEachHost hosts = .ok () ↔ ∀ host ∈ hosts, checkHost host = .ok () := by
  induction hosts with
  | nil => simp [checkEachHost]
  | cons host rest ih =>
    unfold checkEachHost
    cases hcheck : checkHost host with
    | error e => simp [hcheck]
    | ok _ => simp [hcheck, ih]

/-- A host table passes if it is not empty and each host passes. -/
lemma checkHosts_eq_ok {hosts : List Host} :
    checkHosts hosts = .ok () ↔ hosts ≠ [] ∧ ∀ host ∈ hosts, checkHost host = .ok () := by
  unfold checkHosts
  cases hosts with
  | nil => simp [reject]
  | cons host rest => simp [checkEachHost_eq_ok]

/-- The shape of a host that was checked has a slot. -/
lemma hasSlot_of_checkHost {host : Host} (h : checkHost host = .ok ()) : Pattern.hasSlot host.tagged.opening :=
  Pattern.hasSlot_iff.2 (checkHost_eq_ok.1 h).tagged.slot

end Table

section Sample

/-- A region shape that is a single slot, with some groups. -/
def slotShape (groups : Captures) : Boundary :=
  { opening := aliasSlot, closing := "e", openingCaptures := groups }

/-- A host whose shapes are single slots. The rules of its languages have some groups. -/
def slotHost (name : Text) (scopes : List Text) (groups : Captures) : Host :=
  { name, targetScopes := scopes, tagged := slotShape groups, dispatch := slotShape [] }

/-- A shape with a slot for the aliases is well-formed. -/
lemma slotShape_wellFormed (groups : Captures) : (slotShape groups).WellFormed :=
  ⟨⟨[], [], rfl⟩, by simp [slotShape, Text.ofString, Text.ofChars]⟩

/-- Its groups are all that matters for the length of the numbers. -/
lemma isShort_slotHost {name : Text} {scopes : List Text} {groups : Captures} :
    (slotHost name scopes groups).IsShort ↔ groups.IsShort :=
  ⟨fun h => h.tagged.openingCaptures, fun h => ⟨⟨h, nofun⟩, ⟨List.forall_mem_nil _, nofun⟩⟩⟩

end Sample

end TaggedGrammar
