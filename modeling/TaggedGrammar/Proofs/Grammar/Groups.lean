import TaggedGrammar.Proofs.Decimal.Reading
import TaggedGrammar.Proofs.Grammar.Document
import TaggedGrammar.Proofs.Hint.Mappings

/-!
# Groups by number

The groups of a mapping are written in the order of their numbers, not in that of the texts of these numbers. Nothing
is lost: the groups are read back from the texts, and different numbers have different texts.
-/

namespace TaggedGrammar.Grammar

/-- The groups that are read from the texts of their numbers. -/
def readGroups? (scopes : GroupScopes) : Option Captures :=
  scopes.mapM fun e => (wholeNumber? e.1).map fun n => (n, e.2)

/-- The groups in the order of their numbers. -/
abbrev sorted (c : Captures) : Captures :=
  c.mergeSort fun a b => a.1 ≤ b.1

variable {c : Captures}

/-- A number is told by its digits. -/
lemma numberText_injective : Function.Injective fun n : Int => Text.ofString (toString n) := by
  intro n n' heq
  have letters : (toString n).toList = (toString n').toList :=
    List.map_injective_iff.2 (fun _ _ h => Letter.char.inj h) heq
  exact Int.repr_injective (String.toList_injective letters)

/-- Groups are read back from their digits. -/
lemma readGroups?_map (short : c.IsShort) :
    readGroups? (c.map fun e => (Text.ofString (toString e.1), e.2)) = some c := by
  induction c with
  | nil => rfl
  | cons e rest ih =>
    obtain ⟨first, others⟩ := List.forall_mem_cons.1 short
    have behind := ih others
    rw [readGroups?] at behind ⊢
    rw [List.map_cons, List.mapM_cons, wholeNumber?_toString first, behind]
    rfl

/-- The scopes by number are those of the captures. -/
lemma mem_scopesByNumber {k : Int} {scope : Text} :
    (Text.ofString (toString k), scope) ∈ scopesByNumber c ↔ (k, scope) ∈ c := by
  rw [scopesByNumber, List.mem_map]
  constructor
  · rintro ⟨e, he, heq⟩
    obtain ⟨hkey, rfl⟩ := Prod.mk.inj heq
    obtain rfl := numberText_injective hkey
    exact List.mem_mergeSort.1 he
  · intro hk
    exact ⟨(k, scope), List.mem_mergeSort.2 hk, rfl⟩

/-- Sorting loses nothing. -/
lemma perm_sorted (c : Captures) : (sorted c).Perm c :=
  List.mergeSort_perm c _

/-- In a mapping no two numbers are the same, so the order is strict. -/
lemma increasing_sorted (mapping : c.IsMapping) : (sorted c).Pairwise fun a b => a.1 < b.1 := by
  have different : (sorted c).Pairwise fun a b => a.1 ≠ b.1 :=
    List.pairwise_map.1 (((perm_sorted c).map Prod.fst).nodup_iff.2 mapping)
  exact ((pairwise_sorted c).and different).imp fun h => lt_of_le_of_ne h.1 h.2

/-- Captures with different numbers give different keys. -/
lemma nodup_keys_scopesByNumber (mapping : c.IsMapping) : ((scopesByNumber c).map Prod.fst).Nodup := by
  have keys : (scopesByNumber c).map Prod.fst =
      ((sorted c).map Prod.fst).map fun n => Text.ofString (toString n) := by
    rw [scopesByNumber, List.map_map, List.map_map]
    rfl
  rw [keys]
  exact (((perm_sorted c).map Prod.fst).nodup_iff.2 mapping).map numberText_injective

/-- Among different keys what is found is what is there. -/
lemma lookup_eq_some_iff_mem {α β : Type} [BEq α] [LawfulBEq α] {entries : List (α × β)} {key : α} {value : β}
    (different : (entries.map Prod.fst).Nodup) : entries.lookup key = some value ↔ (key, value) ∈ entries := by
  induction entries with
  | nil => simp
  | cons e rest ih =>
    rw [List.map_cons, List.nodup_cons] at different
    obtain ⟨hnew, hrest⟩ := different
    rw [List.lookup_cons, List.mem_cons, ← ih hrest]
    split
    next hkey =>
      -- the first entry has the key, so no later one has it
      obtain rfl := eq_of_beq hkey
      have absent : rest.lookup e.1 ≠ some value := fun found =>
        hnew (List.mem_map.2 ⟨_, (ih hrest).1 found, rfl⟩)
      simp [absent, Prod.ext_iff, eq_comm]
    next hkey =>
      have other : key ≠ e.1 := ne_of_beq_false hkey
      simp [other, Prod.ext_iff]

/-- A scope is found under the text of a number if it is there under the number. -/
lemma lookup_scopesByNumber (mapping : c.IsMapping) (k : Int) :
    (scopesByNumber c).lookup (Text.ofString (toString k)) = c.lookup k := by
  apply Option.ext
  intro scope
  rw [lookup_eq_some_iff_mem (nodup_keys_scopesByNumber mapping), lookup_eq_some_iff_mem mapping, mem_scopesByNumber]

/-- Groups that are written alike are the same, since different numbers have different texts. -/
lemma perm_of_groupScopes_eq {c' : Captures} (short : c.IsShort) (h : groupScopes c' = groupScopes c) :
    c'.Perm c := by
  have written := groupScopes_of_isShort short
  have short' : c'.IsShort := by
    by_contra long
    cases (groupScopes_of_not_isShort long).symm.trans (h.trans written)
  have alike : scopesByNumber c' = scopesByNumber c := by
    have results := congrArg Outcome.result ((groupScopes_of_isShort short').symm.trans (h.trans written))
    exact Except.ok.inj results
  have same : sorted c' = sorted c := by
    refine List.map_injective_iff.2 (fun e e' heq => ?_) alike
    obtain ⟨hkey, hscope⟩ := Prod.mk.inj heq
    exact Prod.ext (numberText_injective hkey) hscope
  exact (perm_sorted c').symm.trans (same ▸ perm_sorted c)

/-- The groups of a mapping can be written if their numbers can be displayed. Each of them is then written once, under a
text of its own. The groups are read back with strictly increasing numbers, and each number has the scope that it had.
Mappings are written alike if and only if they have the same groups, whatever the order in which these were put in. -/
theorem groups_are_written_by_number (mapping : c.IsMapping) (short : c.IsShort) :
    ∃ scopes, groupScopes c = .ok scopes ∧ scopes.length = c.length ∧ (scopes.map Prod.fst).Nodup ∧
      (∃ groups, readGroups? scopes = some groups ∧ groups.Pairwise (fun a b => a.1 < b.1) ∧ groups.Perm c) ∧
      (∀ k, scopes.lookup (Text.ofString (toString k)) = c.lookup k) ∧
      ∀ c' : Captures, c'.IsMapping → (groupScopes c' = groupScopes c ↔ c'.Perm c) := by
  have read : readGroups? (scopesByNumber c) = some (sorted c) := readGroups?_map (isShort_mergeSort.2 short)
  refine ⟨_, groupScopes_of_isShort short, ?_, nodup_keys_scopesByNumber mapping,
    ⟨_, read, increasing_sorted mapping, perm_sorted c⟩, lookup_scopesByNumber mapping, fun c' mapping' => ?_⟩
  · rw [scopesByNumber, List.length_map, List.length_mergeSort]
  · exact ⟨perm_of_groupScopes_eq short, fun same => groupScopes_eq_of_perm same mapping'⟩

section Sample

/-- Groups whose numbers have another order as texts. -/
def scatteredGroups : Captures :=
  [(10, "a"), (-10, "b"), (9, "c"), (-9, "b"), (100000000000000000000, "d")]

/-- Nine stands before ten and minus ten before minus nine, in whatever order they were put in. -/
theorem scattered_groups_are_written_by_number :
    scatteredGroups.IsMapping ∧ scatteredGroups.IsShort ∧
      groupScopes scatteredGroups.reverse = groupScopes scatteredGroups ∧
      ∃ scopes, groupScopes scatteredGroups = .ok scopes ∧
        (∃ groups, readGroups? scopes = some groups ∧ groups.Perm scatteredGroups ∧
          groups.Pairwise fun a b => a.1 < b.1) ∧
        scopes.lookup (Text.ofString "-9") = some (Text.ofString "b") := by
  have mapping : scatteredGroups.IsMapping := by
    unfold Captures.IsMapping
    decide
  have small : ∀ e ∈ scatteredGroups, e.1.natAbs < 10 ^ 21 := by decide
  have short : scatteredGroups.IsShort := fun e he =>
    (small e he).trans_le (Nat.pow_le_pow_right (by decide) (by decide))
  have reversed : scatteredGroups.reverse.Perm scatteredGroups := scatteredGroups.reverse_perm
  obtain ⟨scopes, written, -, -, ⟨groups, read, increasing, same⟩, found, alike⟩ :=
    groups_are_written_by_number mapping short
  have scope : scatteredGroups.lookup (-9) = some (Text.ofString "b") := by decide
  exact ⟨mapping, short, (alike _ ((reversed.map Prod.fst).nodup_iff.2 mapping)).2 reversed, scopes, written,
    ⟨groups, read, same, increasing⟩, (found (-9)).trans scope⟩

end Sample

end TaggedGrammar.Grammar
