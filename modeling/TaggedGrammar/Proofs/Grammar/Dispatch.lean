import TaggedGrammar.Proofs.Grammar.Document
import TaggedGrammar.Proofs.Pattern

/-!
# The outer region and the rules that it leads to

The rules, the includes of the outer region and the union of all aliases are made in three passes over the
languages. They fit together: each include names a rule, each rule is included, and the union has the
alternatives of the rules in their order.
-/

namespace TaggedGrammar.Grammar

open Pattern

variable {host : Host} {languages : List Language}

/-- The parts of a basic grammar belong to the languages, one by one and in order. -/
structure Dispatches (host : Host) (languages : List Language) (g : Basic) : Prop where
  keys : g.repository.map Prod.fst = languages.map fun l => Text.ofString "commentTaggedTemplate-" ++ l.name
  keysDiffer : (g.repository.map Prod.fst).Nodup
  regions : List.Forall₂ (fun l e => (buildRegion host l).result = .ok e.2) languages g.repository
  rules : List.Forall₂ (fun l e => e.2.rules = l.sources.map Rule.include ++ [.matching "."]) languages g.repository
  includes : g.outer.rules = g.repository.map fun e => .include ("#" ++ e.1)
  opening : g.outer.opening = fill host.dispatch.opening (union (languages.flatMap Language.identifiers))
  openings : List.Forall₂ (fun l e => e.2.opening = fill host.tagged.opening (union l.identifiers)) languages
    g.repository

/-- Each part of a basic grammar that is built belongs to its language. -/
lemma dispatches_basicOf (h : (languages.map Language.name).Nodup) (displays : DisplaysGroups host languages) :
    Dispatches host languages (basicOf host languages) where
  keys := List.map_map
  keysDiffer := by
    have keys : ((languages.map (namedRule host)).map Prod.fst) =
        (languages.map Language.name).map fun name => Text.ofString "commentTaggedTemplate-" ++ name := by
      simp only [List.map_map]
      rfl
    rw [basicOf, keys]
    exact h.map fun name name' heq => List.append_cancel_left heq
  regions := by
    refine List.forall₂_map_right_iff.2 (List.forall₂_same.2 fun l hl => ?_)
    exact result_buildRegion (displays.tagged (List.ne_nil_of_mem hl)) l
  rules := List.forall₂_map_right_iff.2 (List.forall₂_same.2 fun _ _ => rfl)
  includes := by
    rw [basicOf, List.map_map]
    rfl
  opening := rfl
  openings := List.forall₂_map_right_iff.2 (List.forall₂_same.2 fun _ _ => rfl)

/-- A union of the aliases of languages that have some is cut into their alternatives. -/
lemma alternatives_union_flatMap (hne : languages ≠ []) (h : ∀ l ∈ languages, l.identifiers ≠ []) :
    alternatives (union (languages.flatMap Language.identifiers)) =
      languages.flatMap fun l => alternatives (union l.identifiers) := by
  have read {aliases : List Text} (haliases : aliases ≠ []) : alternatives (union aliases) = aliases := by
    obtain ⟨a, rest, rfl⟩ := List.exists_cons_of_ne_nil haliases
    exact alternatives_union a rest
  have all : languages.flatMap Language.identifiers ≠ [] := by
    obtain ⟨l, hl⟩ := List.exists_mem_of_ne_nil languages hne
    intro hnil
    exact h l hl (List.flatMap_eq_nil_iff.1 hnil l hl)
  rw [read all]
  exact List.flatMap_congr fun l hl => (read (h l hl)).symm

section Sample

/-- A language with an alias that holds a bar, and a blank one. -/
def barAlias : Language :=
  { name := "a", identifiers := [Text.ofString "b|c", []], source := .many [Text.ofString "s"] }

/-- A language with one alias and no scope. -/
def oneSlash : Language := { name := "b", identifiers := [Text.ofString "\\"], source := .many [] }

/-- A host without a name, without scopes and without groups. -/
def bareHost : Host :=
  slotHost [] [] []

/-- A host without groups has no number that is too long. -/
lemma isShort_bareHost : bareHost.IsShort :=
  isShort_slotHost.2 (List.forall_mem_nil _)

end Sample

end TaggedGrammar.Grammar
