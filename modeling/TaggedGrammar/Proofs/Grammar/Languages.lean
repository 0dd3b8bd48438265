import TaggedGrammar.Proofs.Grammar.Document
import TaggedGrammar.Proofs.Output.Check
import TaggedGrammar.Proofs.Pattern
import TaggedGrammar.Proofs.Table.Check

/-!
# A basic grammar shows its languages

The text of a basic grammar determines the language table, up to the way in which a single scope is written.
The names are in the names of the rules, the aliases in the begin shapes, and the scopes in the includes.
-/

namespace TaggedGrammar.Grammar

open Table Run Files.Disk

/-- Languages with the same name, the same aliases and the same scopes, in order. -/
structure SameLanguage (l l' : Language) : Prop where
  name : l.name = l'.name
  identifiers : l.identifiers = l'.identifiers
  sources : l.sources = l'.sources

variable {host : Host} {l l' : Language} {languages languages' : List Language}

/-- An object tells its fields. -/
lemma ofFields_injective {fields fields' : List (Text × Value)} (h : Value.ofFields fields = .ofFields fields') :
    fields = fields' := by
  refine List.map_injective_iff.2 (fun a b hab => ?_) (Value.map.inj h)
  obtain ⟨hkey, hvalue⟩ := Prod.mk.inj hab
  exact Prod.ext (Value.str.inj hkey) hvalue

/-- The document of a rule tells the rule. -/
lemma document_injective {rule rule' : Rule} (h : rule.document = rule'.document) : rule = rule' := by
  cases rule <;> cases rule' <;>
    simp_all [Rule.document, Value.ofFields, Text.ofString, Text.ofChars]

/-- The document of a region shows its begin shape and its rules. -/
lemma opening_and_rules_of_document (h : (languageRegion host l).document = (languageRegion host l').document) :
    (languageRegion host l).opening = (languageRegion host l').opening ∧
      (languageRegion host l).rules = (languageRegion host l').rules := by
  have hfields := ofFields_injective h
  simp only [languageRegion, shapeRegion, entryIfSome, entry, List.cons_append, List.nil_append, List.cons.injEq,
    Prod.mk.injEq, Value.str.injEq, true_and, List.append_cancel_left_eq, Value.list.injEq, and_true] at hfields
  obtain ⟨-, -, hopening, hrules⟩ := hfields
  exact ⟨hopening, List.map_injective_iff.2 (fun _ _ => document_injective) hrules⟩

/-- The rule of a language shows the language. -/
lemma sameLanguage_of_document (hslot : Pattern.hasSlot host.tagged.opening) (wellFormed : l.WellFormed)
    (wellFormed' : l'.WellFormed) (hkey : ruleKey l = ruleKey l')
    (h : (languageRegion host l).document = (languageRegion host l').document) : SameLanguage l l' := by
  obtain ⟨hopening, hrules⟩ := opening_and_rules_of_document h
  refine ⟨ruleKey_injective hkey, ?_, ?_⟩
  · exact Pattern.union_injective wellFormed.identifiers wellFormed'.identifiers
      (Pattern.fill_injective hslot hopening)
  · have hincludes := List.append_cancel_right hrules
    exact List.map_injective_iff.2 (fun a b hab => Rule.include.inj hab) hincludes

/-- The rules of a grammar tell its languages. -/
lemma sameLanguage_of_rules (hslot : Pattern.hasSlot host.tagged.opening) (wellFormed : ∀ l ∈ languages, l.WellFormed)
    (wellFormed' : ∀ l ∈ languages', l.WellFormed)
    (h : (languages.map (namedRule host)).map (fun e => (e.1, e.2.document)) =
      (languages'.map (namedRule host)).map fun e => (e.1, e.2.document)) :
    List.Forall₂ SameLanguage languages languages' := by
  induction languages generalizing languages' with
  | nil =>
    cases languages' with
    | nil => exact .nil
    | cons l' rest' => cases h
  | cons l rest ih =>
    cases languages' with
    | nil => cases h
    | cons l' rest' =>
      obtain ⟨wellFormed_l, wellFormed_rest⟩ := List.forall_mem_cons.1 wellFormed
      obtain ⟨wellFormed_l', wellFormed_rest'⟩ := List.forall_mem_cons.1 wellFormed'
      obtain ⟨hrule, hrest⟩ := List.cons.inj h
      obtain ⟨hkey, hdocument⟩ := Prod.mk.inj hrule
      exact .cons (sameLanguage_of_document hslot wellFormed_l wellFormed_l' hkey hdocument)
        (ih wellFormed_rest wellFormed_rest' hrest)

/-- What is made of each language is the same for the same languages. -/
lemma map_eq_of_sameLanguage {α : Type} {f : Language → α} (hf : ∀ l l', SameLanguage l l' → f l = f l')
    (h : List.Forall₂ SameLanguage languages languages') : languages.map f = languages'.map f := by
  induction h with
  | nil => rfl
  | cons same _ ih => rw [List.map_cons, List.map_cons, hf _ _ same, ih]

/-- Languages that are the same have the same grammar. -/
lemma basicOf_eq_of_sameLanguage (host : Host) (h : List.Forall₂ SameLanguage languages languages') :
    basicOf host languages = basicOf host languages' := by
  have hkeys : ∀ l l', SameLanguage l l' → ruleKey l = ruleKey l' := by
    intro l l' same
    rw [ruleKey, ruleKey, same.name]
  have hrules : languages.map (namedRule host) = languages'.map (namedRule host) := by
    refine map_eq_of_sameLanguage (fun l l' same => ?_) h
    simp only [namedRule, languageRegion, shapeRegion, ruleKey, templateScope, embeddedScope, same.name,
      same.identifiers, same.sources]
  have haliases : allAliases languages = allAliases languages' := by
    rw [allAliases, allAliases, List.flatMap, List.flatMap, map_eq_of_sameLanguage (fun _ _ same => same.identifiers) h]
  have hincludes : languages.map (fun l => Rule.include ("#" ++ ruleKey l)) =
      languages'.map fun l => Rule.include ("#" ++ ruleKey l) := by
    refine map_eq_of_sameLanguage (fun l l' same => ?_) h
    rw [hkeys l l' same]
  simp only [basicOf, outerRegion, shapeRegion, hrules, haliases, hincludes]

/-- Grammars of checked tables have the same text only for the same languages. -/
lemma render_basicOf_eq_iff (hhost : checkHost host = .ok ()) (hl : checkLanguages languages = .ok ())
    (hl' : checkLanguages languages' = .ok ()) :
    (basicOf host languages).render = (basicOf host languages').render ↔
      List.Forall₂ SameLanguage languages languages' := by
  constructor
  · intro h
    have hfields := ofFields_injective (document_eq_of_render h)
    simp only [basicOf, List.cons.injEq, Prod.mk.injEq, true_and, and_true] at hfields
    exact sameLanguage_of_rules (hasSlot_of_checkHost hhost) (checkLanguages_eq_ok.1 hl).2.1
      (checkLanguages_eq_ok.1 hl').2.1 (ofFields_injective hfields.2)
  · intro h
    rw [basicOf_eq_of_sameLanguage host h]

/-- A file with the bytes of a grammar is compared with the text of another one. -/
lemma ends_holds_render {g g' : Basic} {s : Session} {p : Files.Path} {place : Files.Place} {content : ByteArray}
    (hbytes : g.render.bytes? = some content)
    (hfile : s.disk.locate .follow p = .ok ⟨place, some (.file content)⟩) :
    Ends (Output.holds p g'.render) s (.ok (g.render = g'.render)) s := by
  obtain ⟨cs, hread, htext⟩ := Text.ofBytes?_of_noReturn hbytes (Json.return_notMem_document _)
  rw [← htext]
  exact Output.ends_holds hfile hread _

section Sample

/-- A host whose begin shape has two slots. -/
def twoSlots : Host :=
  let boundary : Boundary :=
    { opening := "\x7baliases\x7d|\x7baliases\x7d", closing := "e", openingCaptures := [(1, "c")] }
  { name := "h", targetScopes := [Text.ofString "t"], tagged := boundary, dispatch := boundary }

/-- A language with one alias that looks like a union. -/
def oneAlias : Language := { name := "a", identifiers := [Text.ofString "b|\\|c"], source := .one "s" }

/-- A language with the parts of that union as its aliases. -/
def threeAliases : Language :=
  { oneAlias with identifiers := [Text.ofString "b", Text.ofString "\\", Text.ofString "c"] }

/-- The tables of the sample pass their checks, and the grammar has bytes. -/
lemma twoSlots_checked :
    checkHosts [twoSlots] = .ok () ∧ checkLanguages [oneAlias] = .ok () ∧ checkLanguages [threeAliases] = .ok () ∧
      (basicOf twoSlots [oneAlias]).render.bytes?.isSome := by
  decide +kernel

/-- The host of the sample has numbers of one digit. -/
lemma isShort_twoSlots : twoSlots.IsShort := by
  have group : Value.IsShort 1 := Nat.one_lt_pow (by decide) (by decide)
  have shape : twoSlots.tagged.IsShort := ⟨List.forall_mem_singleton.2 group, nofun⟩
  exact ⟨shape, shape⟩

end Sample

end TaggedGrammar.Grammar
