import TaggedGrammar.Proofs.Grammar.Document
import TaggedGrammar.Proofs.Hint.Records

/-!
# Selectors and the regions that they select

A selector is a list of items with commas between them, and an item may hold a list in parentheses. If no scope and no
name has a letter of this notation in it, both selectors of a host are cut into one item for each target scope, and
the items of the reinjection grammar list the regions of the basic grammar.
-/

namespace TaggedGrammar.Grammar

/-- Cuts a text at its commas outside parentheses; so many parentheses are open at its start. -/
def cutCommas : (opened : Nat) → Text → List Text
  | _, [] => [[]]
  | 0, .char ',' :: rest => [] :: cutCommas 0 rest
  | d, .char '(' :: rest => (cutCommas (d + 1) rest).modifyHead (.char '(' :: ·)
  | d, .char ')' :: rest => (cutCommas (d - 1) rest).modifyHead (.char ')' :: ·)
  | d, l :: rest => (cutCommas d rest).modifyHead (l :: ·)

/-- The text without the blanks at its start. -/
def trimStart (t : Text) : Text :=
  t.dropWhile (·.isIn Text.isBlankChar)

/-- The items of a list with commas between them. -/
def items (t : Text) : List Text :=
  (cutCommas 0 t).map trimStart

/-- The scope that an item of a selector is for. -/
def scopeOf? : Text → Option Text
  | .char 'L' :: .char ':' :: rest => some (rest.takeWhile fun l => !l.isIn Text.isBlankChar)
  | _ => none

def NoParentheses (t : Text) : Prop :=
  ∀ l ∈ t, l ≠ .char '(' ∧ l ≠ .char ')'

/-- A text without parentheses and commas. -/
def NoMarks (t : Text) : Prop :=
  ∀ l ∈ t, l ≠ .char ',' ∧ l ≠ .char '(' ∧ l ≠ .char ')'

/-- A name as it can stand in a selector: it has no commas, no parentheses and no blanks. -/
structure IsSimple (t : Text) : Prop where
  marks : NoMarks t
  blanks : ∀ l ∈ t, l.isIn Text.isBlankChar = false

instance (t : Text) : Decidable (NoParentheses t) :=
  inferInstanceAs (Decidable (∀ l ∈ t, _))

instance (t : Text) : Decidable (NoMarks t) :=
  inferInstanceAs (Decidable (∀ l ∈ t, _))

instance (t : Text) : Decidable (IsSimple t) :=
  decidable_of_iff (NoMarks t ∧ ∀ l ∈ t, l.isIn Text.isBlankChar = false)
    ⟨fun h => ⟨h.1, h.2⟩, fun h => ⟨h.marks, h.blanks⟩⟩

section Cutting

variable {t u : Text} {ts : List Text} {d : Nat}

/-- A letter that is no mark is passed. -/
lemma cutCommas_cons {l : Letter} (hcomma : l = .char ',' → 0 < d) (hopen : l ≠ .char '(') (hclose : l ≠ .char ')')
    (rest : Text) : cutCommas d (l :: rest) = (cutCommas d rest).modifyHead (l :: ·) := by
  rw [cutCommas]
  · exact hopen
  · exact hclose
  · rintro rfl hl
    exact absurd (hcomma hl) (Nat.lt_irrefl 0)

/-- Letters that are neither separators nor parentheses stay together. -/
lemma cutCommas_append (h : ∀ l ∈ t, (l = .char ',' → 0 < d) ∧ l ≠ .char '(' ∧ l ≠ .char ')') (rest : Text) :
    cutCommas d (t ++ rest) = (cutCommas d rest).modifyHead (t ++ ·) := by
  induction t with
  | nil => exact (congrFun List.modifyHead_id _).symm
  | cons l t ih =>
    obtain ⟨⟨hcomma, hopen, hclose⟩, others⟩ := List.forall_mem_cons.1 h
    rw [List.cons_append, cutCommas_cons hcomma hopen hclose, ih others, List.modifyHead_modifyHead]
    rfl

/-- The text is not cut, whatever follows it. -/
def Whole (t : Text) : Prop :=
  ∀ rest, cutCommas 0 (t ++ rest) = (cutCommas 0 rest).modifyHead (t ++ ·)

/-- Texts that are not cut are not cut one behind the other. -/
lemma Whole.append (ht : Whole t) (hu : Whole u) : Whole (t ++ u) := by
  intro rest
  have together : ((t ++ ·) ∘ (u ++ ·) : Text → Text) = (t ++ u ++ ·) := by
    funext s
    exact (List.append_assoc t u s).symm
  rw [List.append_assoc, ht, hu, List.modifyHead_modifyHead, together]

/-- A text without marks is not cut. -/
lemma NoMarks.whole (h : NoMarks t) : Whole t :=
  cutCommas_append fun l hl => ⟨fun hcomma => absurd hcomma (h l hl).1, (h l hl).2⟩

/-- A list in parentheses is not cut at its own commas. -/
lemma NoParentheses.whole (h : NoParentheses t) : Whole (.char '(' :: (t ++ [.char ')'])) := by
  intro rest
  -- inside one parenthesis is open, so that the list may have commas
  have inside : cutCommas 1 (t ++ .char ')' :: rest) = (cutCommas 1 (.char ')' :: rest)).modifyHead (t ++ ·) :=
    cutCommas_append (fun l hl => ⟨fun _ => Nat.one_pos, h l hl⟩) _
  have closed : cutCommas 1 (.char ')' :: rest) = (cutCommas 0 rest).modifyHead (.char ')' :: ·) := rfl
  have opened : cutCommas 0 (.char '(' :: (t ++ .char ')' :: rest)) =
      (cutCommas 1 (t ++ .char ')' :: rest)).modifyHead (.char '(' :: ·) := rfl
  rw [List.cons_append, List.append_assoc, List.singleton_append, opened, inside, closed, List.modifyHead_modifyHead,
    List.modifyHead_modifyHead]
  congr 1
  funext s
  simp

/-- A blank in front of the first item is trimmed. -/
lemma map_trimStart_modifyHead (ts : List Text) :
    (ts.modifyHead (.char ' ' :: ·)).map trimStart = ts.map trimStart := by
  cases ts <;> rfl

/-- Texts that are not cut are the items of the list that they make up. -/
lemma items_join (hne : ts ≠ []) (h : ∀ t ∈ ts, Whole t ∧ trimStart t = t) : items (Text.join ", " ts) = ts := by
  induction ts with
  | nil => exact absurd rfl hne
  | cons t ts ih =>
    obtain ⟨⟨whole, trimmed⟩, others⟩ := List.forall_mem_cons.1 h
    cases ts with
    | nil =>
      have alone := whole []
      rw [List.append_nil] at alone
      rw [Text.join, List.intercalate_singleton, items, alone]
      simp [cutCommas, trimmed]
    | cons u ts =>
      have behind := ih (List.cons_ne_nil u ts) others
      have joined : Text.join ", " (t :: u :: ts) = t ++ .char ',' :: .char ' ' :: Text.join ", " (u :: ts) := by
        rw [Text.join, List.intercalate_cons_cons, List.append_assoc]
        rfl
      have cut : cutCommas 0 (.char ',' :: .char ' ' :: Text.join ", " (u :: ts)) =
          [] :: (cutCommas 0 (Text.join ", " (u :: ts))).modifyHead (.char ' ' :: ·) := by
        rw [cutCommas, cutCommas_cons (by simp) (by simp) (by simp)]
      -- the blank behind the comma goes to the next item, which is trimmed
      rw [items] at behind ⊢
      rw [joined, whole, cut, List.modifyHead_cons, List.append_nil, List.map_cons, map_trimStart_modifyHead, trimmed,
        behind]

end Cutting

section Items

variable {s front inner : Text} {scopes : List Text}

/-- An item of a selector: the scope, and a condition that ends with a list in parentheses. -/
def selectorItem (front inner s : Text) : Text :=
  Text.ofString "L:" ++ (s ++ (front ++ .char '(' :: (inner ++ [.char ')'])))

/-- The scope of an item is read up to the first blank. -/
lemma scopeOf?_selectorItem (h : IsSimple s) (hfront : front.head? = some (.char ' ')) :
    scopeOf? (selectorItem front inner s) = some s := by
  obtain ⟨rest, rfl⟩ := List.head?_eq_some_iff.1 hfront
  have letters : ∀ l ∈ s, (!l.isIn Text.isBlankChar) = true := fun l hl => by simp [h.blanks l hl]
  show some (List.takeWhile _ (s ++ .char ' ' :: _)) = some s
  rw [List.takeWhile_append_of_pos letters, List.takeWhile_cons_of_neg (by decide), List.append_nil]

/-- The scopes of all items are read in their order. -/
lemma map_scopeOf? (h : ∀ s ∈ scopes, IsSimple s) (hfront : front.head? = some (.char ' ')) :
    (scopes.map (selectorItem front inner)).map scopeOf? = scopes.map some := by
  rw [List.map_map]
  exact List.map_congr_left fun s hs => scopeOf?_selectorItem (h s hs) hfront

/-- A selector has one item for each scope. -/
lemma items_selector (hne : scopes ≠ []) (h : ∀ s ∈ scopes, IsSimple s) (hfront : NoMarks front)
    (hinner : NoParentheses inner) :
    items (Text.join ", " (scopes.map (selectorItem front inner))) = scopes.map (selectorItem front inner) := by
  have mark : Whole (Text.ofString "L:") := NoMarks.whole (by decide)
  refine items_join (mt List.map_eq_nil_iff.1 hne) fun item hitem => ?_
  obtain ⟨s, hs, rfl⟩ := List.mem_map.1 hitem
  exact ⟨mark.append ((h s hs).marks.whole.append (hfront.whole.append hinner.whole)), rfl⟩

/-- The selector of a basic grammar has an item for each scope. -/
lemma items_basicSelector (hne : scopes ≠ []) (h : ∀ s ∈ scopes, IsSimple s) :
    items (basicSelector scopes) =
      scopes.map (selectorItem (Text.ofString " -comment -") (Text.ofString "string - meta.embedded")) := by
  have item : ∀ s, Text.ofString "L:" ++ s ++ Text.ofString " -comment -(string - meta.embedded)" =
      selectorItem (Text.ofString " -comment -") (Text.ofString "string - meta.embedded") s := fun s =>
    List.append_assoc _ s _
  simp only [basicSelector, item]
  exact items_selector hne h (by decide) (by decide)

/-- An item of the reinjection selector is one with regions in parentheses. -/
lemma selectorItem_regions (regions s : Text) :
    Text.ofString "L:" ++ s ++ Text.ofString " (" ++ regions ++ Text.ofString ")" =
      selectorItem (Text.ofString " ") regions s := by
  simp only [List.append_assoc]
  rfl

/-- The selector of a reinjection grammar has an item for each scope. -/
lemma items_reinjectionSelector {languages : List Language} (hne : scopes ≠ []) (h : ∀ s ∈ scopes, IsSimple s)
    (hregions : NoParentheses (Text.join ", " (languages.map embeddedScope))) :
    items (reinjectionSelector scopes languages) =
      scopes.map (selectorItem (Text.ofString " ") (Text.join ", " (languages.map embeddedScope))) := by
  simp only [reinjectionSelector, selectorItem_regions]
  exact items_selector hne h (by decide) hregions

end Items

section Documents

open Json

/-- What a mapping has under a text key. -/
def entryOf? (key : Text) : Value → Option Value
  | .map entries => Value.field? key entries
  | _ => none

/-- The text that a mapping has under a key. -/
def textOf? (key : Text) (v : Value) : Option Text :=
  (entryOf? key v).bind Value.asText?

/-- The selector in the text of a grammar. -/
def selectorIn? (text : Text) : Option Text :=
  (read? text).bind (textOf? "injectionSelector")

/-- The content names of the rules in the text of a grammar, in order. -/
def contentNamesIn? (text : Text) : Option (List Text) :=
  ((read? text).bind (entryOf? "repository")).bind fun
    | .map rules => rules.mapM fun e => textOf? "contentName" e.2
    | _ => none

/-- An entry of an object is one of its fields. -/
lemma entryOf?_ofFields (key : Text) (fields : List (Text × Value)) :
    entryOf? key (.ofFields fields) = fields.lookup key := by
  show Value.field? key (fields.map fun f => (.str f.1, f.2)) = _
  induction fields with
  | nil => rfl
  | cons f rest ih =>
    rw [List.map_cons, Value.field?_cons, ih, List.lookup_cons]
    split
    next hkey => rw [hkey, beq_self_eq_true]
    next hkey => rw [beq_eq_false_iff_ne.2 (Ne.symm hkey)]

/-- The selector is read from the document of a basic grammar. -/
lemma selectorIn?_basic (g : Basic) : selectorIn? g.render = some g.selector := by
  have read : read? g.render = some g.document := read?_document (isRead_basic g)
  rw [selectorIn?, read, Option.bind_some, textOf?, Basic.document, entryOf?_ofFields]
  rfl

/-- The selector is read from the document of a reinjection grammar. -/
lemma selectorIn?_reinjection (g : Reinjection) : selectorIn? g.render = some g.selector := by
  have read : read? g.render = some g.document := by
    refine read?_document (isRead_ofFields ?_)
    simp [isRead_str, isRead_list, isRead_rule]
  rw [selectorIn?, read, Option.bind_some, textOf?, Reinjection.document, entryOf?_ofFields]
  rfl

/-- The scope inside a region is read from its document. -/
lemma textOf?_languageRegion (host : Host) (l : Language) :
    textOf? "contentName" (languageRegion host l).document = some (embeddedScope l) := by
  rw [textOf?, Region.document, entryOf?_ofFields]
  rfl

/-- The scopes inside all regions are read in their order. -/
lemma mapM_contentName (host : Host) (languages : List Language) :
    (languages.map fun l => (Value.str (ruleKey l), (languageRegion host l).document)).mapM
      (fun e => textOf? "contentName" e.2) = some (languages.map embeddedScope) := by
  induction languages with
  | nil => rfl
  | cons l rest ih =>
    rw [List.map_cons, List.mapM_cons, ih, textOf?_languageRegion]
    rfl

/-- They are read from the document of the grammar. -/
lemma contentNamesIn?_basicOf (host : Host) (languages : List Language) :
    contentNamesIn? (basicOf host languages).render = some (languages.map embeddedScope) := by
  have read : read? (basicOf host languages).render = some (basicOf host languages).document :=
    read?_document (isRead_basic _)
  have rules : entryOf? "repository" (basicOf host languages).document =
      some (.map (languages.map fun l => (.str (ruleKey l), (languageRegion host l).document))) := by
    rw [Basic.document, entryOf?_ofFields, basicOf, List.map_map]
    show some (Value.map (List.map _ (List.map _ languages))) = _
    rw [List.map_map]
    rfl
  rw [contentNamesIn?, read, Option.bind_some, rules, Option.bind_some]
  exact mapM_contentName host languages

end Documents

section Regions

variable {host : Host} {languages : List Language}

/-- A letter of a joined text is one of the separator or of a part. -/
lemma mem_join {separator : Text} {ts : List Text} {l : Letter} (h : l ∈ Text.join separator ts) :
    l ∈ separator ∨ ∃ t ∈ ts, l ∈ t := by
  induction ts with
  | nil => cases h
  | cons t ts ih =>
    cases ts with
    | nil => exact .inr ⟨t, List.mem_cons_self, by simpa [Text.join] using h⟩
    | cons u ts =>
      rw [Text.join, List.intercalate_cons_cons, List.mem_append, List.mem_append] at h
      rcases h with (hfirst | hseparator) | hrest
      · exact .inr ⟨t, List.mem_cons_self, hfirst⟩
      · exact .inl hseparator
      · rcases ih hrest with hseparator | ⟨u, hu, hl⟩
        · exact .inl hseparator
        · exact .inr ⟨u, List.mem_cons_of_mem t hu, hl⟩

/-- A simple name gives a scope without marks. -/
lemma noMarks_embeddedScope {l : Language} (h : IsSimple l.name) : NoMarks (embeddedScope l) := by
  have front : NoMarks (Text.ofString "meta.embedded.block.") := by decide
  exact List.forall_mem_append.2 ⟨front, h.marks⟩

/-- The regions of a selector are cut into the scopes of the languages. -/
lemma items_regions (hne : languages ≠ []) (h : ∀ l ∈ languages, IsSimple l.name) :
    items (Text.join ", " (languages.map embeddedScope)) = languages.map embeddedScope := by
  refine items_join (mt List.map_eq_nil_iff.1 hne) fun t ht => ?_
  obtain ⟨l, hl, rfl⟩ := List.mem_map.1 ht
  exact ⟨(noMarks_embeddedScope (h l hl)).whole, rfl⟩

/-- The list of regions has no parentheses of its own, so those around it belong together. -/
lemma noParentheses_regions (h : ∀ l ∈ languages, IsSimple l.name) :
    NoParentheses (Text.join ", " (languages.map embeddedScope)) := by
  have separator : NoParentheses (Text.ofString ", ") := by decide
  intro c hc
  rcases mem_join hc with hseparator | ⟨t, ht, hct⟩
  · exact separator c hseparator
  · obtain ⟨l, hl, rfl⟩ := List.mem_map.1 ht
    exact (noMarks_embeddedScope (h l hl) c hct).2

/-- Languages with different names have different scopes. -/
lemma nodup_regions (different : (languages.map Language.name).Nodup) : (languages.map embeddedScope).Nodup := by
  have regions : languages.map embeddedScope =
      (languages.map Language.name).map fun name => Text.ofString "meta.embedded.block." ++ name := by
    rw [List.map_map]
    rfl
  rw [regions]
  exact different.map fun name name' heq => List.append_cancel_left heq

end Regions

section Sample

/-- A host with a scope that is empty and one that holds marks of its own. -/
def twoScopes : Host :=
  slotHost "h" [Text.ofString "source.L:ts", []] []

/-- A language with a chosen name. -/
def namedLanguage (name : String) : Language :=
  { name, identifiers := [Text.ofString "b"], source := .one "c" }

end Sample

end TaggedGrammar.Grammar
