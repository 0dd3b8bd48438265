import TaggedGrammar.Proofs.Output.Documents
import TaggedGrammar.Proofs.Table.Hosts
import TaggedGrammar.Proofs.Value.Reordered

/-!
# The order of keys

Tables in which the keys of items, host bodies, region shapes and captures are in another order are accepted or refused
alike, and give the same documents: fields are looked up by their names, and captures are sorted by their numbers.
-/

namespace TaggedGrammar

/-- The same captures in another order, with the same scopes for groups. -/
structure Captures.Alike (c c' : Captures) : Prop where
  perm : c.Perm c'
  scopes : Grammar.scopesByNumber c = Grammar.scopesByNumber c'

/-- Region shapes that differ in the order of their captures at most. -/
structure Boundary.Alike (b b' : Boundary) : Prop where
  opening : b.opening = b'.opening
  closing : b.closing = b'.closing
  openingCaptures : b.openingCaptures.Alike b'.openingCaptures
  closingCaptures : Option.Rel Captures.Alike b.closingCaptures b'.closingCaptures

/-- Hosts that differ in the order of their captures at most. -/
structure Host.Alike (host host' : Host) : Prop where
  name : host.name = host'.name
  targetScopes : host.targetScopes = host'.targetScopes
  tagged : host.tagged.Alike host'.tagged
  dispatch : host.dispatch.Alike host'.dispatch
  substitution : host.substitution = host'.substitution
  stringScope : host.stringScope = host'.stringScope

section Alike

open Grammar

/-- Captures are alike with themselves. -/
lemma Captures.Alike.refl (c : Captures) : c.Alike c :=
  ⟨.refl c, rfl⟩

/-- Captures that are alike have the same numbers. -/
lemma Captures.Alike.isShort {c c' : Captures} (h : c.Alike c') (short : c.IsShort) : c'.IsShort :=
  fun e he => short e (h.perm.mem_iff.2 he)

namespace Boundary.Alike

variable {b b' : Boundary}

/-- A region shape is alike with itself. -/
lemma refl (b : Boundary) : b.Alike b := by
  refine ⟨rfl, rfl, .refl _, ?_⟩
  cases b.closingCaptures with
  | none => exact .none
  | some c => exact .some (.refl c)

/-- Region shapes that are alike have the same numbers. -/
lemma isShort (h : b.Alike b') (short : b.IsShort) : b'.IsShort := by
  refine ⟨h.openingCaptures.isShort short.openingCaptures, fun c' hc' => ?_⟩
  have related := h.closingCaptures
  have shorts := short.closingCaptures
  rw [Option.mem_def.1 hc'] at related
  generalize b.closingCaptures = closing at related shorts
  cases related with
  | some alike => exact alike.isShort (shorts _ rfl)

/-- Region shapes that are alike pass the same checks. -/
lemma wellFormed (h : b.Alike b') (wf : b.WellFormed) : b'.WellFormed :=
  ⟨h.opening ▸ wf.slot, h.closing ▸ wf.closing⟩

/-- Region shapes that are alike close with the same scopes. -/
lemma closingScopes (h : b.Alike b') :
    b.closingCaptures.map scopesByNumber = b'.closingCaptures.map scopesByNumber := by
  have related := h.closingCaptures
  generalize b.closingCaptures = closing, b'.closingCaptures = closing' at related ⊢
  cases related with
  | none => rfl
  | some alike => rw [Option.map_some, Option.map_some, alike.scopes]

end Boundary.Alike

namespace Host.Alike

variable {host host' : Host}

/-- A host is alike with itself. -/
lemma refl (host : Host) : host.Alike host :=
  ⟨rfl, rfl, .refl _, .refl _, rfl, rfl⟩

/-- Hosts that are alike have the same numbers. -/
lemma isShort (h : host.Alike host') (short : host.IsShort) : host'.IsShort :=
  ⟨h.tagged.isShort short.tagged, h.dispatch.isShort short.dispatch⟩

/-- Hosts that are alike pass the same checks. -/
lemma wellFormed (h : host.Alike host') (wf : host.WellFormed) : host'.WellFormed where
  name := h.name ▸ wf.name
  slash := h.name ▸ wf.slash
  backslash := h.name ▸ wf.backslash
  points := h.name ▸ wf.points
  targetScopes := h.targetScopes ▸ wf.targetScopes
  tagged := h.tagged.wellFormed wf.tagged
  dispatch := h.dispatch.wellFormed wf.dispatch

/-- Hosts that are alike have the same regions for a language. -/
lemma languageRegion_eq (h : host.Alike host') (l : Language) : languageRegion host l = languageRegion host' l := by
  simp only [languageRegion, shapeRegion, templateScope, h.stringScope, h.tagged.opening, h.tagged.closing,
    h.tagged.openingCaptures.scopes, h.tagged.closingScopes]

/-- Hosts that are alike have the same outer region. -/
lemma outerRegion_eq (h : host.Alike host') (languages : List Language) :
    outerRegion host languages = outerRegion host' languages := by
  simp only [outerRegion, shapeRegion, h.dispatch.opening, h.dispatch.closing, h.dispatch.openingCaptures.scopes,
    h.dispatch.closingScopes]

/-- The order of captures does not show in documents. -/
lemma documentsOf_eq (h : host.Alike host') (languages : List Language) :
    documentsOf languages host = documentsOf languages host' := by
  have repository : languages.map (namedRule host) = languages.map (namedRule host') :=
    List.map_congr_left fun l _ => by rw [namedRule, namedRule, h.languageRegion_eq]
  have basic : basicOf host languages = basicOf host' languages := by
    simp only [basicOf, basicScope, h.name, h.targetScopes, repository, h.outerRegion_eq]
  have reinjected : reinjection host languages = reinjection host' languages := by
    simp only [reinjection, reinjectionScope, basicScope, h.name, h.targetScopes, h.substitution]
  rw [documentsOf, documentsOf, basic, reinjected, h.name]

end Host.Alike

end Alike

namespace Table

open Grammar Hint Outcome Value

/-- Lists with items that are related, or one and the same value. -/
inductive ItemsAlike (R : Value → Value → Prop) : Value → Value → Prop where
  | same (v) : ItemsAlike R v v
  | list {items items' : List Value} : List.Forall₂ R items items' → ItemsAlike R (.list items) (.list items')

/-- Mappings with the same keys in the same order and with values that are related, or one and the same value. -/
inductive BodiesAlike (R : Value → Value → Prop) : Value → Value → Prop where
  | same (v) : BodiesAlike R v v
  | entries {v v' : Value} {es es' : List (Value × Value)} :
    HasEntries v es → HasEntries v' es' → EntriesAlike R es es' → BodiesAlike R v v'

/-- Language tables that are the same up to the order of the keys in their items. -/
def LanguagesReordered (raw raw' : List (Value × Value)) : Prop :=
  EntriesAlike (ItemsAlike (Reordered Eq)) raw raw'

/-- Host tables that are the same up to the order of the keys in host bodies, region shapes and captures. -/
def HostsReordered (raw raw' : List (Value × Value)) : Prop :=
  EntriesAlike (BodiesAlike (Reordered (Reordered (Reordered Eq)))) raw raw'

/-- What is described item by item is described alike by items that are related. -/
lemma exists_forall₂_of_step {α β : Type} {R : α → α → Prop} {D : α → β → Prop} {Q : β → β → Prop}
    (step : ∀ a a' b, D a b → R a a' → ∃ b', D a' b' ∧ Q b b') {as as' : List α} {bs : List β}
    (described : List.Forall₂ D as bs) (related : List.Forall₂ R as as') :
    ∃ bs', List.Forall₂ D as' bs' ∧ List.Forall₂ Q bs bs' := by
  induction described generalizing as' with
  | nil =>
    cases related
    exact ⟨[], .nil, .nil⟩
  | cons first _ ih =>
    cases related with
    | cons related₁ others =>
      obtain ⟨b', described', alike⟩ := step _ _ _ first related₁
      obtain ⟨bs', rest, alikes⟩ := ih others
      exact ⟨b' :: bs', .cons described' rest, .cons alike alikes⟩

section Symmetry

variable {raw raw' : List (Value × Value)}

/-- An order can be changed back. -/
lemma LanguagesReordered.symm (h : LanguagesReordered raw raw') : LanguagesReordered raw' raw := by
  refine EntriesAlike.symm (fun v w hvw => ?_) h
  cases hvw with
  | same => exact .same _
  | list items => exact .list (items.imp fun _ _ => Reordered.symm fun _ _ => Eq.symm).flip

/-- An order can be changed back. -/
lemma HostsReordered.symm (h : HostsReordered raw raw') : HostsReordered raw' raw := by
  refine EntriesAlike.symm (fun v w hvw => ?_) h
  cases hvw with
  | same => exact .same _
  | entries hes hes' alike =>
    have captures (v w) : Reordered Eq v w → Reordered Eq w v := Reordered.symm fun _ _ => Eq.symm
    exact .entries hes' hes (alike.symm fun _ _ => Reordered.symm fun _ _ => Reordered.symm captures)

end Symmetry

section Languages

variable {raw raw' : List (Value × Value)} {languages : List Language}

/-- An item describes its language in any order of its keys. -/
lemma ItemDescribes.reordered {item item' : Value} {l : Language} (h : ItemDescribes item l)
    (reordered : Reordered Eq item item') : ItemDescribes item' l := by
  obtain ⟨es, hes, shape⟩ := h
  obtain ⟨es', hes', alike⟩ := reordered.exists_fieldsAlike (fun _ => rfl) hes
  refine ⟨es', hes', alike.forall_keys shape.keys, ?_, ?_, ?_⟩
  · rw [← alike.field?_eq]
    exact shape.name
  · rw [← alike.field?_eq]
    exact shape.identifiers
  · rw [← alike.field?_eq]
    exact shape.source

/-- A language table gives the same languages in any order of the keys. -/
lemma IsLanguageTable.reordered (h : IsLanguageTable raw languages) (reordered : LanguagesReordered raw raw') :
    IsLanguageTable raw' languages := by
  obtain ⟨items, hfound, described⟩ := h.items
  have alike := EntriesAlike.fieldsAlike reordered
  obtain ⟨v', hfound', related⟩ := alike.exists_of_field? hfound
  have items' : ∃ items', v' = .list items' ∧ List.Forall₂ ItemDescribes items' languages := by
    cases related with
    | same => exact ⟨items, rfl, described⟩
    | @list _ items' moved =>
      have step (item item' l) (hl : ItemDescribes item l) (hr : Reordered Eq item item') :
          ∃ l', ItemDescribes item' l' ∧ l = l' := ⟨l, hl.reordered hr, rfl⟩
      obtain ⟨languages', described', same⟩ := exists_forall₂_of_step step described moved
      rw [List.forall₂_eq_eq_eq] at same
      exact ⟨items', rfl, same ▸ described'⟩
  obtain ⟨items', rfl, described'⟩ := items'
  have keys := alike.forall_keys (P := (· = .str "languages")) h.keys
  exact ⟨keys, ⟨items', hfound', described'⟩, h.nonempty, h.wellFormed, h.names⟩

end Languages

section Hosts

variable {raw raw' : List (Value × Value)} {hosts : List Host}

/-- Captures in another order are alike. -/
lemma DescribesCaptures.reordered {v v' : Value} {c : Captures} (h : DescribesCaptures v c)
    (reordered : Reordered Eq v v') : ∃ c', DescribesCaptures v' c' ∧ c.Alike c' := by
  cases reordered with
  | same => exact ⟨c, h, .refl c⟩
  | @entries _ es es' hes hes' moved =>
    have written : es = c.entries := (describesCaptures_of_hasEntries hes moved.different).1 h
    have perm : es'.Perm c.entries := by
      obtain ⟨between, alike, perm⟩ := moved.moved
      rw [← written, alike.eq]
      exact perm.symm
    obtain ⟨c', written', perm'⟩ := (congrFun₂ (List.eq_map_comp_perm _) es' c).mpr perm
    have different : c.IsMapping := isMapping_of_differentKeys (written ▸ moved.different)
    exact ⟨c', (describesCaptures_of_hasEntries hes' moved.different').2 written', perm'.symm,
      scopesByNumber_eq_of_perm perm'.symm different⟩

/-- So are captures that may be absent. -/
lemma DescribesOptional.reordered {found found' : Option Value} {c : Option Captures} (h : DescribesOptional found c)
    (related : Option.Rel (Reordered Eq) found found') :
    ∃ c', DescribesOptional found' c' ∧ Option.Rel Captures.Alike c c' := by
  cases h with
  | absent =>
    cases related
    exact ⟨none, .absent, .none⟩
  | null =>
    cases related with
    | some moved =>
      cases moved.eq_of_forall_not_hasEntries nofun
      exact ⟨none, .null, .none⟩
  | given described =>
    cases related with
    | some moved =>
      obtain ⟨c', described', alike⟩ := described.reordered moved
      exact ⟨some c', .given described', .some alike⟩

/-- A text has no keys to be put in another order. -/
lemma DescribesText.reordered {R : Value → Value → Prop} {default s : Text} {found found' : Option Value}
    (h : DescribesText default found s) (related : Option.Rel (Reordered R) found found') :
    DescribesText default found' s := by
  cases h with
  | absent =>
    cases related
    exact .absent
  | given =>
    cases related with
    | some moved =>
      cases moved.eq_of_str
      exact .given s

/-- A region shape in any order of its keys is alike. -/
lemma MapsBoundary.reordered {v v' : Value} {b : Boundary} (h : MapsBoundary v b)
    (reordered : Reordered (Reordered Eq) v v') : ∃ b', MapsBoundary v' b' ∧ b.Alike b' := by
  obtain ⟨es, hes, shape⟩ := h
  obtain ⟨es', hes', alike⟩ := reordered.exists_fieldsAlike .same hes
  obtain ⟨vo, opening, moved_opening⟩ := alike.exists_of_field? shape.opening
  cases moved_opening.eq_of_str
  obtain ⟨ve, closing, moved_closing⟩ := alike.exists_of_field? shape.closing
  cases moved_closing.eq_of_str
  obtain ⟨vc, hvc, captures⟩ := shape.openingCaptures
  obtain ⟨vc', hvc', moved⟩ := alike.exists_of_field? hvc
  obtain ⟨c, captures', alike_captures⟩ := captures.reordered moved
  obtain ⟨last, optional, alike_last⟩ := shape.closingCaptures.reordered (alike.fields _)
  exact ⟨⟨b.opening, b.closing, c, last⟩, ⟨es', hes', alike.forall_keys shape.keys, opening, closing,
    ⟨vc', hvc', captures'⟩, optional⟩, rfl, rfl, alike_captures, alike_last⟩

/-- A host in any order of its keys is alike. -/
lemma EntryDescribes.reordered {e e' : Value × Value} {host : Host} (h : EntryDescribes e host) (hkey : e.1 = e'.1)
    (reordered : Reordered (Reordered (Reordered Eq)) e.2 e'.2) :
    ∃ host', EntryDescribes e' host' ∧ host.Alike host' := by
  obtain ⟨name, es, hes, shape⟩ := h
  obtain ⟨es', hes', alike⟩ := reordered.exists_fieldsAlike .same hes
  obtain ⟨vs, hvs, scopes⟩ := shape.targetScopes
  obtain ⟨vs', hvs', moved_scopes⟩ := alike.exists_of_field? hvs
  cases moved_scopes.eq_of_hasItems scopes
  obtain ⟨vt, hvt, tagged⟩ := shape.tagged
  obtain ⟨vt', hvt', moved_tagged⟩ := alike.exists_of_field? hvt
  obtain ⟨b, tagged', alike_tagged⟩ := tagged.reordered moved_tagged
  obtain ⟨vd, hvd, dispatch⟩ := shape.dispatch
  obtain ⟨vd', hvd', moved_dispatch⟩ := alike.exists_of_field? hvd
  obtain ⟨d, dispatch', alike_dispatch⟩ := dispatch.reordered moved_dispatch
  have substitution := shape.substitution.reordered (alike.fields _)
  have stringScope := shape.stringScope.reordered (alike.fields _)
  exact ⟨⟨host.name, host.targetScopes, b, d, host.substitution, host.stringScope⟩,
    ⟨hkey ▸ name, es', hes', alike.forall_keys shape.keys, ⟨_, hvs', scopes⟩, ⟨vt', hvt', tagged'⟩,
      ⟨vd', hvd', dispatch'⟩, substitution, stringScope⟩, rfl, rfl, alike_tagged, alike_dispatch, rfl, rfl⟩

/-- What hosts share with those that are alike holds of all of them. -/
lemma forall_of_alike {P : Host → Prop} (hP : ∀ host host', host.Alike host' → P host → P host') {hosts' : List Host}
    (alike : List.Forall₂ Host.Alike hosts hosts') (all : ∀ host ∈ hosts, P host) : ∀ host ∈ hosts', P host := by
  induction alike with
  | nil => exact nofun
  | cons first _ ih =>
    obtain ⟨here, there⟩ := List.forall_mem_cons.1 all
    exact List.forall_mem_cons.2 ⟨hP _ _ first here, ih there⟩

/-- A host table in any order of the keys below its hosts gives hosts that are alike. -/
lemma IsHostTable.reordered (h : IsHostTable raw hosts) (reordered : HostsReordered raw raw') :
    ∃ hosts', IsHostTable raw' hosts' ∧ List.Forall₂ Host.Alike hosts hosts' := by
  obtain ⟨v, entries, hfound, hentries, described⟩ := h.entries
  have alike := EntriesAlike.fieldsAlike reordered
  obtain ⟨v', hfound', related⟩ := alike.exists_of_field? hfound
  have built : ∃ entries' hosts', HasEntries v' entries' ∧ List.Forall₂ EntryDescribes entries' hosts' ∧
      List.Forall₂ Host.Alike hosts hosts' := by
    cases related with
    | same => exact ⟨entries, hosts, hentries, described, List.forall₂_same.2 fun host _ => .refl host⟩
    | @entries _ es es' hes hes' moved =>
      cases hentries.unique hes
      have step (e e' : Value × Value) (host) (hd : EntryDescribes e host)
          (hr : e.1 = e'.1 ∧ Reordered (Reordered (Reordered Eq)) e.2 e'.2) :
          ∃ host', EntryDescribes e' host' ∧ host.Alike host' := hd.reordered hr.1 hr.2
      obtain ⟨hosts', described', alikes⟩ := exists_forall₂_of_step step described moved
      exact ⟨es', hosts', hes', described', alikes⟩
  obtain ⟨entries', hosts', hentries', described', alikes⟩ := built
  have nonempty : hosts' ≠ [] := by
    rintro rfl
    cases alikes
    exact h.nonempty rfl
  have keys := alike.forall_keys (P := (· = .str "hosts")) h.keys
  have wellFormed := forall_of_alike (fun _ _ => Host.Alike.wellFormed) alikes h.wellFormed
  exact ⟨hosts', ⟨keys, ⟨v', entries', hfound', hentries', described'⟩, nonempty, wellFormed⟩, alikes⟩

end Hosts

section Generate

variable {raw raw' : List (Value × Value)} {languages : List Language} {hosts hosts' : List Host}

/-- Hosts that are alike have the same documents. -/
lemma flatMap_documentsOf_eq (h : List.Forall₂ Host.Alike hosts hosts') :
    hosts.flatMap (documentsOf languages) = hosts'.flatMap (documentsOf languages) := by
  induction h with
  | nil => rfl
  | cons first _ ih => rw [List.flatMap_cons, List.flatMap_cons, first.documentsOf_eq, ih]

/-- From tables that were parsed documents are always generated. -/
lemma result_generate (hlanguages : (parseLanguages raw).result = .ok languages)
    (hhosts : (parseHosts raw').result = .ok hosts) :
    (generate languages hosts).result = .ok (hosts.flatMap (documentsOf languages)) := by
  have tableL := parseLanguages_eq_ok.1 hlanguages
  obtain ⟨tableH, short⟩ := parseHosts_eq_ok_iff.1 hhosts
  refine result_generate_of_checked ?_ ?_ short
  · exact checkLanguages_eq_ok.2 ⟨tableL.nonempty, tableL.wellFormed, tableL.names⟩
  · exact checkHosts_eq_ok.2 ⟨tableH.nonempty, fun host hhost => checkHost_eq_ok.2 (tableH.wellFormed host hhost)⟩

/-- Hosts are parsed in any order of the keys below them. -/
lemma exists_parseHosts_of_reordered (h : HostsReordered raw raw') (parsed : (parseHosts raw).result = .ok hosts) :
    ∃ hosts', (parseHosts raw').result = .ok hosts' ∧ List.Forall₂ Host.Alike hosts hosts' := by
  obtain ⟨table, short⟩ := parseHosts_eq_ok_iff.1 parsed
  obtain ⟨hosts', table', alike⟩ := table.reordered h
  have short' := forall_of_alike (fun _ _ => Host.Alike.isShort) alike short
  exact ⟨hosts', parseHosts_eq_ok_iff.2 ⟨table', short'⟩, alike⟩

/-- What is refused is refused wherever acceptance is no easier. -/
lemma exists_error_of_imp {α β : Type} {o : Outcome α} {o' : Outcome β}
    (h : ∀ b, o'.result = .ok b → ∃ a, o.result = .ok a) (refused : ∃ f, o.result = .error f) :
    ∃ f, o'.result = .error f := by
  obtain ⟨f, hf⟩ := refused
  cases hresult : o'.result with
  | error f' => exact ⟨f', rfl⟩
  | ok b =>
    obtain ⟨a, ha⟩ := h b hresult
    rw [hf] at ha
    cases ha

end Generate

/-- Tables that are the same up to the order of the keys in items, host bodies, region shapes and captures are refused
alike. If they are accepted, the same documents are generated from them. -/
theorem key_order_does_not_show {rawL rawL' rawH rawH' : List (Value × Value)} (hl : LanguagesReordered rawL rawL')
    (hh : HostsReordered rawH rawH') :
    ((∃ f, (parseLanguages rawL).result = .error f) ↔ ∃ f, (parseLanguages rawL').result = .error f) ∧
      ((∃ f, (parseHosts rawH).result = .error f) ↔ ∃ f, (parseHosts rawH').result = .error f) ∧
      ∀ languages hosts, (parseLanguages rawL).result = .ok languages → (parseHosts rawH).result = .ok hosts →
        ∃ hosts' files, (parseLanguages rawL').result = .ok languages ∧ (parseHosts rawH').result = .ok hosts' ∧
          (generate languages hosts).result = .ok files ∧ (generate languages hosts').result = .ok files := by
  have languages_of {raw raw'} (h : LanguagesReordered raw raw') (languages)
      (parsed : (parseLanguages raw).result = .ok languages) : (parseLanguages raw').result = .ok languages :=
    parseLanguages_eq_ok.2 ((parseLanguages_eq_ok.1 parsed).reordered h)
  have hosts_of {raw raw'} (h : HostsReordered raw raw') (hosts) (parsed : (parseHosts raw).result = .ok hosts) :
      ∃ hosts', (parseHosts raw').result = .ok hosts' :=
    (exists_parseHosts_of_reordered h parsed).imp fun _ => And.left
  refine ⟨⟨exists_error_of_imp fun ls h => ⟨ls, languages_of hl.symm ls h⟩,
    exists_error_of_imp fun ls h => ⟨ls, languages_of hl ls h⟩⟩,
    ⟨exists_error_of_imp (hosts_of hh.symm), exists_error_of_imp (hosts_of hh)⟩, ?_⟩
  intro languages hosts parsedL parsedH
  obtain ⟨hosts', parsedH', alike⟩ := exists_parseHosts_of_reordered hh parsedH
  have generated' := result_generate parsedL parsedH'
  rw [← flatMap_documentsOf_eq alike] at generated'
  exact ⟨hosts', _, languages_of hl languages parsedL, parsedH', result_generate parsedL parsedH, generated'⟩

section Sample

/-- The entries of a region shape with its keys in the opposite order. -/
def oppositeShape (group : Int) : List (Value × Value) :=
  [(.str "begin", .str "x\x7baliases\x7d"), (.str "end", .str "e"), (.str "end_captures", .null),
    (.str "begin_captures", .map [(.int group, .str "s"), (.int 2, .str "t")])]

/-- The entries of a host with the keys of every mapping in the opposite order. -/
def oppositeBody : List (Value × Value) :=
  [(.str "target_scopes", .tuple [.str "t"]), (.str "basic_grammar_pattern", .map (oppositeShape 0)),
    (.str "string_scope", .str "q"), (.str "basic_grammar", .map (oppositeShape (-1)))]

/-- A host table with the keys of every mapping in the opposite order. -/
def oppositeHosts : List (Value × Value) :=
  [(.str "hosts", .map [(.str "h", .map oppositeBody)])]

/-- The shape of the sample with its keys the other way round. -/
lemma reordered_shape {group : Int} (hgroup : group ≠ 2) :
    Reordered (Reordered Eq) (.map (shapeEntries (.int group))) (.map (oppositeShape group)) := by
  have captures : Reordered Eq (.ordered [(.int 2, .str "t"), (.int group, .str "s")])
      (.map [(.int group, .str "s"), (.int 2, .str "t")]) := by
    refine .entries (.ordered _) (.map _) ⟨?_, ?_, _, List.forall₂_same.2 fun _ _ => ⟨rfl, rfl⟩, List.Perm.swap _ _ _⟩
    · simpa [DifferentKeys, Value.same, sameScalar] using hgroup.symm
    · simpa [DifferentKeys, Value.same, sameScalar] using hgroup
  refine .entries (.map _) (.map _) ⟨?_, ?_, (oppositeShape group).reverse, ?_, List.reverse_perm _⟩
  · simp [DifferentKeys, shapeEntries, Value.same, sameScalar, Text.ofString, Text.ofChars]
  · simp [DifferentKeys, oppositeShape, Value.same, sameScalar, Text.ofString, Text.ofChars]
  · exact .cons ⟨rfl, captures⟩ (List.forall₂_same.2 fun _ _ => ⟨rfl, .same _⟩)

/-- The hosts of the sample with their keys the other way round. -/
lemma hostsReordered_sample : HostsReordered (sampleHosts (.int (-1))) oppositeHosts := by
  have body : Reordered (Reordered (Reordered Eq)) (.ordered (sampleBody (.int (-1)))) (.map oppositeBody) := by
    refine .entries (.ordered _) (.map _) ⟨?_, ?_, oppositeBody.reverse, ?_, List.reverse_perm _⟩
    · simp [DifferentKeys, sampleBody, Value.same, sameScalar, Text.ofString, Text.ofChars]
    · simp [DifferentKeys, oppositeBody, Value.same, sameScalar, Text.ofString, Text.ofChars]
    · exact .cons ⟨rfl, reordered_shape (by decide)⟩ (.cons ⟨rfl, .same _⟩
        (.cons ⟨rfl, reordered_shape (by decide)⟩ (.cons ⟨rfl, .same _⟩ .nil)))
  exact .cons ⟨rfl, .entries (.map _) (.map _) (.cons ⟨rfl, body⟩ .nil)⟩ .nil

/-- The languages of the sample with their keys the other way round. -/
lemma languagesReordered_sample :
    LanguagesReordered [(.str "languages", .list [.ordered sampleEntries])]
      [(.str "languages", .list [.map sampleEntries.reverse])] := by
  have item : Reordered Eq (.ordered sampleEntries) (.map sampleEntries.reverse) := by
    refine .entries (.ordered _) (.map _) ⟨?_, ?_, _, List.forall₂_same.2 fun _ _ => ⟨rfl, rfl⟩,
      (List.reverse_perm _).symm⟩
    · simp [DifferentKeys, sampleEntries, Value.same, sameScalar, Text.ofString, Text.ofChars]
    · simp [DifferentKeys, sampleEntries, Value.same, sameScalar, Text.ofString, Text.ofChars]
  exact .cons ⟨rfl, .list (.cons item .nil)⟩ .nil

/-- From the sample with the keys of every mapping in the opposite order the documents of the sample are generated. -/
theorem key_order_does_not_show_sample :
    ∃ hosts' files, (parseLanguages [(.str "languages", .list [.map sampleEntries.reverse])]).result =
        .ok [sampleLanguage] ∧
      (parseHosts oppositeHosts).result = .ok hosts' ∧
      (generate [sampleLanguage] [sampleHost]).result = .ok files ∧
      (generate [sampleLanguage] hosts').result = .ok files :=
  (key_order_does_not_show languagesReordered_sample hostsReordered_sample).2.2 _ _
    (parseLanguages_eq_ok.2 isLanguageTable_sample) ((isHostTable_iff (isShort_sample (by simp [integers]))).2
      isHostTable_sample)

end Sample

end Table

end TaggedGrammar
