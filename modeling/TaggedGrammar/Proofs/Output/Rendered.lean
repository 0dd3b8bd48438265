import TaggedGrammar.Proofs.Output.Documents

/-!
# One document by itself

A single document is found by the name of its host and built without the checks that precede a whole run. On tables
that pass these checks it is the document that the run builds under the same name, and no other host has a share in it.
A run builds nothing if the group numbers of a host cannot be displayed.
-/

namespace TaggedGrammar

/-- The name of one of the two documents of a host. -/
def documentName (host : Text) (reinjection : Bool) : Text :=
  if reinjection then reinjectionFile host else grammarFile host

/-- One of the two documents of a host. -/
def documentText (languages : List Language) (host : Host) (reinjection : Bool) : Text :=
  if reinjection then (Grammar.reinjection host languages).render else (Grammar.basicOf host languages).render

variable {languages : List Language} {hosts : List Host} {host : Host}

/-- A document of a host has one of its two names. -/
lemma documentName_mem (host : Text) (reinjection : Bool) : documentName host reinjection ∈ documentNames host := by
  cases reinjection <;> simp [documentName, documentNames]

/-- The documents of a host have its two names. -/
lemma names_documentsOf (languages : List Language) (host : Host) :
    (documentsOf languages host).map (·.name) = documentNames host.name :=
  rfl

/-- A host is not found exactly if no host has the name. -/
lemma findHost?_eq_none {name : Text} : findHost? name hosts = none ↔ name ∉ hosts.map Host.name := by
  simp [findHost?]

/-- A host is found by its name if no other host has it. -/
lemma findHost?_of_mem (different : (hosts.map Host.name).Nodup) (hhost : host ∈ hosts) :
    findHost? host.name hosts = some host := by
  cases found : findHost? host.name hosts with
  | none => exact absurd (List.mem_map_of_mem hhost) (findHost?_eq_none.1 found)
  | some other =>
    have hname : other.name = host.name := by simpa using List.find?_some found
    rw [List.inj_on_of_nodup_map different (List.mem_of_find?_eq_some found) hhost hname]

section Share

variable {p : Text → Bool}

/-- Names of one host select none of the documents of other hosts. -/
lemma filter_documents_of_ne {others : List Host} (own : ∀ name, p name → name ∈ documentNames host.name)
    (hne : ∀ other ∈ others, other.name ≠ host.name) :
    (others.flatMap (documentsOf languages)).filter (fun f => p f.name) = [] := by
  rw [List.filter_eq_nil_iff]
  intro f hf hp
  obtain ⟨other, hother, hf⟩ := List.mem_flatMap.1 hf
  have hname : f.name ∈ documentNames other.name := by
    rw [← names_documentsOf languages other]
    exact List.mem_map_of_mem hf
  exact documentNames_disjoint (hne other hother) hname (own _ hp)

/-- Names of one host select the same documents among those of all hosts and among its own. -/
lemma filter_documents (different : (hosts.map Host.name).Nodup) (hhost : host ∈ hosts)
    (own : ∀ name, p name → name ∈ documentNames host.name) :
    (hosts.flatMap (documentsOf languages)).filter (fun f => p f.name) =
      (documentsOf languages host).filter fun f => p f.name := by
  obtain ⟨before, after, rfl⟩ := List.append_of_mem hhost
  rw [List.map_append, List.map_cons, List.nodup_append, List.nodup_cons] at different
  obtain ⟨-, ⟨behind, -⟩, apart⟩ := different
  have before_ne : ∀ other ∈ before, other.name ≠ host.name := by
    intro other hother
    exact apart _ (List.mem_map_of_mem hother) _ List.mem_cons_self
  have after_ne : ∀ other ∈ after, other.name ≠ host.name := by
    intro other hother heq
    exact behind (heq ▸ List.mem_map_of_mem hother)
  rw [List.flatMap_append, List.flatMap_cons, List.filter_append, List.filter_append,
    filter_documents_of_ne own before_ne, filter_documents_of_ne own after_ne]
  simp

end Share

section Single

variable (languagesDiffer : (languages.map Language.name).Nodup) (different : (hosts.map Host.name).Nodup)
  (hhost : host ∈ hosts)

include different hhost in
/-- The reinjection grammar of a host is always printed. -/
lemma renderHost_reinjection :
    (renderHost ⟨languages, hosts⟩ host.name true).result = .ok (Grammar.reinjection host languages).render := by
  rw [renderHost, findHost?_of_mem different hhost]
  rfl

include different hhost in
/-- The basic grammar of a host is printed if it is built. -/
lemma renderHost_basic :
    (renderHost ⟨languages, hosts⟩ host.name false).result =
      ((Grammar.buildBasic host languages) >>= fun g => .ok g.render).result := by
  rw [renderHost, findHost?_of_mem different hhost]
  rfl

include languagesDiffer different hhost in
/-- A document by itself is printed if the group numbers of its host can be displayed. -/
lemma result_renderHost (short : host.IsShort) (reinjection : Bool) :
    (renderHost ⟨languages, hosts⟩ host.name reinjection).result = .ok (documentText languages host reinjection) := by
  cases reinjection with
  | true => exact renderHost_reinjection different hhost
  | false =>
    rw [renderHost_basic different hhost, Outcome.result_bind_of_ok (Grammar.result_buildBasic languagesDiffer short)]
    rfl

/-- A document by itself is one of its host's two documents. -/
lemma filter_documentsOf (languages : List Language) (host : Host) (reinjection : Bool) :
    (documentsOf languages host).filter (fun f => f.name = documentName host.name reinjection) =
      [⟨documentName host.name reinjection, documentText languages host reinjection⟩] := by
  have apart := grammarFile_ne_reinjectionFile host.name host.name
  cases reinjection with
  | true => simp [documentsOf, documentName, documentText, apart]
  | false => simp [documentsOf, documentName, documentText, apart.symm]

/-- A document by itself is refused as that of an unknown host exactly if no host has the name. -/
lemma renderHost_eq_unknownHost {name : Text} {reinjection : Bool} :
    (renderHost ⟨languages, hosts⟩ name reinjection).result = .error (.unknownHost name (hosts.map Host.name)) ↔
      name ∉ hosts.map Host.name := by
  constructor
  · intro refused hname
    cases found : findHost? name hosts with
    | none => exact findHost?_eq_none.1 found hname
    | some host =>
      rw [renderHost, found] at refused
      cases reinjection with
      | true => cases refused
      | false =>
        -- building a grammar never ends with this fault
        have built := Grammar.built_buildBasic host languages
        rcases Outcome.result_bind_eq_error.1 refused with failed | ⟨g, -, rendered⟩
        · rw [failed] at built
          cases built
        · cases rendered
  · intro hname
    rw [renderHost, findHost?_eq_none.2 hname]
    rfl

end Single

section Sample

/-- A language with two scopes. -/
def printedLanguage : Language :=
  { name := "a", identifiers := [Text.ofString "b"], source := .many [Text.ofString "c", Text.ofString "d"] }

/-- A host without groups, with a chosen name. -/
def printedHost (name : String) : Host :=
  slotHost name [Text.ofString "t"] []

end Sample

end TaggedGrammar
