import TaggedGrammar.Proofs.Files.Locate
import TaggedGrammar.Proofs.Hint.Steps

/-!
# Where coercion fails

A problem of the table is told with its place. `Step` is one step of coercion into a value and `Leads` a walk of such
steps. The place of a problem is the place at which coercion started with a walk behind it. Only a choice hides its
place: its message is made of those of its members, each of which has the place in front.
-/

namespace TaggedGrammar

open Outcome Value

namespace Hint

/-- One step into a value, with the hint for what is there. -/
inductive Step : Hint → Value → Text → Hint → Value → Prop where
  | listItem {item items i w} :
    items[i]? = some w →
    Step (.list item) (.list items) (Text.ofNat i) item w
  | runItem {item v items i w} :
    HasItems v items →
    items[i]? = some w →
    Step (.run item) v (Text.ofNat i) item w
  | tupleItem {hints h v items i w} :
    HasItems v items →
    hints.length = items.length →
    hints[i]? = some h →
    items[i]? = some w →
    Step (.tuple hints) v (Text.ofNat i) h w
  | key {key value v entries k w} :
    HasEntries v entries →
    (k, w) ∈ entries →
    Step (.dict key value) v "<key>" key k
  /-- The step to a value is the text of its coerced key. -/
  | entry {key value v entries k w place k' step} :
    HasEntries v entries →
    (k, w) ∈ entries →
    (coerce key k place).result = .ok k' →
    k'.text? = some step →
    Step (.dict key value) v step value w
  | field {name home fields refusal v entries f w} :
    HasEntries v entries →
    f ∈ fields →
    f.init →
    field? f.name entries = some w →
    Step (.record name home fields refusal) v f.name f.hint w

inductive Leads : Hint → Value → Place → Hint → Value → Prop where
  | here {hint v} :
    Leads hint v [] hint v
  | step {hint v s h w steps h' w'} :
    Step hint v s h w →
    Leads h w steps h' w' →
    Leads hint v (s :: steps) h' w'

/-- The steps walk through the value, or to a record and then to a field that is missing there. -/
inductive Walks (hint : Hint) (v : Value) : Place → Prop where
  | found {steps h w} :
    Leads hint v steps h w →
    Walks hint v steps
  | missing {steps name home fields refusal w entries f} :
    Leads hint v steps (.record name home fields refusal) w →
    HasEntries w entries →
    f ∈ fields →
    f.init →
    f.default = none →
    field? f.name entries = none →
    Walks hint v (steps ++ [Text.ofString f.name])

/-- A choice all members of which refuse the value, at least one of them not only for being null. -/
structure RefusedByAll (members : List Hint) (w : Value) (place : Place) : Prop where
  refused : ∀ member ∈ members, ∃ e, (coerce member w place).result = .error (.table e)
  tried : ∃ member ∈ members, isNull member = false

/-- A message with a place in front. -/
def Names (place : Place) (message : Text) : Prop :=
  ∃ mark rest : Text, (mark = "." ∨ mark = ":") ∧ message = Notice.dotted place ++ mark ++ rest

/-- What is known of a problem that was met below a place. -/
structure Placed (hint : Hint) (v : Value) (path : Place) (e : TableError) : Prop where
  names : Names path e.message
  place :
    (e.path = [] ∧ ∃ steps barred members w,
        Leads hint v steps (.union barred members) w ∧ RefusedByAll members w (path ++ steps)) ∨
      ∃ steps, e.path = path ++ steps ∧ Walks hint v steps

section Placing

variable {hint h : Hint} {v w : Value} {path : Place} {s : Text} {e : TableError} {problem : TableProblem}

/-- A message that names a place names the places above it. -/
lemma Names.of_deeper {message : Text} (hpath : path ≠ []) (hnames : Names (path ++ [s]) message) :
    Names path message := by
  obtain ⟨mark, rest, -, rfl⟩ := hnames
  refine ⟨".", s ++ mark ++ rest, .inl rfl, ?_⟩
  rw [Notice.dotted, Files.Path.join_concat _ _ hpath]
  simp only [Notice.dotted, List.append_assoc]

/-- A message names the place of its problem. -/
lemma names_located (hpath : path ≠ []) : Names path (TableError.message ⟨path, problem⟩) := by
  refine ⟨":", Text.ofString " " ++ problem.text, .inr rfl, ?_⟩
  rw [TableError.message, located, if_neg (by simpa using hpath), ← List.append_assoc]
  simp only [List.append_assoc]
  rfl

/-- One more step in front of a walk is a walk. -/
lemma Walks.step (hstep : Step hint v s h w) {steps : Place} (hwalks : Walks h w steps) :
    Walks hint v (s :: steps) := by
  cases hwalks with
  | found hleads => exact .found (.step hstep hleads)
  | missing hleads hentries hmem hinit hdefault hnone =>
    exact .missing (.step hstep hleads) hentries hmem hinit hdefault hnone

/-- A problem of the value itself is placed at the value. -/
lemma placed_here (hpath : path ≠ []) : Placed hint v path ⟨path, problem⟩ :=
  ⟨names_located hpath, .inr ⟨[], (List.append_nil _).symm, .found .here⟩⟩

/-- What is placed below a step is placed above it. -/
lemma Placed.step (hpath : path ≠ []) (hstep : Step hint v s h w) (hplaced : Placed h w (path ++ [s]) e) :
    Placed hint v path e := by
  refine ⟨hplaced.names.of_deeper hpath, ?_⟩
  rcases hplaced.place with ⟨hempty, steps, barred, members, x, hleads, hall⟩ | ⟨steps, heq, hwalks⟩
  · refine .inl ⟨hempty, s :: steps, barred, members, x, .step hstep hleads, ?_⟩
    rw [List.append_assoc] at hall
    exact hall
  · refine .inr ⟨s :: steps, ?_, hwalks.step hstep⟩
    rw [heq, List.append_assoc]
    rfl

end Placing

section Failures

variable {v w : Value} {path : Place} {e : TableError} {f : Fault}

/-- Items are refused at one of them. -/
lemma of_eachItem_error {g : Value → Place → Outcome Value} {items : List Value} {start : Nat}
    (h : (eachItem g path start items).result = .error f) :
    ∃ i w, items[i]? = some w ∧ (g w (path ++ [Text.ofNat (start + i)])).result = .error f := by
  induction items generalizing start with
  | nil => cases h
  | cons v rest ih =>
    rw [eachItem, result_bind_eq_error] at h
    rcases h with hhere | ⟨x, -, hrest⟩
    · exact ⟨0, v, rfl, hhere⟩
    · rw [result_bind_eq_error] at hrest
      rcases hrest with hrest | ⟨_, -, hpure⟩
      · obtain ⟨i, w, hw, hg⟩ := ih hrest
        refine ⟨i + 1, w, hw, ?_⟩
        rw [← Nat.add_assoc, Nat.add_right_comm]
        exact hg
      · cases hpure

/-- Items with a hint each are refused at one of them. -/
lemma of_coerceEach_error {hints : List Hint} {items : List Value} {start : Nat}
    (h : (coerceEach hints items path start).result = .error f) :
    ∃ i hint w, hints[i]? = some hint ∧ items[i]? = some w ∧
      (coerce hint w (path ++ [Text.ofNat (start + i)])).result = .error f := by
  induction hints generalizing items start with
  | nil => cases h
  | cons hint hints ih =>
    cases items with
    | nil => cases h
    | cons v rest =>
      rw [coerceEach, result_bind_eq_error] at h
      rcases h with hhere | ⟨x, -, hrest⟩
      · exact ⟨0, hint, v, rfl, rfl, hhere⟩
      · rw [result_bind_eq_error] at hrest
        rcases hrest with hrest | ⟨_, -, hpure⟩
        · obtain ⟨i, hint', w, hhint, hw, hg⟩ := ih hrest
          refine ⟨i + 1, hint', w, hhint, hw, ?_⟩
          rw [← Nat.add_assoc, Nat.add_right_comm]
          exact hg
        · cases hpure

/-- Entries are refused at a key or at a value. -/
lemma of_eachEntry_error {key value : Hint} {entries done : List (Value × Value)}
    (h : (eachEntry (coerce key) (coerce value) path done entries).result = .error f) :
    ∃ k w, (k, w) ∈ entries ∧
      ((coerce key k (path ++ [Text.ofString "<key>"])).result = .error f ∨
        ∃ place k', (coerce key k place).result = .ok k' ∧
          (k'.text? = none ∧ f = .tooManyDigits ∨
            ∃ step, k'.text? = some step ∧ (coerce value w (path ++ [step])).result = .error f)) := by
  induction entries generalizing done with
  | nil => cases h
  | cons entry rest ih =>
    obtain ⟨k, w⟩ := entry
    rw [eachEntry, result_bind_eq_error] at h
    rcases h with hkey | ⟨k', hk', h⟩
    · exact ⟨k, w, List.mem_cons_self, .inl hkey⟩
    rw [result_bind_eq_error] at h
    rcases h with hdigits | ⟨step, hstep, h⟩
    · cases htext : k'.text? with
      | none =>
        rw [htext] at hdigits
        cases hdigits
        exact ⟨k, w, List.mem_cons_self, .inr ⟨_, k', hk', .inl ⟨htext, rfl⟩⟩⟩
      | some step =>
        rw [htext] at hdigits
        cases hdigits
    rw [result_bind_eq_error] at h
    rcases h with hvalue | ⟨w', -, h⟩
    · exact ⟨k, w, List.mem_cons_self, .inr ⟨_, k', hk', .inr ⟨step, result_ofOption_eq_ok.1 hstep, hvalue⟩⟩⟩
    · obtain ⟨k, w, hmem, hfails⟩ := ih h
      exact ⟨k, w, List.mem_cons_of_mem _ hmem, hfails⟩

/-- A key that is not declared is told at the mapping. -/
lemma of_checkKeys_error {declared : List Text} {entries : List (Value × Value)}
    (h : (checkKeys declared entries path).result = .error (.table e)) : ∃ problem, e = ⟨path, problem⟩ := by
  unfold checkKeys at h
  split at h
  · cases h
  · split at h
    · cases h
    · cases h
      exact ⟨_, rfl⟩

/-- A field of a record at which its mapping fails. -/
inductive FailsAtField (fields : List (Field Hint)) (entries : List (Value × Value)) (path : Place) (f : Fault) :
    Prop where
  | present {field w} :
    field ∈ fields →
    field.init →
    field? field.name entries = some w →
    (coerce field.hint w (path ++ [Text.ofString field.name])).result = .error f →
    FailsAtField fields entries path f
  | missing {field} :
    field ∈ fields →
    field.init →
    field.default = none →
    field? field.name entries = none →
    f = .inTable (path ++ [Text.ofString field.name]) .missingField →
    FailsAtField fields entries path f

/-- A field that fails is one of more fields. -/
lemma FailsAtField.of_rest {field : Field Hint} {rest : List (Field Hint)} {entries : List (Value × Value)}
    (h : FailsAtField rest entries path f) : FailsAtField (field :: rest) entries path f := by
  cases h with
  | present hmem hinit hfield hfails => exact .present (List.mem_cons_of_mem _ hmem) hinit hfield hfails
  | missing hmem hinit hdefault hnone hf => exact .missing (List.mem_cons_of_mem _ hmem) hinit hdefault hnone hf

/-- Fields are refused at one of them. -/
lemma of_coerceFields_error {fields : List (Field Hint)} {entries : List (Value × Value)}
    (h : (coerceFields fields entries path).result = .error f) : FailsAtField fields entries path f := by
  induction fields with
  | nil => cases h
  | cons field rest ih =>
    have later (here : List (String × Value))
        (hrest : (coerceFields rest entries path >>= fun values => Outcome.ok (here ++ values)).result = .error f) :
        FailsAtField (field :: rest) entries path f := by
      rw [result_bind_eq_error] at hrest
      rcases hrest with hrest | ⟨_, -, hpure⟩
      · exact (ih hrest).of_rest
      · cases hpure
    obtain ⟨name, hint, default, init⟩ := field
    unfold coerceFields at h
    cases init with
    | false =>
      cases default with
      | none => exact later [] h
      | some d => exact later [(name, d)] h
    | true =>
      cases hfield : field? name entries with
      | some w =>
        rw [hfield] at h
        dsimp only at h
        rw [result_bind_eq_error] at h
        rcases h with hhere | ⟨x, -, hrest⟩
        · exact .present List.mem_cons_self rfl hfield hhere
        · exact later [(name, x)] hrest
      | none =>
        rw [hfield] at h
        cases default with
        | none =>
          cases h
          exact .missing List.mem_cons_self rfl rfl hfield rfl
        | some d => exact later [(name, d)] h

/-- The members of a choice that are tried have all refused the value, and their messages are collected in order. -/
lemma of_coerceFirst_error {members : List Hint} {refusals : List Text}
    (h : (coerceFirst members v path refusals).result = .error (.table e)) :
    ∃ errors : List TableError,
      List.Forall₂ (fun member e => (coerce member v path).result = .error (.table e))
        (members.filter fun member => !isNull member) errors ∧
      (refusals ++ errors.map TableError.message = [] ∧ e = ⟨path, .noAlternatives⟩ ∨
        refusals ++ errors.map TableError.message ≠ [] ∧
          e = ⟨[], .refusedByAll (refusals ++ errors.map TableError.message)⟩) := by
  induction members generalizing refusals with
  | nil =>
    refine ⟨[], .nil, ?_⟩
    cases refusals with
    | nil =>
      cases h
      exact .inl ⟨rfl, rfl⟩
    | cons =>
      cases h
      rw [List.map_nil, List.append_nil]
      exact .inr ⟨List.cons_ne_nil _ _, rfl⟩
  | cons member rest ih =>
    rw [coerceFirst] at h
    split at h
    next hnull =>
      rw [List.filter_cons_of_neg (by simp [hnull])]
      exact ih h
    next hnull =>
      rw [List.filter_cons_of_pos (by simp [hnull])]
      dsimp only at h
      split at h
      next e' he' =>
        rw [result_after] at h
        obtain ⟨errors, hall, hmessages⟩ := ih h
        refine ⟨e' :: errors, .cons he' hall, ?_⟩
        rw [List.append_assoc] at hmessages
        exact hmessages
      next hother => exact absurd h (hother e)

/-- A choice is refused if each of its members refuses. -/
lemma refused_of_coerceFirst {members : List Hint} {refusals : List Text}
    (h : (coerceFirst members v path refusals).result = .error (.table e)) :
    ∀ member ∈ members, isNull member = false → ∃ e, (coerce member v path).result = .error (.table e) := by
  obtain ⟨errors, hall, -⟩ := of_coerceFirst_error h
  have each := (List.forall₂_and_left _ _).1 (hall.imp fun member e he => ⟨Exists.intro e he, he⟩)
  intro member hmem hm
  exact each.1 member (List.mem_filter.2 ⟨hmem, by simpa using hm⟩)

end Failures

section Main

variable {v : Value} {path : Place} {e : TableError}

/-- The null member refuses all but null. -/
lemma refused_by_null (hne : v ≠ .null) : ∃ e, (coerce (.instanceOf .null) v path).result = .error (.table e) := by
  cases v with
  | null => exact absurd rfl hne
  | _ => exact ⟨_, rfl⟩

/-- Joined refusals name what one of them names. -/
lemma Names.join {message : Text} {others : List Text} (h : Names path message) :
    Names path (TableError.message ⟨[], .refusedByAll (message :: others)⟩) := by
  obtain ⟨mark, rest, hmark, rfl⟩ := h
  have starts (t : Text) : ∃ more, Text.join " | " (t :: others) = t ++ more := by
    cases others with
    | nil => exact ⟨[], by simp [Text.join]⟩
    | cons second others =>
      refine ⟨Text.ofString " | " ++ Text.join " | " (second :: others), ?_⟩
      rw [Text.join, List.intercalate_cons_cons, List.append_assoc]
      rfl
  obtain ⟨more, hmore⟩ := starts (Notice.dotted path ++ mark ++ rest)
  refine ⟨mark, rest ++ more, hmark, ?_⟩
  rw [← List.append_assoc]
  exact hmore

/-- A choice is refused where one of its members is. -/
lemma placed_of_coerceFirst {barred : Bool} {members : List Hint} (hpath : path ≠ [])
    (hnull : members.any isNull = false ∨ v ≠ .null)
    (ih : ∀ member ∈ members, ∀ e, (coerce member v path).result = .error (.table e) → Placed member v path e)
    (h : (coerceFirst members v path []).result = .error (.table e)) : Placed (.union barred members) v path e := by
  obtain ⟨errors, hall, hmessages⟩ := of_coerceFirst_error h
  rcases hmessages with ⟨-, rfl⟩ | ⟨hsome, rfl⟩
  · exact placed_here hpath
  have refused : ∀ member ∈ members, ∃ e, (coerce member v path).result = .error (.table e) := by
    intro member hmem
    by_cases hm : isNull member = true
    · have hne : v ≠ .null := by
        refine hnull.resolve_left fun hnone => ?_
        exact List.any_eq_false.1 hnone member hmem hm
      rw [isNull_iff.1 hm]
      exact refused_by_null hne
    · exact refused_of_coerceFirst h member hmem (Bool.not_eq_true _ ▸ hm)
  generalize htried : members.filter (fun member => !isNull member) = tried at hall
  cases hall with
  | nil => exact absurd rfl hsome
  | @cons first e others errors hfirst hothers =>
    have hmem : first ∈ members.filter fun member => !isNull member := by
      rw [htried]
      exact List.mem_cons_self
    obtain ⟨hin, hfirst'⟩ := List.mem_filter.1 hmem
    refine ⟨(ih first hin e hfirst).names.join, .inl ⟨rfl, [], barred, members, v, .here, ?_⟩⟩
    rw [List.append_nil]
    exact ⟨refused, first, hin, by simpa using hfirst'⟩

/-- Every problem that coercion to a hint meets is placed, wherever the value stands. -/
def PlacesProblems (hint : Hint) : Prop :=
  ∀ v path e, path ≠ [] → (coerce hint v path).result = .error (.table e) → Placed hint v path e

/-- A problem of a part is placed one step below. -/
lemma PlacesProblems.step {hint h : Hint} {w : Value} {s : Text} (hplaces : PlacesProblems h) (hpath : path ≠ [])
    (hstep : Step hint v s h w) (hfails : (coerce h w (path ++ [s])).result = .error (.table e)) :
    Placed hint v path e := by
  apply Placed.step hpath hstep
  apply hplaces w (path ++ [s]) e _ hfails
  exact List.concat_ne_nil s path

/-- A refusal at a place is placed there. -/
lemma placed_of_fail {hint : Hint} {problem : TableProblem} (hpath : path ≠ [])
    (h : (fail (.inTable path problem) : Outcome Value).result = .error (.table e)) : Placed hint v path e := by
  cases h
  exact placed_here hpath

/-- What is made of a successful outcome has no problem of its own. -/
lemma of_bind_ok_error {α : Type} {o : Outcome α} {g : α → Value} {f : Fault}
    (h : (o >>= fun a => Outcome.ok (g a)).result = .error f) : o.result = .error f := by
  rw [result_bind_eq_error] at h
  rcases h with h | ⟨_, -, h⟩
  · exact h
  · cases h

/-- Scalars are refused where they are. -/
lemma placesProblems_scalar {cls : Class} : PlacesProblems (.scalar cls) := by
  intro v path e hpath h
  rw [coerce, coerceScalar.eq_def] at h
  split at h
  · cases h
  · exact placed_of_fail hpath h
  · rw [andThen_eq_bind] at h
    have hrange := of_bind_ok_error h
    unfold ofOption at hrange
    split at hrange <;> cases hrange
  · split at h
    · cases h
    · exact placed_of_fail hpath h

/-- Instances are refused where they are. -/
lemma placesProblems_instanceOf {cls : Class} : PlacesProblems (.instanceOf cls) := by
  intro v path e hpath h
  rw [coerce, coerceInstance] at h
  split at h
  · cases h
  · exact placed_of_fail hpath h

/-- Literals are refused where they are. -/
lemma placesProblems_literal {options : List Value} : PlacesProblems (.literal options) := by
  intro v path e hpath h
  rw [coerce, coerceLiteral] at h
  split at h
  · cases h
  · split at h
    · exact placed_of_fail hpath h
    · cases h

/-- What is no list is refused where it is. -/
lemma placesProblems_anyList : PlacesProblems .anyList := by
  intro v path e hpath h
  by_cases hlist : ∃ items, v = .list items
  · obtain ⟨items, rfl⟩ := hlist
    cases h
  · rw [coerce_anyList_of_not (not_exists.1 hlist)] at h
    exact placed_of_fail hpath h

/-- What is no sequence is refused where it is. -/
lemma placesProblems_anyTuple : PlacesProblems .anyTuple := by
  intro v path e hpath h
  rcases hasItems_or_not v with ⟨items, hitems⟩ | hnone
  · rw [coerce_anyTuple_of_hasItems hitems] at h
    cases h
  · rw [coerce_anyTuple_of_not hnone] at h
    exact placed_of_fail hpath h

/-- Lists are refused at an item. -/
lemma placesProblems_list {item : Hint} (ih : PlacesProblems item) : PlacesProblems (.list item) := by
  intro v path e hpath h
  by_cases hlist : ∃ items, v = .list items
  · obtain ⟨items, rfl⟩ := hlist
    obtain ⟨i, w, hw, hfails⟩ := of_eachItem_error (of_bind_ok_error h)
    rw [Nat.zero_add] at hfails
    exact ih.step hpath (.listItem hw) hfails
  · rw [coerce_list_of_not (not_exists.1 hlist)] at h
    exact placed_of_fail hpath h

/-- Runs are refused at an item. -/
lemma placesProblems_run {item : Hint} (ih : PlacesProblems item) : PlacesProblems (.run item) := by
  intro v path e hpath h
  rcases hasItems_or_not v with ⟨items, hitems⟩ | hnone
  · rw [coerce_run_of_hasItems hitems] at h
    obtain ⟨i, w, hw, hfails⟩ := of_eachItem_error (of_bind_ok_error h)
    rw [Nat.zero_add] at hfails
    exact ih.step hpath (.runItem hitems hw) hfails
  · rw [coerce_run_of_not hnone] at h
    exact placed_of_fail hpath h

/-- Fixed sequences are refused for their length, or at an item. -/
lemma placesProblems_tuple {hints : List Hint} (ih : ∀ h ∈ hints, PlacesProblems h) :
    PlacesProblems (.tuple hints) := by
  intro v path e hpath h
  rcases hasItems_or_not v with ⟨items, hitems⟩ | hnone
  · rcases eq_or_ne hints [] with rfl | hne
    · rw [coerce_bareTuple_of_hasItems hitems] at h
      cases h
    rw [coerce_tuple_of_hasItems hne hitems] at h
    split at h
    · exact placed_of_fail hpath h
    next hlen =>
      obtain ⟨i, hint, w, hhint, hw, hfails⟩ := of_coerceEach_error (of_bind_ok_error h)
      rw [Nat.zero_add] at hfails
      have hmem : hint ∈ hints := List.mem_of_getElem? hhint
      exact (ih hint hmem).step hpath (.tupleItem hitems (not_not.1 hlen) hhint hw) hfails
  · rw [coerce_tuple_of_not hnone] at h
    exact placed_of_fail hpath h

/-- Mappings are refused at a key or at a value. -/
lemma placesProblems_dict {key value : Hint} (ihkey : PlacesProblems key) (ihvalue : PlacesProblems value) :
    PlacesProblems (.dict key value) := by
  intro v path e hpath h
  rcases hasEntries_or_not v with ⟨entries, hentries⟩ | hnone
  · rw [coerce_dict_of_hasEntries hentries] at h
    obtain ⟨k, w, hmem, hkey | ⟨place, k', hk', ⟨-, hdigits⟩ | ⟨step, hstep, hvalue⟩⟩⟩ :=
      of_eachEntry_error (of_bind_ok_error h)
    · exact ihkey.step hpath (.key hentries hmem) hkey
    · cases hdigits
    · exact ihvalue.step hpath (.entry hentries hmem hk' hstep) hvalue
  · rw [coerce_dict_of_not hnone] at h
    exact placed_of_fail hpath h

/-- A mapping of any entries is accepted, whatever its keys; its texts may be too long, but that is no problem of the
table. -/
lemma placesProblems_anyDict : PlacesProblems .anyDict := by
  intro v path e hpath h
  rcases hasEntries_or_not v with ⟨entries, hentries⟩ | hnone
  · rw [coerce_anyDict, coerce_dict_of_hasEntries hentries] at h
    obtain ⟨k, w, hmem, hkey | ⟨place, k', hk', ⟨-, hdigits⟩ | ⟨step, hstep, hvalue⟩⟩⟩ :=
      of_eachEntry_error (of_bind_ok_error h)
    · cases hkey
    · cases hdigits
    · cases hvalue
  · rw [coerce_anyDict, coerce_dict_of_not hnone] at h
    exact placed_of_fail hpath h

/-- Choices are refused where a member is. -/
lemma placesProblems_union {barred : Bool} {members : List Hint} (ih : ∀ member ∈ members, PlacesProblems member) :
    PlacesProblems (.union barred members) := by
  intro v path e hpath h
  have each (member) (hmem : member ∈ members) (e) := ih member hmem v path e hpath
  by_cases hnull : members.any isNull = true
  · rcases eq_or_ne v .null with rfl | hne
    · rw [coerce_union_null hnull] at h
      cases h
    · rw [coerce_union_of_ne_null hne] at h
      exact placed_of_coerceFirst hpath (.inr hne) each h
  · rw [Bool.not_eq_true] at hnull
    rw [coerce_union hnull] at h
    exact placed_of_coerceFirst hpath (.inl hnull) each h

/-- A mapping is no record because of its keys, because of a field, or because the record refuses to be built. -/
lemma of_coerce_record_error {name : String} {home : Option String} {fields : List (Field Hint)}
    {refusal : Option Text} {entries : List (Value × Value)} {f : Fault} (hentries : HasEntries v entries)
    (h : (coerce (.record name home fields refusal) v path).result = .error f) :
    (checkKeys (fields.map fun f => f.name) entries path).result = .error f ∨ FailsAtField fields entries path f ∨
      ∃ reason, refusal = some reason ∧ f = .refused reason := by
  have checked {next : Unit → Outcome Value}
      (hbind : (checkKeys (fields.map fun f => f.name) entries path >>= next).result = .error f)
      (hnext : (next ()).result = .error f →
        (coerceFields fields entries path).result = .error f ∨ ∃ reason, refusal = some reason ∧ f = .refused reason) :
      (checkKeys (fields.map fun f => f.name) entries path).result = .error f ∨ FailsAtField fields entries path f ∨
        ∃ reason, refusal = some reason ∧ f = .refused reason := by
    rw [result_bind_eq_error] at hbind
    rcases hbind with hkeys | ⟨_, -, hrest⟩
    · exact .inl hkeys
    · exact .inr ((hnext hrest).imp_left of_coerceFields_error)
  cases refusal with
  | none =>
    rw [coerce_record_of_hasEntries hentries] at h
    refine checked h fun hrest => ?_
    rw [result_bind_eq_error] at hrest
    rcases hrest with hfields | ⟨_, -, hbuilt⟩
    · exact .inl hfields
    · cases hbuilt
  | some reason =>
    rw [coerce_refusing_of_hasEntries hentries] at h
    refine checked h fun hrest => ?_
    rw [result_bind_eq_error] at hrest
    rcases hrest with hfields | ⟨_, -, hrefused⟩
    · exact .inl hfields
    · cases hrefused
      exact .inr ⟨reason, rfl, rfl⟩

/-- Records are refused for their keys, or at a field. -/
lemma placesProblems_record {name : String} {home : Option String} {fields : List (Field Hint)}
    {refusal : Option Text} (ih : ∀ f ∈ fields, PlacesProblems f.hint) :
    PlacesProblems (.record name home fields refusal) := by
  intro v path e hpath h
  rcases hasEntries_or_not v with ⟨entries, hentries⟩ | hnone
  · rcases of_coerce_record_error hentries h with hkeys | hfails | ⟨_, -, hrefused⟩
    · obtain ⟨problem, rfl⟩ := of_checkKeys_error hkeys
      exact placed_here hpath
    · cases hfails with
      | present hmem hinit hfield hfails => exact (ih _ hmem).step hpath (.field hentries hmem hinit hfield) hfails
      | @missing f hmem hinit hdefault hnone he =>
        cases he
        refine ⟨(names_located (List.concat_ne_nil _ _)).of_deeper hpath, .inr ⟨[Text.ofString f.name], rfl, ?_⟩⟩
        exact .missing .here hentries hmem hinit hdefault hnone
    · cases hrefused
  · rw [coerce_record_of_not hnone] at h
    exact placed_of_fail hpath h

/-- One case for each kind of hint: coercion fails here, or one step further. -/
lemma placesProblems (hint : Hint) : PlacesProblems hint := by
  induction hint using Hint.inductOn with
  | any => exact fun _ _ _ _ => nofun
  | unchecked item => exact fun _ _ _ _ => nofun
  | scalar cls => exact placesProblems_scalar
  | instanceOf cls => exact placesProblems_instanceOf
  | literal options => exact placesProblems_literal
  | anyList => exact placesProblems_anyList
  | anyDict => exact placesProblems_anyDict
  | anyTuple => exact placesProblems_anyTuple
  | list item ih => exact placesProblems_list ih
  | dict key value ihkey ihvalue => exact placesProblems_dict ihkey ihvalue
  | tuple hints ih => exact placesProblems_tuple ih
  | run item ih => exact placesProblems_run ih
  | union barred members ih => exact placesProblems_union ih
  | record name home fields refusal ih => exact placesProblems_record ih

/-- The message of a problem starts with the place at which coercion started. The place of the problem is that place
and a walk through the value, or it is empty; then all members of a choice on the way have refused their value. -/
theorem problems_name_their_place (hint : Hint) (v : Value) (hpath : path ≠ [])
    (h : (coerce hint v path).result = .error (.table e)) :
    Names path e.message ∧
      ((e.path = [] ∧ ∃ steps barred members w,
          Leads hint v steps (.union barred members) w ∧ RefusedByAll members w (path ++ steps)) ∨
        ∃ steps, e.path = path ++ steps ∧ Walks hint v steps) := by
  obtain ⟨hnames, hplace⟩ := placesProblems hint v path e hpath h
  exact ⟨hnames, hplace⟩

/-- A choice in a sequence under a name. -/
def nestedChoice : Hint :=
  .dict .str (.run (.union false [.scalar .int, .anyDict]))

/-- A record with one field that has no default. -/
def loneField : Hint :=
  .record "R" none [⟨"a", .str, none, true⟩] none

/-- A choice below a key has no place of its own; a missing field has. -/
theorem choice_and_missing_field_name_their_place :
    (∃ e, (coerce nestedChoice (.map [(.str "k", .list [.null])]) ["t"]).result = .error (.table e) ∧
        e.path = [] ∧ Names ["t"] e.message) ∧
      ∃ e steps, (coerce loneField (.map []) ["t"]).result = .error (.table e) ∧
        e.path = Text.ofString "t" :: steps ∧ Walks loneField (.map []) steps := by
  constructor
  · refine ⟨_, rfl, rfl, ?_⟩
    exact (problems_name_their_place nestedChoice (.map [(.str "k", .list [.null])]) (List.cons_ne_nil _ _) rfl).1
  · obtain ⟨-, hplace⟩ := problems_name_their_place loneField (.map []) (List.cons_ne_nil (Text.ofString "t") []) rfl
    rcases hplace with ⟨hempty, -⟩ | ⟨steps, hsteps, hwalks⟩
    · cases hempty
    · exact ⟨_, steps, rfl, hsteps, hwalks⟩

end Main

end Hint

end TaggedGrammar
