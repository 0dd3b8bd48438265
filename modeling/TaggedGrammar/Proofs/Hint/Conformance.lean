import TaggedGrammar.Proofs.Decimal.Range
import TaggedGrammar.Proofs.Hint.Steps
import TaggedGrammar.Proofs.Value.Mappings

/-!
# Coercion decides conformance

`Conforms` says which values fit a hint, and `HasType` what coerced values look like. Coercion accepts the values that
conform and gives each of them the type of the hint; all others are problems of the table. `Decides` states both at
once, so that the argument follows the program part by part.
-/

namespace TaggedGrammar

namespace Outcome

variable {α β : Type} {o : Outcome α} {P S : Prop} {Q T : α → Prop} {R : β → Prop}

/-- The outcome is a result with the property `Q` if `P` holds, and a problem of the table otherwise. -/
def Decides (o : Outcome α) (P : Prop) (Q : α → Prop) : Prop :=
  (∃ a, o.result = .ok a ∧ P ∧ Q a) ∨ ∃ e, o.result = .error (.table e) ∧ ¬P

namespace Decides

/-- A value decides what is true. -/
lemma ok {a : α} (hP : P) (hQ : Q a) : (Outcome.ok a).Decides P Q :=
  .inl ⟨a, rfl, hP, hQ⟩

/-- A problem decides what is false. -/
lemma refused {path : List Text} {problem : TableProblem} (hP : ¬P) :
    (fail (.inTable path problem) : Outcome α).Decides P Q :=
  .inr ⟨_, rfl, hP⟩

/-- A decision carries over to what is equivalent. -/
lemma mono (h : o.Decides P Q) (hP : P ↔ S) (hQ : ∀ a, Q a → T a) : o.Decides S T := by
  rcases h with ⟨a, heq, hp, hq⟩ | ⟨e, heq, hp⟩
  · exact .inl ⟨a, heq, hP.1 hp, hQ a hq⟩
  · exact .inr ⟨e, heq, mt hP.2 hp⟩

/-- Two decisions in a row decide both. -/
lemma bind {next : α → Outcome β} (h : o.Decides P Q) (hnext : ∀ a, Q a → (next a).Decides S R) :
    (o >>= next).Decides (P ∧ S) R := by
  rcases h with ⟨a, heq, hp, hq⟩ | ⟨e, heq, hp⟩
  · rcases hnext a hq with ⟨b, heq', hp', hr⟩ | ⟨e, heq', hp'⟩
    · exact .inl ⟨b, (result_bind_of_ok heq).trans heq', ⟨hp, hp'⟩, hr⟩
    · exact .inr ⟨e, (result_bind_of_ok heq).trans heq', fun both => hp' both.2⟩
  · exact .inr ⟨e, result_bind_eq_error.2 (.inl heq), fun both => hp both.1⟩

/-- Notices do not matter for a decision. -/
lemma after (h : o.Decides P Q) (earlier : List Notice) : (o.after earlier).Decides P Q :=
  h

/-- What follows makes no further decision. -/
lemma andThen {f : α → β} (h : o.Decides P Q) (hf : ∀ a, Q a → R (f a)) :
    (o >>= fun a => Outcome.ok (f a)).Decides P R := by
  have both := h.bind (S := True) fun a hq => Decides.ok trivial (hf a hq)
  exact both.mono (and_iff_left trivial) fun _ hr => hr

end Decides

end Outcome

open Outcome Value

/-- A field that every instance of its record has: tables may set it, or it has a default. -/
def Field.isHeld {α : Type} (f : Field α) : Bool :=
  f.init || f.default.isSome

namespace Hint

/-- A value that fits a hint. -/
inductive Conforms : Hint → Value → Prop where
  | any {v} :
    Conforms .any v
  | unchecked {item v} :
    Conforms (.unchecked item) v
  /-- A truth value is no number. -/
  | scalar {cls v} :
    cls.holds v →
    (∀ b, v = .bool b → cls = .bool) →
    Conforms (.scalar cls) v
  | wholeDouble {n} :
    Conforms (.scalar .float) (.int n)
  | instanceOf {cls v} :
    cls.holds v →
    Conforms (.instanceOf cls) v
  | literal {options option v} :
    option ∈ options →
    option.same v →
    Conforms (.literal options) v
  | anyList {items} :
    Conforms .anyList (.list items)
  | anyDict {v entries} :
    HasEntries v entries →
    Conforms .anyDict v
  | anyTuple {v items} :
    HasItems v items →
    Conforms .anyTuple v
  | list {item items} :
    (∀ x ∈ items, Conforms item x) →
    Conforms (.list item) (.list items)
  | dict {key value v entries} :
    HasEntries v entries →
    (∀ e ∈ entries, Conforms key e.1) →
    (∀ e ∈ entries, Conforms value e.2) →
    Conforms (.dict key value) v
  | run {item v items} :
    HasItems v items →
    (∀ x ∈ items, Conforms item x) →
    Conforms (.run item) v
  /-- Without hints the items of a fixed sequence may be any. -/
  | bareTuple {v items} :
    HasItems v items →
    Conforms (.tuple []) v
  | tuple {hints v items} :
    HasItems v items →
    hints ≠ [] →
    hints.length = items.length →
    (∀ p ∈ hints.zip items, Conforms p.1 p.2) →
    Conforms (.tuple hints) v
  | union {barred members member v} :
    member ∈ members →
    Conforms member v →
    Conforms (.union barred members) v
  | record {name home fields refusal v entries} :
    HasEntries v entries →
    (∀ e ∈ entries, ∃ f ∈ fields, e.1 = .str (Text.ofString f.name)) →
    (∀ f ∈ fields, f.init → f.default = none → (field? f.name entries).isSome) →
    (∀ f ∈ fields, f.init → ∀ w, field? f.name entries = some w → Conforms f.hint w) →
    Conforms (.record name home fields refusal) v

/-- A value that was coerced to a hint. -/
inductive HasType : Hint → Value → Prop where
  | any {v} :
    HasType .any v
  | unchecked {item v} :
    HasType (.unchecked item) v
  | scalar {cls v} :
    cls.holds v →
    (∀ b, v = .bool b → cls = .bool) →
    HasType (.scalar cls) v
  | instanceOf {cls v} :
    cls.holds v →
    HasType (.instanceOf cls) v
  | literal {options option v} :
    option ∈ options →
    option.same v →
    HasType (.literal options) v
  | anyList {items} :
    HasType .anyList (.list items)
  | anyDict {entries} :
    HasType .anyDict (.map entries)
  | anyTuple {items} :
    HasType .anyTuple (.tuple items)
  | list {item items} :
    (∀ x ∈ items, HasType item x) →
    HasType (.list item) (.list items)
  | dict {key value entries} :
    (∀ e ∈ entries, HasType key e.1) →
    (∀ e ∈ entries, HasType value e.2) →
    HasType (.dict key value) (.map entries)
  | run {item items} :
    (∀ x ∈ items, HasType item x) →
    HasType (.run item) (.tuple items)
  | bareTuple {items} :
    HasType (.tuple []) (.tuple items)
  | tuple {hints items} :
    hints ≠ [] →
    hints.length = items.length →
    (∀ p ∈ hints.zip items, HasType p.1 p.2) →
    HasType (.tuple hints) (.tuple items)
  | union {barred members member v} :
    member ∈ members →
    HasType member v →
    HasType (.union barred members) v
  /-- An instance has the fields of its record in order. A default is kept as it is. -/
  | record {name home fields refusal values} :
    values.map Prod.fst = (fields.filter Field.isHeld).map Field.name →
    (∀ p ∈ (fields.filter Field.isHeld).zip values, p.1.init = false → p.1.default = some p.2.2) →
    (∀ p ∈ (fields.filter Field.isHeld).zip values, p.1.default ≠ some p.2.2 → HasType p.1.hint p.2.2) →
    HasType (.record name home fields refusal) (.record name values)

section Inside

/-- A value all whole numbers of which are in the range of doubles, without mappings in keys. -/
structure IsPlain (v : Value) : Prop where
  inRange : ∀ n ∈ v.integers, Double.InRange n
  keys : v.PlainKeys

variable {v : Value} {items : List Value} {entries : List (Value × Value)}

/-- The integers of a plain value can be displayed. -/
lemma IsPlain.isShort (h : IsPlain v) : ∀ n ∈ v.integers, IsShort n :=
  fun n hn => (h.inRange n hn).isShort

/-- A sequence has the integers of its items. -/
lemma HasItems.integers_eq (h : HasItems v items) : v.integers = itemIntegers items := by
  cases h <;> rw [integers]

/-- A sequence has the mappings of its items. -/
lemma HasItems.mappings_eq (h : HasItems v items) : v.mappings = itemMappings items := by
  cases h <;> rw [mappings]

/-- A mapping has the integers of its entries. -/
lemma HasEntries.integers_eq (h : HasEntries v entries) : v.integers = entryIntegers entries := by
  cases h <;> rw [integers]

/-- A mapping has itself and the mappings of its entries. -/
lemma HasEntries.mappings_eq (h : HasEntries v entries) : v.mappings = entries :: entryMappings entries := by
  cases h <;> rw [mappings]

/-- The items of a plain value are plain. -/
lemma IsPlain.item (h : IsPlain v) (hitems : HasItems v items) : ∀ x ∈ items, IsPlain x := by
  intro x hx
  refine ⟨?_, ?_⟩
  · have inRange := h.inRange
    rw [hitems.integers_eq, forall_mem_itemIntegers] at inRange
    exact inRange x hx
  · intro es hes
    apply h.keys
    rw [hitems.mappings_eq]
    exact mem_itemMappings.2 ⟨x, hx, hes⟩

/-- The keys of a plain value hold no mappings. -/
lemma IsPlain.key_mappings (h : IsPlain v) (hentries : HasEntries v entries) : ∀ e ∈ entries, e.1.mappings = [] := by
  apply h.keys
  rw [hentries.mappings_eq]
  exact List.mem_cons_self

/-- The keys of a plain value are plain. -/
lemma IsPlain.key (h : IsPlain v) (hentries : HasEntries v entries) : ∀ e ∈ entries, IsPlain e.1 := by
  intro e he
  refine ⟨?_, ?_⟩
  · have inRange := h.inRange
    rw [hentries.integers_eq, forall_mem_entryIntegers] at inRange
    exact (inRange e he).1
  · intro es hes
    rw [h.key_mappings hentries e he] at hes
    cases hes

/-- The values in a plain value are plain. -/
lemma IsPlain.value (h : IsPlain v) (hentries : HasEntries v entries) : ∀ e ∈ entries, IsPlain e.2 := by
  intro e he
  refine ⟨?_, ?_⟩
  · have inRange := h.inRange
    rw [hentries.integers_eq, forall_mem_entryIntegers] at inRange
    exact (inRange e he).2
  · intro es hes
    apply h.keys
    rw [hentries.mappings_eq]
    exact List.mem_cons_of_mem _ (mem_entryMappings.2 ⟨e, he, .inr hes⟩)

end Inside

section Decisions

variable {v : Value} {path : Place}

/-- What coercion makes of a value. Only mappings bring in defaults, so what is made of any other value can be
displayed as the value can. -/
structure Makes (hint : Hint) (v x : Value) : Prop where
  hasType : HasType hint x
  isShort : v.mappings = [] → ∀ n ∈ x.integers, IsShort n

/-- Coercion decides whether a value conforms to a hint, wherever it stands. -/
def DecidedBy (hint : Hint) (v : Value) : Prop :=
  ∀ path, (coerce hint v path).Decides (Conforms hint v) (Makes hint v)

/-- Scalars are decided by their class. -/
lemma decides_coerceScalar {cls : Class} (hv : IsPlain v) : DecidedBy (.scalar cls) v := by
  intro path
  rw [coerce]
  by_cases hbool : ∃ b, v = .bool b
  · obtain ⟨b, rfl⟩ := hbool
    by_cases hcls : cls = .bool
    · subst hcls
      exact .ok (.scalar rfl fun _ _ => rfl) ⟨.scalar rfl fun _ _ => rfl, fun _ => hv.isShort⟩
    · have refused : coerceScalar cls (.bool b) path = .fail (.inTable path (.expected cls.name "bool")) := by
        cases cls <;> first | rfl | exact absurd rfl hcls
      rw [refused]
      refine .refused fun h => ?_
      cases h with
      | scalar _ honly => exact hcls (honly b rfl)
  by_cases hint : cls = .float ∧ ∃ n, v = .int n
  · obtain ⟨rfl, n, rfl⟩ := hint
    obtain ⟨d, hd⟩ := Option.isSome_iff_exists.1 (Double.isSome_ofInt? (hv.inRange n (by simp [integers])))
    have noBool : ∀ b, Value.float d = .bool b → Class.float = .bool := by
      intro b hb
      cases hb
    refine .inl ⟨.float d, ?_, .wholeDouble, .scalar rfl noBool, ?_⟩
    · rw [coerceScalar, hd]
      rfl
    · simp [integers]
  · have kept : coerceScalar cls v path =
        if cls.holds v then .ok v else .fail (.inTable path (.expected cls.name v.kind)) := by
      cases v with
      | bool b => exact absurd ⟨b, rfl⟩ hbool
      | int n => cases cls <;> first | rfl | exact absurd ⟨rfl, n, rfl⟩ hint
      | _ => cases cls <;> rfl
    have noBool : ∀ b, v = .bool b → cls = .bool := fun b hb => absurd ⟨b, hb⟩ hbool
    rw [kept]
    split
    next holds => exact .ok (.scalar holds noBool) ⟨.scalar holds noBool, fun _ => hv.isShort⟩
    next fails =>
      refine .refused fun h => ?_
      cases h with
      | scalar holds _ => exact fails holds
      | wholeDouble => exact hint ⟨rfl, _, rfl⟩

/-- Instances are decided by their class. -/
lemma decides_coerceInstance {cls : Class} (hv : IsPlain v) : DecidedBy (.instanceOf cls) v := by
  intro path
  rw [coerce, coerceInstance]
  split
  next holds => exact .ok (.instanceOf holds) ⟨.instanceOf holds, fun _ => hv.isShort⟩
  next fails =>
    refine .refused fun h => ?_
    cases h with
    | instanceOf holds => exact fails holds

/-- Literals are decided by their options. -/
lemma decides_coerceLiteral {options : List Value} (hv : IsPlain v)
    (hoptions : ∀ n ∈ (Value.tuple options).integers, IsShort n) : DecidedBy (.literal options) v := by
  intro path
  rw [coerce, coerceLiteral]
  split
  next hany =>
    obtain ⟨option, hmem, hsame⟩ := List.any_eq_true.1 hany
    exact .ok (.literal hmem hsame) ⟨.literal hmem hsame, fun _ => hv.isShort⟩
  next hnone =>
    obtain ⟨os, hos⟩ := Option.isSome_iff_exists.1 (isSome_literal? _ hoptions)
    obtain ⟨s, hs⟩ := Option.isSome_iff_exists.1 (isSome_literal? _ hv.isShort)
    rw [hos, hs]
    refine .refused fun h => ?_
    cases h with
    | literal hmem hsame => exact hnone (List.any_eq_true.2 ⟨_, hmem, hsame⟩)

/-- Items are decided one by one, and all must conform. -/
lemma decides_eachItem {item : Hint} {items : List Value} (h : ∀ v ∈ items, DecidedBy item v) (i : Nat) :
    (eachItem (coerce item) path i items).Decides (∀ v ∈ items, Conforms item v) fun xs =>
      (∀ x ∈ xs, HasType item x) ∧ ((∀ v ∈ items, v.mappings = []) → ∀ n ∈ itemIntegers xs, IsShort n) := by
  induction items generalizing i with
  | nil => exact .ok nofun ⟨nofun, fun _ => nofun⟩
  | cons v rest ih =>
    obtain ⟨first, others⟩ := List.forall_mem_cons.1 h
    rw [List.forall_mem_cons]
    refine (first _).bind fun x hx => (ih others (i + 1)).andThen fun xs hxs => ?_
    refine ⟨List.forall_mem_cons.2 ⟨hx.hasType, hxs.1⟩, fun plain => ?_⟩
    obtain ⟨hplain, hrest⟩ := List.forall_mem_cons.1 plain
    exact List.forall_mem_append.2 ⟨hx.isShort hplain, hxs.2 hrest⟩

/-- Items with a hint each are decided one by one. -/
lemma decides_coerceEach {hints : List Hint} {items : List Value} (hlen : hints.length = items.length)
    (h : ∀ p ∈ hints.zip items, DecidedBy p.1 p.2) (i : Nat) :
    (coerceEach hints items path i).Decides (∀ p ∈ hints.zip items, Conforms p.1 p.2) fun xs =>
      hints.length = xs.length ∧ (∀ p ∈ hints.zip xs, HasType p.1 p.2) ∧
        ((∀ v ∈ items, v.mappings = []) → ∀ n ∈ itemIntegers xs, IsShort n) := by
  induction hints generalizing items i with
  | nil =>
    cases items with
    | nil => exact .ok nofun ⟨rfl, nofun, fun _ => nofun⟩
    | cons => cases hlen
  | cons hint hints ih =>
    cases items with
    | nil => cases hlen
    | cons v rest =>
      rw [List.zip_cons_cons] at h ⊢
      rw [List.forall_mem_cons]
      obtain ⟨first, others⟩ := List.forall_mem_cons.1 h
      refine (first _).bind fun x hx => (ih (Nat.succ.inj hlen) others (i + 1)).andThen fun xs hxs => ?_
      obtain ⟨hlen', htypes, hshort⟩ := hxs
      refine ⟨congrArg Nat.succ hlen', List.forall_mem_cons.2 ⟨hx.hasType, htypes⟩, fun plain => ?_⟩
      obtain ⟨hplain, hrest⟩ := List.forall_mem_cons.1 plain
      exact List.forall_mem_append.2 ⟨hx.isShort hplain, hshort hrest⟩

/-- Entries are decided one by one, the key in front of its value. -/
lemma decides_eachEntry {key value : Hint} {entries : List (Value × Value)} (hplain : ∀ e ∈ entries, e.1.mappings = [])
    (hkey : ∀ e ∈ entries, DecidedBy key e.1) (hvalue : ∀ e ∈ entries, DecidedBy value e.2)
    {done : List (Value × Value)} (hdone : ∀ e ∈ done, HasType key e.1 ∧ HasType value e.2) :
    (eachEntry (coerce key) (coerce value) path done entries).Decides
      (∀ e ∈ entries, Conforms key e.1 ∧ Conforms value e.2) fun es =>
        ∀ e ∈ es, HasType key e.1 ∧ HasType value e.2 := by
  induction entries generalizing done with
  | nil => exact .ok nofun hdone
  | cons e rest ih =>
    obtain ⟨k, v⟩ := e
    obtain ⟨plain, plains⟩ := List.forall_mem_cons.1 hplain
    obtain ⟨firstKey, keys⟩ := List.forall_mem_cons.1 hkey
    obtain ⟨firstValue, values⟩ := List.forall_mem_cons.1 hvalue
    rw [List.forall_mem_cons, and_assoc]
    refine (firstKey _).bind fun k' hk' => ?_
    -- the key holds no mapping, so it can be a step of the path
    obtain ⟨step, hstep⟩ := Option.isSome_iff_exists.1 (isSome_text? (hk'.isShort plain))
    rw [hstep]
    exact (firstValue _).bind fun v' hv' => ih plains keys values (forall_mem_put hk'.hasType hv'.hasType hdone)

/-- The members of a choice are tried in order, null apart. -/
lemma decides_coerceFirst {members : List Hint} (h : ∀ member ∈ members, DecidedBy member v) (refusals : List Text) :
    (coerceFirst members v path refusals).Decides (∃ member ∈ members, isNull member = false ∧ Conforms member v)
      fun x => ∃ member ∈ members, Makes member v x := by
  induction members generalizing refusals with
  | nil => cases refusals <;> exact .refused (by simp)
  | cons member rest ih =>
    obtain ⟨first, others⟩ := List.forall_mem_cons.1 h
    have later := ih others
    by_cases hnull : isNull member = true
    · rw [coerceFirst, if_pos hnull]
      refine (later refusals).mono ?_ fun x hx => ?_
      · simp [hnull]
      · exact hx.imp fun m hm => ⟨List.mem_cons_of_mem _ hm.1, hm.2⟩
    · rw [Bool.not_eq_true] at hnull
      rcases first path with ⟨x, hx, hconf, hmakes⟩ | ⟨e, he, hnot⟩
      · refine .inl ⟨x, ?_, ⟨member, List.mem_cons_self, hnull, hconf⟩, member, List.mem_cons_self, hmakes⟩
        rw [coerceFirst_cons_eq_ok hnull]
        exact .inl hx
      · rw [coerceFirst, if_neg (by simp [hnull])]
        simp only [he]
        refine ((later (refusals ++ [e.message])).after _).mono ?_ fun x hx => ?_
        · simp [hnot]
        · exact hx.imp fun m hm => ⟨List.mem_cons_of_mem _ hm.1, hm.2⟩

/-- Keys are decided by whether they are declared. -/
lemma decides_checkKeys {declared : List Text} {entries : List (Value × Value)}
    (hshort : ∀ e ∈ entries, ∀ n ∈ e.1.integers, IsShort n) :
    (checkKeys declared entries path).Decides (∀ e ∈ entries, ∃ name ∈ declared, e.1 = .str name) fun _ => True := by
  cases hr : (checkKeys declared entries path).result with
  | ok => exact .inl ⟨_, hr, checkKeys_eq_ok.1 hr, trivial⟩
  | error f =>
    obtain ⟨e, rfl⟩ := (checkKeys_fault hr).table hshort
    refine .inr ⟨e, hr, fun declares => ?_⟩
    rw [checkKeys_eq_ok.2 declares] at hr
    cases hr

/-- The values of a record's fields are as `HasType.record` has them. -/
structure AreHeld (fields : List (Field Hint)) (values : List (String × Value)) : Prop where
  names : values.map Prod.fst = (fields.filter Field.isHeld).map Field.name
  defaults : ∀ p ∈ (fields.filter Field.isHeld).zip values, p.1.init = false → p.1.default = some p.2.2
  types : ∀ p ∈ (fields.filter Field.isHeld).zip values, p.1.default ≠ some p.2.2 → HasType p.1.hint p.2.2

/-- One more field that is held. -/
lemma AreHeld.cons {f : Field Hint} {fields : List (Field Hint)} {x : Value} {values : List (String × Value)}
    (h : AreHeld fields values) (held : f.isHeld = true) (hdefault : f.init = false → f.default = some x)
    (htype : f.default ≠ some x → HasType f.hint x) : AreHeld (f :: fields) ((f.name, x) :: values) := by
  have heldFields : (f :: fields).filter Field.isHeld = f :: fields.filter Field.isHeld :=
    List.filter_cons_of_pos held
  constructor
  · rw [heldFields, List.map_cons, List.map_cons, h.names]
  · rw [heldFields, List.zip_cons_cons]
    exact List.forall_mem_cons.2 ⟨hdefault, h.defaults⟩
  · rw [heldFields, List.zip_cons_cons]
    exact List.forall_mem_cons.2 ⟨htype, h.types⟩

/-- One more field that is not held. -/
lemma AreHeld.skip {f : Field Hint} {fields : List (Field Hint)} {values : List (String × Value)}
    (h : AreHeld fields values) (unheld : f.isHeld = false) : AreHeld (f :: fields) values := by
  have heldFields : (f :: fields).filter Field.isHeld = fields.filter Field.isHeld :=
    List.filter_cons_of_neg (by simp [unheld])
  constructor
  · rw [heldFields, h.names]
  · rw [heldFields]
    exact h.defaults
  · rw [heldFields]
    exact h.types

/-- A mapping has what a field requires. -/
structure Provides (entries : List (Value × Value)) (f : Field Hint) : Prop where
  present : f.init → f.default = none → (field? f.name entries).isSome
  conforms : f.init → ∀ w, field? f.name entries = some w → Conforms f.hint w

/-- Fields are decided one by one, and those without defaults must be there. -/
lemma decides_coerceFields {fields : List (Field Hint)} {entries : List (Value × Value)}
    (h : ∀ f ∈ fields, ∀ w, field? f.name entries = some w → DecidedBy f.hint w) :
    (coerceFields fields entries path).Decides (∀ f ∈ fields, Provides entries f) (AreHeld fields) := by
  induction fields with
  | nil => exact .ok (List.forall_mem_nil _) ⟨rfl, List.forall_mem_nil _, List.forall_mem_nil _⟩
  | cons f rest ih =>
    obtain ⟨first, others⟩ := List.forall_mem_cons.1 h
    obtain ⟨name, hint, default, init⟩ := f
    rw [List.forall_mem_cons]
    unfold coerceFields
    have followed (here : List (String × Value))
        (hhere : ∀ values, AreHeld rest values → AreHeld (⟨name, hint, default, init⟩ :: rest) (here ++ values)) :=
      (ih others).andThen hhere
    cases init with
    | false =>
      have provided : Provides entries ⟨name, hint, default, false⟩ :=
        ⟨fun hinit => absurd hinit Bool.false_ne_true, fun hinit => absurd hinit Bool.false_ne_true⟩
      cases default with
      | none => exact (Decides.ok provided fun _ hrest => hrest.skip rfl).bind followed
      | some d =>
        refine (Decides.ok provided fun _ hrest => ?_).bind followed
        exact hrest.cons rfl (fun _ => rfl) fun hne => absurd rfl hne
    | true =>
      cases hfield : field? name entries with
      | some w =>
        have provides : Conforms hint w ↔ Provides entries ⟨name, hint, default, true⟩ := by
          constructor
          · intro hconf
            refine ⟨fun _ _ => Option.isSome_of_mem hfield, fun _ w' hw' => ?_⟩
            cases hfield.symm.trans hw'
            exact hconf
          · intro provided
            exact provided.conforms rfl w hfield
        rw [← provides]
        refine (first w hfield _).bind fun x hx => followed [(name, x)] fun _ hrest => ?_
        exact hrest.cons rfl (fun hinit => absurd hinit.symm Bool.false_ne_true) fun _ => hx.hasType
      | none =>
        cases default with
        | none =>
          refine (Decides.refused fun provided => ?_).bind followed
          have present := provided.present rfl rfl
          rw [hfield] at present
          cases present
        | some d =>
          have provided : Provides entries ⟨name, hint, some d, true⟩ := by
            refine ⟨fun _ hnone => absurd hnone (Option.some_ne_none d), fun _ w hw => ?_⟩
            rw [hfield] at hw
            cases hw
          refine (Decides.ok provided fun _ hrest => ?_).bind followed
          exact hrest.cons rfl (fun hinit => absurd hinit.symm Bool.false_ne_true) fun hne => absurd rfl hne

end Decisions

section Main

variable {v : Value}

/-- A hint whose own test ends with an answer: records can be built, and options can be displayed. -/
def IsUsable : Hint → Prop
  | record _ _ _ refusal => refusal = none
  | literal options => ∀ n ∈ (Value.tuple options).integers, IsShort n
  | _ => True

/-- A mapping holds a mapping. -/
lemma HasEntries.mappings_ne {entries : List (Value × Value)} (h : HasEntries v entries) : v.mappings ≠ [] := by
  rw [h.mappings_eq]
  exact List.cons_ne_nil _ _

/-- Sequences of anything are decided. -/
lemma decidedBy_anyTuple (hv : IsPlain v) : DecidedBy .anyTuple v := by
  intro path
  rcases hasItems_or_not v with ⟨items, hitems⟩ | hnone
  · rw [coerce_anyTuple_of_hasItems hitems]
    refine .ok (.anyTuple hitems) ⟨.anyTuple, fun _ => ?_⟩
    rw [integers, ← hitems.integers_eq]
    exact hv.isShort
  · rw [coerce_anyTuple_of_not hnone]
    refine .refused fun h => ?_
    cases h with
    | anyTuple hitems => exact hnone _ hitems

/-- Lists of anything are decided. -/
lemma decidedBy_anyList (hv : IsPlain v) : DecidedBy .anyList v := by
  intro path
  by_cases hlist : ∃ items, v = .list items
  · obtain ⟨items, rfl⟩ := hlist
    exact .ok .anyList ⟨.anyList, fun _ => hv.isShort⟩
  · rw [coerce_anyList_of_not (not_exists.1 hlist)]
    refine .refused fun h => ?_
    cases h with
    | anyList => exact hlist ⟨_, rfl⟩

/-- Lists are decided if their items are. -/
lemma decidedBy_list {item : Hint} (hv : IsPlain v) (hitem : ∀ x, IsPlain x → DecidedBy item x) :
    DecidedBy (.list item) v := by
  intro path
  by_cases hlist : ∃ items, v = .list items
  · obtain ⟨items, rfl⟩ := hlist
    have items_plain := hv.item (.list items)
    have each := @decides_eachItem path item items (fun x hx => hitem x (items_plain x hx)) 0
    refine (each.andThen fun xs hxs => ?_).mono ?_ fun _ hx => hx
    · refine ⟨.list hxs.1, fun hnone => hxs.2 ?_⟩
      rw [mappings] at hnone
      exact itemMappings_eq_nil.1 hnone
    · constructor
      · exact .list
      · intro h
        cases h with
        | list hall => exact hall
  · rw [coerce_list_of_not (not_exists.1 hlist)]
    refine .refused fun h => ?_
    cases h with
    | list => exact hlist ⟨_, rfl⟩

/-- Runs are decided if their items are. -/
lemma decidedBy_run {item : Hint} (hv : IsPlain v) (hitem : ∀ x, IsPlain x → DecidedBy item x) :
    DecidedBy (.run item) v := by
  intro path
  rcases hasItems_or_not v with ⟨items, hitems⟩ | hnone
  · rw [coerce_run_of_hasItems hitems]
    have items_plain := hv.item hitems
    have each := @decides_eachItem path item items (fun x hx => hitem x (items_plain x hx)) 0
    refine (each.andThen fun xs hxs => ?_).mono ?_ fun _ hx => hx
    · refine ⟨.run hxs.1, fun hnone => hxs.2 ?_⟩
      rw [hitems.mappings_eq] at hnone
      exact itemMappings_eq_nil.1 hnone
    · constructor
      · exact .run hitems
      · intro h
        cases h with
        | run hitems' hall =>
          cases hitems.unique hitems'
          exact hall
  · rw [coerce_run_of_not hnone]
    refine .refused fun h => ?_
    cases h with
    | run hitems => exact hnone _ hitems

/-- Fixed sequences are decided if their items are. -/
lemma decidedBy_tuple {hints : List Hint} (hv : IsPlain v) (hhints : ∀ h ∈ hints, ∀ x, IsPlain x → DecidedBy h x) :
    DecidedBy (.tuple hints) v := by
  intro path
  rcases hasItems_or_not v with ⟨items, hitems⟩ | hnone
  · rcases eq_or_ne hints [] with rfl | hne
    · rw [coerce_bareTuple_of_hasItems hitems]
      refine .ok (.bareTuple hitems) ⟨.bareTuple, fun _ => ?_⟩
      rw [integers, ← hitems.integers_eq]
      exact hv.isShort
    rw [coerce_tuple_of_hasItems hne hitems]
    split
    next hlen =>
      refine .refused fun h => ?_
      cases h with
      | bareTuple => exact hne rfl
      | tuple hitems' _ hlen' =>
        cases hitems.unique hitems'
        exact hlen hlen'
    next hlen =>
      rw [not_not] at hlen
      have items_plain := hv.item hitems
      have decided (p) (hp : p ∈ hints.zip items) : DecidedBy p.1 p.2 :=
        hhints p.1 (List.of_mem_zip hp).1 p.2 (items_plain p.2 (List.of_mem_zip hp).2)
      refine ((decides_coerceEach hlen decided 0).andThen fun xs hxs => ?_).mono ?_ fun _ hx => hx
      · obtain ⟨hlen', htypes, hshort⟩ := hxs
        refine ⟨.tuple hne hlen' htypes, fun hnone => hshort ?_⟩
        rw [hitems.mappings_eq] at hnone
        exact itemMappings_eq_nil.1 hnone
      · constructor
        · exact .tuple hitems hne hlen
        · intro h
          cases h with
          | bareTuple => exact absurd rfl hne
          | tuple hitems' _ _ hall =>
            cases hitems.unique hitems'
            exact hall
  · rw [coerce_tuple_of_not hnone]
    refine .refused fun h => ?_
    cases h with
    | bareTuple hitems => exact hnone _ hitems
    | tuple hitems => exact hnone _ hitems

/-- The entries of a plain mapping are decided if keys and values are. -/
lemma decides_entries {key value : Hint} {entries : List (Value × Value)} {path : Place} (hv : IsPlain v)
    (hentries : HasEntries v entries) (hkey : ∀ x, IsPlain x → DecidedBy key x)
    (hvalue : ∀ x, IsPlain x → DecidedBy value x) :
    (eachEntry (coerce key) (coerce value) path [] entries).Decides
      (∀ e ∈ entries, Conforms key e.1 ∧ Conforms value e.2) fun es =>
        ∀ e ∈ es, HasType key e.1 ∧ HasType value e.2 :=
  decides_eachEntry (hv.key_mappings hentries) (fun e he => hkey _ (hv.key hentries e he))
    (fun e he => hvalue _ (hv.value hentries e he)) nofun

/-- Everything conforms to a hint that asks for nothing. -/
lemma decidedBy_any (hv : IsPlain v) : DecidedBy .any v :=
  fun _ => .ok .any ⟨.any, fun _ => hv.isShort⟩

/-- Mappings are decided if keys and values are. -/
lemma decidedBy_dict {key value : Hint} (hv : IsPlain v) (hkey : ∀ x, IsPlain x → DecidedBy key x)
    (hvalue : ∀ x, IsPlain x → DecidedBy value x) : DecidedBy (.dict key value) v := by
  intro path
  rcases hasEntries_or_not v with ⟨entries, hentries⟩ | hnone
  · rw [coerce_dict_of_hasEntries hentries]
    refine ((decides_entries hv hentries hkey hvalue).andThen fun es hes => ?_).mono ?_ fun _ hx => hx
    · exact ⟨.dict (fun e he => (hes e he).1) fun e he => (hes e he).2, fun hnil => absurd hnil hentries.mappings_ne⟩
    · constructor
      · intro hall
        exact .dict hentries (fun e he => (hall e he).1) fun e he => (hall e he).2
      · intro h
        cases h with
        | dict hentries' hkeys hvalues =>
          cases hentries.unique hentries'
          exact fun e he => ⟨hkeys e he, hvalues e he⟩
  · rw [coerce_dict_of_not hnone]
    refine .refused fun h => ?_
    cases h with
    | dict hentries => exact hnone _ hentries

/-- Mappings of anything are decided. -/
lemma decidedBy_anyDict (hv : IsPlain v) : DecidedBy .anyDict v := by
  intro path
  rw [coerce_anyDict]
  refine (decidedBy_dict hv (fun _ => decidedBy_any) (fun _ => decidedBy_any) path).mono ?_ fun x hx => ?_
  · constructor
    · intro h
      cases h with
      | dict hentries => exact .anyDict hentries
    · intro h
      cases h with
      | anyDict hentries => exact .dict hentries (fun _ _ => .any) fun _ _ => .any
  · obtain ⟨htype, hshort⟩ := hx
    cases htype with
    | dict => exact ⟨.anyDict, hshort⟩

/-- Choices are decided if their members are. -/
lemma decidedBy_union {barred : Bool} {members : List Hint} (hmembers : ∀ h ∈ members, DecidedBy h v) :
    DecidedBy (.union barred members) v := by
  intro path
  have tried : (coerceFirst members v path []).Decides (∃ member ∈ members, isNull member = false ∧ Conforms member v)
      (Makes (.union barred members) v) := by
    refine (decides_coerceFirst hmembers []).mono Iff.rfl fun x hx => ?_
    obtain ⟨member, hmem, hmakes⟩ := hx
    exact ⟨.union hmem hmakes.hasType, hmakes.isShort⟩
  have accepts : (∃ member ∈ members, Conforms member v) ↔ Conforms (.union barred members) v := by
    constructor
    · rintro ⟨member, hmem, hconf⟩
      exact .union hmem hconf
    · intro h
      cases h with
      | union hmem hconf => exact ⟨_, hmem, hconf⟩
  by_cases hnull : members.any isNull = true
  · rcases eq_or_ne v .null with rfl | hne
    · obtain ⟨member, hmem, hm⟩ := List.any_eq_true.1 hnull
      rw [isNull_iff] at hm
      subst hm
      rw [coerce_union_null hnull]
      exact .ok (.union hmem (.instanceOf rfl)) ⟨.union hmem (.instanceOf rfl), fun _ => nofun⟩
    · rw [coerce_union_of_ne_null hne]
      refine tried.mono (Iff.trans ?_ accepts) fun _ hx => hx
      -- the class of null accepts null alone
      constructor
      · rintro ⟨member, hmem, -, hconf⟩
        exact ⟨member, hmem, hconf⟩
      · rintro ⟨member, hmem, hconf⟩
        refine ⟨member, hmem, ?_, hconf⟩
        rw [Bool.eq_false_iff]
        intro hm
        rw [isNull_iff] at hm
        subst hm
        cases hconf with
        | instanceOf holds => cases v <;> first | exact hne rfl | cases holds
  · rw [Bool.not_eq_true] at hnull
    rw [coerce_union hnull]
    refine tried.mono (Iff.trans ?_ accepts) fun _ hx => hx
    constructor
    · rintro ⟨member, hmem, -, hconf⟩
      exact ⟨member, hmem, hconf⟩
    · rintro ⟨member, hmem, hconf⟩
      exact ⟨member, hmem, Bool.eq_false_iff.2 (List.any_eq_false.1 hnull member hmem), hconf⟩

/-- Records are decided if their fields are. -/
lemma decidedBy_record {name : String} {home : Option String} {fields : List (Field Hint)} (hv : IsPlain v)
    (hfields : ∀ f ∈ fields, ∀ x, IsPlain x → DecidedBy f.hint x) : DecidedBy (.record name home fields none) v := by
  intro path
  rcases hasEntries_or_not v with ⟨entries, hentries⟩ | hnone
  · rw [coerce_record_of_hasEntries hentries]
    have keys := hv.key hentries
    have found (f) (hf : f ∈ fields) (w) (hw : field? f.name entries = some w) : DecidedBy f.hint w :=
      hfields f hf w (of_lookup (hv.value hentries) hw)
    refine ((decides_checkKeys fun e he => (keys e he).isShort).bind fun _ _ =>
      (decides_coerceFields found).bind (S := True) fun values hvalues => ?_).mono ?_ fun _ hx => hx
    · refine .inl ⟨.record name values, rfl, trivial, ?_, fun hnil => absurd hnil hentries.mappings_ne⟩
      exact .record hvalues.names hvalues.defaults hvalues.types
    · constructor
      · rintro ⟨hkeys, hprovides, -⟩
        refine .record hentries (fun e he => ?_) (fun f hf => (hprovides f hf).present)
          fun f hf => (hprovides f hf).conforms
        obtain ⟨_, hname, heq⟩ := hkeys e he
        obtain ⟨f, hf, rfl⟩ := List.mem_map.1 hname
        exact ⟨f, hf, heq⟩
      · intro h
        cases h with
        | record hentries' hkeys hpresent hconf =>
          cases hentries.unique hentries'
          refine ⟨fun e he => ?_, fun f hf => ⟨hpresent f hf, hconf f hf⟩, trivial⟩
          obtain ⟨f, hf, heq⟩ := hkeys e he
          exact ⟨_, List.mem_map_of_mem hf, heq⟩
  · rw [coerce_record_of_not hnone]
    refine .refused fun h => ?_
    cases h with
    | record hentries => exact hnone _ hentries

/-- One case for each kind of hint; the hints inside decide about the values inside. -/
lemma decidedBy_of_isUsable (hint : Hint) :
    (∀ h ∈ hint.parts, IsUsable h) → ∀ v, IsPlain v → DecidedBy hint v := by
  induction hint using Hint.inductOn with
  | any => exact fun _ _ => decidedBy_any
  | unchecked item => exact fun _ v hv _ => .ok .unchecked ⟨.unchecked, fun _ => hv.isShort⟩
  | scalar cls => exact fun _ _ => decides_coerceScalar
  | instanceOf cls => exact fun _ _ => decides_coerceInstance
  | literal options =>
    intro usable v hv
    exact decides_coerceLiteral hv (usable _ List.mem_cons_self)
  | anyList => exact fun _ _ => decidedBy_anyList
  | anyDict => exact fun _ _ => decidedBy_anyDict
  | anyTuple => exact fun _ _ => decidedBy_anyTuple
  | list item ih =>
    intro usable v hv
    exact decidedBy_list hv (ih (forall_parts_list.1 usable).2)
  | dict key value ihkey ihvalue =>
    intro usable v hv
    obtain ⟨-, hkey, hvalue⟩ := forall_parts_dict.1 usable
    exact decidedBy_dict hv (ihkey hkey) (ihvalue hvalue)
  | tuple hints ih =>
    intro usable v hv
    exact decidedBy_tuple hv fun h hh => ih h hh ((forall_parts_tuple.1 usable).2 h hh)
  | run item ih =>
    intro usable v hv
    exact decidedBy_run hv (ih (forall_parts_run.1 usable).2)
  | union barred members ih =>
    intro usable v hv
    exact decidedBy_union fun h hh => ih h hh ((forall_parts_union.1 usable).2 h hh) v hv
  | record name home fields refusal ih =>
    intro usable v hv
    obtain ⟨hself, hinside⟩ := forall_parts_record.1 usable
    have built : refusal = none := hself
    rw [built]
    exact decidedBy_record hv fun f hf => ih f hf (hinside f hf)

/-- Coercion accepts exactly the values that conform to the hint, gives each of them the type of the hint, and refuses
all others with a problem of the table. A fixed sequence without hints is conformed to by every sequence. Whole numbers
are taken to be in the range of doubles, and keys to hold no mappings; the records of the hint can be built, and its
options displayed. -/
theorem coerce_decides_conformance (hint : Hint) (v : Value) (path : Place) (range : ∀ n ∈ v.integers, Double.InRange n)
    (plain : v.PlainKeys) (usable : ∀ h ∈ hint.parts, h.IsUsable) :
    ((∃ x, (coerce hint v path).result = .ok x) ↔ Conforms hint v) ∧
      (¬Conforms hint v → ∃ e, (coerce hint v path).result = .error (.table e)) ∧
      ∀ x, (coerce hint v path).result = .ok x → HasType hint x := by
  rcases decidedBy_of_isUsable hint usable v ⟨range, plain⟩ path with ⟨x, hx, hconf, hmakes⟩ | ⟨e, he, hnot⟩
  · refine ⟨⟨fun _ => hconf, fun _ => ⟨x, hx⟩⟩, fun hnot => absurd hconf hnot, fun y hy => ?_⟩
    cases hx.symm.trans hy
    exact hmakes.hasType
  · rw [he]
    refine ⟨⟨nofun, fun hconf => absurd hconf hnot⟩, fun _ => ⟨e, rfl⟩, nofun⟩

section Sample

/-- Numbers under names, or nothing. -/
def numbersByName : Hint :=
  .dict .str (.union false [.run (.scalar .float), .instanceOf .null])

/-- The hint of the sample is usable. -/
lemma isUsable_numbersByName : ∀ h ∈ numbersByName.parts, h.IsUsable := by
  simp [numbersByName, parts, partsOfEach, str, IsUsable]

/-- A value of the sample conforms to it. -/
lemma conforms_numbersByName :
    Conforms numbersByName (.map [(.str "a", .list [.int 3]), (.str "b", .null)]) := by
  have text (s : Text) : Conforms .str (.str s) := .scalar rfl nofun
  refine .dict (.map _) ?_ ?_
  · simp only [List.forall_mem_cons, List.not_mem_nil, false_imp_iff, implies_true, and_true]
    exact ⟨text _, text _⟩
  · simp only [List.forall_mem_cons, List.not_mem_nil, false_imp_iff, implies_true, and_true]
    constructor
    · refine .union List.mem_cons_self (.run (.list _) ?_)
      exact List.forall_mem_singleton.2 .wholeDouble
    · exact .union (List.mem_cons_of_mem _ List.mem_cons_self) (.instanceOf rfl)

/-- A truth value is no number, and a sequence is not null. -/
lemma not_conforms_numbersByName : ¬Conforms numbersByName (.map [(.str "a", .list [.bool true])]) := by
  intro h
  cases h with
  | dict hentries _ hvalues =>
    cases hentries.unique (.map _)
    cases List.forall_mem_singleton.1 hvalues with
    | union hmem hconf =>
      simp only [List.mem_cons, List.not_mem_nil, or_false] at hmem
      rcases hmem with rfl | rfl
      · cases hconf with
        | run hitems hall =>
          cases hitems.unique (.list _)
          cases List.forall_mem_singleton.1 hall with
          | scalar holds => cases holds
      · cases hconf with
        | instanceOf holds => cases holds

/-- Of two mappings one is accepted with its type, and the other is refused for a truth value. -/
theorem numbers_by_name_are_decided :
    (∃ x, (coerce numbersByName (.map [(.str "a", .list [.int 3]), (.str "b", .null)]) []).result = .ok x ∧
        HasType numbersByName x) ∧
      ∃ e, (coerce numbersByName (.map [(.str "a", .list [.bool true])]) []).result = .error (.table e) := by
  constructor
  · have decided := coerce_decides_conformance numbersByName (.map [(.str "a", .list [.int 3]), (.str "b", .null)]) []
      (by decide +kernel) (by decide) isUsable_numbersByName
    obtain ⟨x, hx⟩ := decided.1.2 conforms_numbersByName
    exact ⟨x, hx, decided.2.2 x hx⟩
  · have decided := coerce_decides_conformance numbersByName (.map [(.str "a", .list [.bool true])]) []
      (by decide +kernel) (by decide) isUsable_numbersByName
    exact decided.2.1 not_conforms_numbersByName

end Sample

section Limits

/-- The options of a literal are displayed when they refuse a value, and a number with too many digits cannot be. -/
lemma coerce_literal_of_not_isShort {n : Int} {s : Text} {path : Place} (long : ¬IsShort n) :
    coerce (.literal [.int n]) (.str s) path = .fail .tooManyDigits := by
  have noText : (Value.tuple [.int n]).literal? = none := by
    rw [literal?, literals?, literal?, integerText?_of_not_isShort long]
    rfl
  have refused : ([Value.int n].any fun o => o.same (.str s)) = false := by simp [Value.same, sameScalar]
  rw [coerce, coerceLiteral, noText, refused]
  rfl

/-- A fixed sequence without hints is not held to its length: it takes a list of one item, too. A literal with an option
that cannot be displayed does not refuse a value as other literals do. -/
theorem empty_tuple_takes_items_and_long_option_stops :
    ([] : List Hint).length ≠ [Value.int 1].length ∧
      (coerce (.tuple []) (.list [.int 1]) []).result = .ok (.tuple [.int 1]) ∧
      (coerce (.literal [.int (10 ^ digitLimit)]) (.str "x") []).result = .error .tooManyDigits := by
  refine ⟨Nat.zero_ne_one, rfl, ?_⟩
  rw [coerce_literal_of_not_isShort not_isShort_pow]
  exact result_fail _

end Limits

end Main

end Hint

end TaggedGrammar
