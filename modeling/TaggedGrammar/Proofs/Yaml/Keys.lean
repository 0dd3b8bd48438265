import TaggedGrammar.Proofs.Value.Mappings
import TaggedGrammar.Yaml.Read

/-!
# The keys of what is read

No mapping that a reader gives has one key twice, at whatever depth. This does not depend on the text, nor on
what the reader has kept of earlier texts: a mapping is made by writing its entries one after the other.
-/

namespace TaggedGrammar

namespace Value

/-- A value in which no mapping has one key twice. -/
inductive Tidy : Value → Prop where
  | scalar {v} :
    v.isScalar → Tidy v
  | list {items} :
    (∀ v ∈ items, Tidy v) → Tidy (.list items)
  | tuple {items} :
    (∀ v ∈ items, Tidy v) → Tidy (.tuple items)
  | set {members} :
    (∀ v ∈ members, Tidy v) → Tidy (.set members)
  | map {entries} :
    DifferentKeys entries → (∀ e ∈ entries, Tidy e.1) → (∀ e ∈ entries, Tidy e.2) → Tidy (.map entries)
  | ordered {entries} :
    DifferentKeys entries → (∀ e ∈ entries, Tidy e.1) → (∀ e ∈ entries, Tidy e.2) → Tidy (.ordered entries)

end Value

namespace Yaml

open Value

/-- All values that are known are tidy. -/
def Known (values : Values) : Prop :=
  ∀ v, some v ∈ values → v.Tidy

/-- What is known of an object is tidy. -/
lemma Known.getD {values : Values} (h : Known values) (o : ObjectId) :
    Tidy ((values.getD o none).getD .null) := by
  cases hv : values.getD o none with
  | none => exact .scalar rfl
  | some v =>
    rw [Array.getD_eq_getD_getElem?] at hv
    refine h v (Array.mem_of_getElem? (i := o) ?_)
    cases hget : values[o]? with
    | none => simp [hget] at hv
    | some x => simpa [hget] using hv

/-- One more tidy value can be known. -/
lemma Known.set {values : Values} (h : Known values) {v : Value} (hv : v.Tidy) (o : ObjectId) :
    Known (values.setIfInBounds o (some v)) := by
  intro w hw
  rcases Array.mem_or_eq_of_mem_setIfInBounds hw with hmem | heq
  · exact h w hmem
  · cases heq
    exact hv

/-- At first nothing is known. -/
lemma known_replicate (n : Nat) : Known (Array.replicate n none) := by
  intro v hv
  simp at hv

/-- What each step keeps, steps for all items of a list keep. -/
lemma mapM_spec {σ α β : Type} {I : σ → Prop} {P : β → Prop} {f : α → StateM σ β}
    (hf : ∀ x s, I s → P (f x s).1 ∧ I (f x s).2) (items : List α) :
    ∀ s, I s → (∀ y ∈ (items.mapM f s).1, P y) ∧ I (items.mapM f s).2 := by
  induction items with
  | nil => exact fun s hs => ⟨by simp [pure, StateT.pure], hs⟩
  | cons x rest ih =>
    intro s hs
    obtain ⟨hx, hs₁⟩ := hf x s hs
    obtain ⟨hrest, hs₂⟩ := ih _ hs₁
    rw [List.mapM_cons]
    exact ⟨List.forall_mem_cons.2 ⟨hx, hrest⟩, hs₂⟩

/-- An object is tidy if its parts are. -/
lemma valueBy_spec {inside : ObjectId → StateM Values Value}
    (h : ∀ o values, Known values → Tidy (inside o values).1 ∧ Known (inside o values).2) (x : Object)
    {values : Values} (hvalues : Known values) :
    Tidy (x.valueBy inside values).1 ∧ Known (x.valueBy inside values).2 := by
  have items_spec (items : List ObjectId) := mapM_spec (I := Known) (P := Tidy) h items values hvalues
  have entries_spec (entries : List ObjectEntry) :=
    mapM_spec (I := Known) (P := fun e => Tidy e.1 ∧ Tidy e.2) (f := Object.valueBy.pair inside)
      (fun e values hvalues => by
        obtain ⟨hkey, hvalues₁⟩ := h e.1 values hvalues
        obtain ⟨hvalue, hvalues₂⟩ := h e.2 _ hvalues₁
        exact ⟨⟨hkey, hvalue⟩, hvalues₂⟩)
      entries values hvalues
  cases x with
  | scalar v => exact ⟨.scalar v.property, hvalues⟩
  | list items => exact (items_spec items).imp .list id
  | tuple items => exact (items_spec items).imp .tuple id
  | set members => exact (items_spec members).imp .set id
  | map entries =>
    obtain ⟨hentries, hvalues₁⟩ := entries_spec entries
    obtain ⟨hkeys, hall⟩ := ofEntries_spec hentries
    exact ⟨.map hkeys (fun e he => (hall e he).1) (fun e he => (hall e he).2), hvalues₁⟩
  | ordered entries =>
    obtain ⟨hentries, hvalues₁⟩ := entries_spec entries
    obtain ⟨hkeys, hall⟩ := ofEntries_spec hentries
    exact ⟨.ordered hkeys (fun e he => (hall e he).1) (fun e he => (hall e he).2), hvalues₁⟩

/-- Unfolding an object gives a tidy value, and keeps all known values tidy. -/
lemma unfold_spec {objects : Objects} {before : Values} (hbefore : Known before) (depth : Nat) :
    ∀ (o : ObjectId) (values : Values), Known values →
      Tidy (objects.unfold before depth o values).1 ∧ Known (objects.unfold before depth o values).2 := by
  induction depth with
  | zero => exact fun o values hvalues => ⟨hbefore.getD o, hvalues⟩
  | succ depth ih =>
    intro o values hvalues
    cases hknown : values.getD o none with
    | some v =>
      have heq : objects.unfold before (depth + 1) o values = (v, values) := by
        simp only [Objects.unfold, bind, StateT.bind, get, getThe, MonadStateOf.get, StateT.get, pure]
        simp only [hknown]
        rfl
      have hv := hvalues.getD o
      rw [hknown] at hv
      rw [heq]
      exact ⟨hv, hvalues⟩
    | none =>
      -- while its parts are unfolded, an object that contains itself stands for its value from before
      have hstart := hvalues.set (hbefore.getD o) o
      obtain ⟨hv, hvalues₁⟩ := valueBy_spec ih (objects.object o) hstart
      have heq : objects.unfold before (depth + 1) o values =
          let found := (objects.object o).valueBy (objects.unfold before depth)
            (values.setIfInBounds o (some ((before.getD o none).getD .null)))
          (found.1, found.2.setIfInBounds o (some found.1)) := by
        simp only [Objects.unfold, bind, StateT.bind, get, getThe, MonadStateOf.get, StateT.get, pure]
        simp only [hknown]
        rfl
      rw [heq]
      exact ⟨hv, hvalues₁.set hv o⟩

/-- The value of an object is tidy. -/
lemma tidy_value (objects : Objects) (o : ObjectId) : Tidy (objects.value o) := by
  have known (steps : List Nat) : ∀ before, Known before →
      Known (steps.foldl (fun before _ => objects.unfoldAgain o before) before) := by
    induction steps with
    | nil => exact fun before hbefore => hbefore
    | cons step rest ih =>
      intro before hbefore
      exact ih _ (unfold_spec hbefore _ o _ (known_replicate _)).2
  exact (known (List.range unfoldings) _ (known_replicate _)).getD o

section Run

variable {α β : Type} {x : Making α} {next : α → Making β} {m : Memory}

/-- After a step that is well the next one goes on with its memory. -/
lemma Making.run_bind_of_ok {a : α} (h : (x.run.run m).1 = .ok a) :
    (x >>= next).run.run m = (next a).run.run (x.run.run m).2 := by
  change (ExceptT.bindCont next (x.run.run m).1).run (x.run.run m).2 = _
  rw [h]
  rfl

/-- After a step that fails nothing is made. -/
lemma Making.run_bind_of_error {t : Trouble} (h : (x.run.run m).1 = .error t) :
    (x >>= next).run.run m = (.error t, (x.run.run m).2) := by
  change (ExceptT.bindCont next (x.run.run m).1).run (x.run.run m).2 = _
  rw [h]
  rfl

/-- What a part of the making that went well has done first. -/
lemma Making.bind_ok {b : β} (h : ((x >>= next).run.run m).1 = .ok b) : ∃ a m', ((next a).run.run m').1 = .ok b := by
  cases hx : (x.run.run m).1 with
  | ok a =>
    rw [run_bind_of_ok hx] at h
    exact ⟨a, _, h⟩
  | error t =>
    rw [run_bind_of_error hx] at h
    cases h

end Run

/-- Whatever is read is tidy. -/
lemma tidy_of_read {text : List Char} {m : Memory} {v : Value} (h : (read text m).1 = .ok v) : Tidy v := by
  unfold read Making.value at h
  obtain ⟨root, m₁, h₁⟩ := Making.bind_ok h
  cases root with
  | none =>
    cases h₁
    exact .scalar rfl
  | some root =>
    obtain ⟨o, m₂, h₂⟩ := Making.bind_ok h₁
    obtain ⟨m₃, m₄, h₃⟩ := Making.bind_ok h₂
    obtain ⟨-, m₅, h₄⟩ := Making.bind_ok h₃
    cases h₄
    exact tidy_value _ _

end Yaml

end TaggedGrammar
