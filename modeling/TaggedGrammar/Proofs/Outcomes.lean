import Mathlib
import TaggedGrammar.Outcome

/-!
# Results of outcomes

The result of each way to put an outcome together, and what is known of its notices.
-/

namespace TaggedGrammar.Outcome

variable {α β : Type}

/-- A value is its own result. -/
@[simp] lemma result_pure (a : α) : (pure a : Outcome α).result = .ok a :=
  rfl

/-- An outcome that is well has its value as the result. -/
@[simp] lemma result_ok (a : α) : (ok a).result = .ok a :=
  rfl

/-- An outcome that fails has its fault as the result. -/
@[simp] lemma result_fail (f : Fault) : (fail f : Outcome α).result = .error f :=
  rfl

/-- A notice is no fault. -/
@[simp] lemma result_note (n : Notice) : (note n).result = .ok () :=
  rfl

/-- Earlier notices do not change a result. -/
@[simp] lemma result_after (earlier : List Notice) (o : Outcome α) : (o.after earlier).result = o.result :=
  rfl

/-- What is there is the result. -/
@[simp] lemma result_ofOption_some (f : Fault) (a : α) : (ofOption f (some a)).result = .ok a :=
  rfl

/-- What is not there is the fault that stands for it. -/
@[simp] lemma result_ofOption_none (f : Fault) : (ofOption f (none : Option α)).result = .error f :=
  rfl

/-- The two ways to write one outcome after another are the same. -/
@[simp] lemma andThen_eq_bind (o : Outcome α) (next : α → Outcome β) : o.andThen next = o >>= next :=
  rfl

/-- A result comes only from what is there. -/
lemma result_ofOption_eq_ok {f : Fault} {x : Option α} {a : α} : (ofOption f x).result = .ok a ↔ x = some a := by
  cases x <;> simp

/-- A change of faults leaves results that are well. -/
lemma result_mapFault_eq_ok {g : Fault → Fault} {o : Outcome α} {a : α} :
    (o.mapFault g).result = .ok a ↔ o.result = .ok a := by
  unfold mapFault
  cases h : o.result <;> simp

/-- A changed fault comes from a fault. -/
lemma result_mapFault_eq_error {g : Fault → Fault} {o : Outcome α} {f : Fault} :
    (o.mapFault g).result = .error f ↔ ∃ f', o.result = .error f' ∧ g f' = f := by
  unfold mapFault
  cases h : o.result <;> simp

/-- The result of two outcomes in a row depends on their results only, not on notices. -/
lemma result_bind (o : Outcome α) (next : α → Outcome β) :
    (o >>= next).result = o.result.bind fun a => (next a).result := by
  rw [← andThen_eq_bind, andThen]
  cases o.result <;> rfl

/-- After an outcome that is well the next one decides. -/
lemma result_bind_of_ok {o : Outcome α} {next : α → Outcome β} {a : α} (h : o.result = .ok a) :
    (o >>= next).result = (next a).result := by
  rw [result_bind, h]
  rfl

/-- Two outcomes in a row are well if each of them is. -/
lemma result_bind_eq_ok {o : Outcome α} {next : α → Outcome β} {b : β} :
    (o >>= next).result = .ok b ↔ ∃ a, o.result = .ok a ∧ (next a).result = .ok b := by
  rw [result_bind]
  cases o.result <;> simp [Except.bind]

/-- Two outcomes in a row fail at the first that does. -/
lemma result_bind_eq_error {o : Outcome α} {next : α → Outcome β} {f : Fault} :
    (o >>= next).result = .error f ↔
      o.result = .error f ∨ ∃ a, o.result = .ok a ∧ (next a).result = .error f := by
  rw [result_bind]
  cases o.result <;> simp [Except.bind]

/-- All notices of an outcome have a property. -/
def Notes (P : Notice → Prop) (o : Outcome α) : Prop :=
  ∀ n ∈ o.notices, P n

/-- Notices of two outcomes in a row are notices of one of them. -/
lemma Notes.bind {P : Notice → Prop} {o : Outcome α} {next : α → Outcome β} (h : Notes P o)
    (hnext : ∀ a, Notes P (next a)) : Notes P (o >>= next) := by
  rw [← andThen_eq_bind, andThen]
  cases o.result with
  | ok a => exact List.forall_mem_append.2 ⟨h, hnext a⟩
  | error f => exact h

end TaggedGrammar.Outcome
