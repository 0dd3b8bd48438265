import Mathlib
import TaggedGrammar.Command.Request

/-!
# Operands of a command line

A command with a choice of operands is carried out with one of them only: the operand is tested when it is taken, and
no other word changes it.
-/

namespace TaggedGrammar.Command

variable {f : Form} {version : String} {g g' : Given} {s : Switch}

/-- Two steps in a row give a result if each of them does. -/
lemma except_bind_eq_ok {ε α β : Type} {x : Except ε α} {next : α → Except ε β} {b : β} :
    (x >>= next) = .ok b ↔ ∃ a, x = .ok a ∧ next a = .ok b := by
  cases x <;> simp [bind, Except.bind]

namespace Form

/-- What was taken as the operand is one of the choices, if there are any. -/
def Chosen (f : Form) (g : Given) : Prop :=
  ∀ o, f.operand = some o → ∀ words, g.operand = some words → o.choices = [] ∨ words.headD "" ∈ o.choices

/-- Whether an operand is one of the choices depends on the operand only. -/
lemma Chosen.of_operand (h : f.Chosen g) (same : g'.operand = g.operand) : f.Chosen g' := by
  intro o ho words hwords
  rw [same] at hwords
  exact h o ho words hwords

/-- A word passes the check of choices if there are none, or if it is one of them. -/
lemma of_checkChoice {o : Operand} {word : String} (h : f.checkChoice o word = .ok ()) :
    o.choices = [] ∨ word ∈ o.choices := by
  unfold checkChoice at h
  split at h
  next hchoice => simpa using hchoice
  next => cases h

/-- An operand that is taken has passed the check. -/
lemma Chosen.takeOperand {words rest : Words} (h : f.Chosen g) (taken : f.takeOperand g words = .ok (g', rest)) :
    f.Chosen g' := by
  unfold Form.takeOperand at taken
  split at taken
  next o ho hnone =>
    dsimp only at taken
    split at taken
    · cases taken
      exact h
    · have tested (value : List String)
          (hvalue : (f.checkChoice o (value.headD "") >>= fun _ =>
            pure ({ g with operand := some value }, words.drop (operandLength o.takesRest words))) =
              .ok (g', rest)) : f.Chosen g' := by
        obtain ⟨_, checked, heq⟩ := except_bind_eq_ok.1 hvalue
        cases heq
        intro o' ho' words' hwords'
        cases ho.symm.trans ho'
        cases hwords'
        exact of_checkChoice checked
      split at taken
      · exact tested _ taken
      · exact tested _ taken
  next =>
    cases taken
    exact h

/-- A switch does not change the operand. -/
lemma operand_of_applyFlag (h : f.applyFlag version s g = .ok g') : g'.operand = g.operand := by
  unfold applyFlag at h
  split at h
  · cases h
  · cases h
  · cases h
    rfl
  · cases h
    rfl

/-- Neither do several switches in one word. -/
lemma operand_of_applyFlags {switches : List Switch}
    (h : switches.foldlM (fun g s => f.applyFlag version s g) g = .ok g') : g'.operand = g.operand := by
  induction switches generalizing g with
  | nil =>
    cases h
    rfl
  | cons s rest ih =>
    rw [List.foldlM_cons] at h
    obtain ⟨g₁, first, others⟩ := except_bind_eq_ok.1 h
    exact (ih others).trans (operand_of_applyFlag first)

/-- Neither does a switch with a value attached. -/
lemma operand_of_applyAttached {spelling value : String} (h : f.applyAttached version s spelling value g = .ok g') :
    g'.operand = g.operand := by
  unfold applyAttached at h
  split at h
  · cases h
    rfl
  · split at h
    · cases h
    · obtain ⟨all, -, applied⟩ := except_bind_eq_ok.1 h
      exact operand_of_applyFlags applied

/-- No word but the operand changes the operand. -/
lemma Chosen.takeWords {fuel : Nat} {words : Words} (h : f.Chosen g)
    (taken : f.takeWords version fuel g words = .ok g') : f.Chosen g' := by
  induction fuel generalizing g words with
  | zero =>
    cases taken
    exact h
  | succ fuel ih =>
    unfold Form.takeWords at taken
    split at taken
    · cases taken
      exact h
    · refine ih ?_ taken
      exact h.of_operand rfl
    · obtain ⟨g₁, applied, taken⟩ := except_bind_eq_ok.1 taken
      exact ih (h.of_operand (operand_of_applyAttached applied)) taken
    · split at taken
      · split at taken
        · refine ih ?_ taken
          exact h.of_operand rfl
        · cases taken
      · obtain ⟨g₁, applied, taken⟩ := except_bind_eq_ok.1 taken
        exact ih (h.of_operand (operand_of_applyFlag applied)) taken
    · obtain ⟨⟨g₁, rest⟩, operand, taken⟩ := except_bind_eq_ok.1 taken
      have chosen := h.takeOperand operand
      dsimp only at taken
      split at taken
      · exact ih chosen taken
      · refine ih ?_ taken
        exact chosen.of_operand rfl

/-- A command whose operand has choices is given one of them. -/
lemma operand_of_read {o : Operand} {words : List String} (ho : f.operand = some o) (hchoices : o.choices ≠ [])
    (h : f.read version words = .ok g) : Request.operandOf g ∈ o.choices := by
  obtain ⟨roles, -, h⟩ := except_bind_eq_ok.1 h
  obtain ⟨given, taken, h⟩ := except_bind_eq_ok.1 h
  have start : f.Chosen .nothing := fun _ _ _ hnone => nomatch hnone
  have chosen := start.takeWords taken
  rw [ho] at h
  cases hgiven : given.operand with
  | none =>
    rw [hgiven] at h
    cases h
  | some word =>
    rw [hgiven] at h
    cases h
    rw [Request.operandOf, hgiven]
    exact (chosen o ho word hgiven).resolve_left hchoices

end Form

namespace Request

/-- Only the two tables can be listed. -/
lemma what_of_ofWords {words : List String} {what : String} {sources : Table.Sources}
    (h : ofWords words = .ok (.list what sources)) : what = "languages" ∨ what = "hosts" := by
  obtain ⟨g, -, h⟩ := except_bind_eq_ok.1 h
  obtain ⟨⟨request, left⟩, command, h⟩ := except_bind_eq_ok.1 h
  dsimp only at h
  split at h
  next =>
    cases h
    unfold ofCommand at command
    split at command
    · obtain ⟨given, -, command⟩ := except_bind_eq_ok.1 command
      split at command <;> cases command
    · obtain ⟨given, -, command⟩ := except_bind_eq_ok.1 command
      cases command
    · obtain ⟨given, read, command⟩ := except_bind_eq_ok.1 command
      cases command
      have chosen := Form.operand_of_read rfl (List.cons_ne_nil _ _) read
      simpa using chosen
  next => cases h

end Request

end TaggedGrammar.Command
