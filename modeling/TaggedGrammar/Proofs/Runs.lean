import Mathlib
import TaggedGrammar.Run

/-!
# How runs end

A run ends with a result in a session; its notices are left aside. For each way to put a run together there
is one lemma that says how it ends, so that later proofs follow a program step by step and never open it.
-/

namespace TaggedGrammar.Run

variable {α β : Type}

/-- The run `r` from `s` ends with the result `res` in `s'`. -/
def Ends (r : Run α) (s : Session) (res : Except Fault α) (s' : Session) : Prop :=
  (r s).1.result = res ∧ (r s).2 = s'

/-- Every run ends. -/
lemma ends (r : Run α) (s : Session) : Ends r s (r s).1.result (r s).2 :=
  ⟨rfl, rfl⟩

/-- A run ends in one way only. -/
lemma Ends.unique {r : Run α} {s s₁ s₂ res₁ res₂} (h₁ : Ends r s res₁ s₁) (h₂ : Ends r s res₂ s₂) :
    res₁ = res₂ ∧ s₁ = s₂ :=
  ⟨h₁.1.symm.trans h₂.1, h₁.2.symm.trans h₂.2⟩

/-- A value is given at once, and nothing else happens. -/
@[simp] lemma ends_pure {a : α} {s res s'} : Ends (pure a) s res s' ↔ res = .ok a ∧ s' = s :=
  ⟨fun h => ⟨h.1.symm, h.2.symm⟩, fun h => ⟨h.1.symm, h.2.symm⟩⟩

/-- A fault ends a run where it stands. -/
@[simp] lemma ends_fail {f : Fault} {s res s'} :
    Ends (fail f : Run α) s res s' ↔ res = .error f ∧ s' = s :=
  ⟨fun h => ⟨h.1.symm, h.2.symm⟩, fun h => ⟨h.1.symm, h.2.symm⟩⟩

/-- An outcome is handed on, and it has no effect on the session. -/
@[simp] lemma ends_ofOutcome {o : Outcome α} {s res s'} :
    Ends (ofOutcome o) s res s' ↔ res = o.result ∧ s' = s :=
  ⟨fun h => ⟨h.1.symm, h.2.symm⟩, fun h => ⟨h.1.symm, h.2.symm⟩⟩

/-- A notice has no effect on the session. -/
@[simp] lemma ends_note {n : Notice} {s res s'} : Ends (note n) s res s' ↔ res = .ok () ∧ s' = s :=
  ends_ofOutcome

/-- A look at the disk gives what is seen, and it changes nothing. -/
@[simp] lemma ends_inspect {look : Files.Disk → Except Fault α} {s res s'} :
    Ends (inspect look) s res s' ↔ res = look s.disk ∧ s' = s :=
  ⟨fun h => ⟨h.1.symm, h.2.symm⟩, fun h => ⟨h.1.symm, h.2.symm⟩⟩

/-- An operation ends with the disk that it gives, or with its fault and the disk as it was. -/
lemma ends_change {op : Files.Disk → Except Fault Files.Disk} {s res s'} :
    Ends (change op) s res s' ↔
      (∃ d, op s.disk = .ok d ∧ res = .ok () ∧ s' = { s with disk := d }) ∨
      (∃ f, op s.disk = .error f ∧ res = .error f ∧ s' = s) := by
  unfold Ends change
  cases h : op s.disk with
  | ok d => simp [Outcome.ok, eq_comm]
  | error f => simp [Outcome.fail, eq_comm]

/-- A run that is attempted ends well, and its result is how it ended. -/
lemma ends_attempt {r : Run α} {s res s'} :
    Ends r.attempt s res s' ↔ ∃ x, Ends r s x s' ∧ res = .ok x := by
  constructor
  · rintro ⟨h₁, h₂⟩
    exact ⟨_, ⟨rfl, h₂⟩, h₁.symm⟩
  · rintro ⟨x, ⟨rfl, h₂⟩, rfl⟩
    exact ⟨rfl, h₂⟩

/-- After a run that ends well the next one starts in its session, with the notices of both. -/
lemma bind_of_ok {r : Run α} {next : α → Run β} {s a} (h : (r s).1.result = .ok a) :
    (r >>= next) s = ((next a (r s).2).1.after (r s).1.notices, (next a (r s).2).2) := by
  change r.andThen next s = _
  simp only [andThen, h]

/-- After a run that fails nothing is run. -/
lemma bind_of_error {r : Run α} {next : α → Run β} {s f} (h : (r s).1.result = .error f) :
    (r >>= next) s = (⟨(r s).1.notices, .error f⟩, (r s).2) := by
  change r.andThen next s = _
  simp only [andThen, h]

/-- Two runs one after the other: the second goes on where the first ended well. -/
lemma ends_bind {r : Run α} {next : α → Run β} {s res s'} :
    Ends (r >>= next) s res s' ↔
      (∃ a s₁, Ends r s (.ok a) s₁ ∧ Ends (next a) s₁ res s') ∨
      (∃ f, Ends r s (.error f) s' ∧ res = .error f) := by
  unfold Ends
  cases h : (r s).1.result with
  | ok a =>
    rw [bind_of_ok h]
    constructor
    · rintro ⟨h₁, h₂⟩
      exact .inl ⟨a, (r s).2, ⟨rfl, rfl⟩, h₁, h₂⟩
    · rintro (⟨a', s₁, ⟨ha, rfl⟩, h₁, h₂⟩ | ⟨f, ⟨hf, -⟩, -⟩)
      · cases ha
        exact ⟨h₁, h₂⟩
      · cases hf
  | error f =>
    rw [bind_of_error h]
    constructor
    · rintro ⟨h₁, h₂⟩
      exact .inr ⟨f, ⟨rfl, h₂⟩, h₁.symm⟩
    · rintro (⟨a', s₁, ⟨ha, rfl⟩, h₁, h₂⟩ | ⟨f', ⟨hf, h₂⟩, rfl⟩)
      · cases ha
      · cases hf
        exact ⟨rfl, h₂⟩

/-- Two runs end well together if each of them does. -/
lemma ends_bind_ok {r : Run α} {next : α → Run β} {s b s'} :
    Ends (r >>= next) s (.ok b) s' ↔ ∃ a s₁, Ends r s (.ok a) s₁ ∧ Ends (next a) s₁ (.ok b) s' := by
  simp [ends_bind]

/-- A run that ends well hands its session to the next one. -/
lemma Ends.bind {r : Run α} {next : α → Run β} {s a s₁ res s'} (h₁ : Ends r s (.ok a) s₁)
    (h₂ : Ends (next a) s₁ res s') : Ends (r >>= next) s res s' :=
  ends_bind.2 (.inl ⟨a, s₁, h₁, h₂⟩)

/-- A run that fails ends what it is part of. -/
lemma Ends.bind_error {r : Run α} {next : α → Run β} {s f s'} (h : Ends r s (.error f) s') :
    Ends (r >>= next) s (.error f) s' :=
  ends_bind.2 (.inr ⟨f, h, rfl⟩)

/-- What follows an attempt is decided by how the attempt ended. -/
lemma ends_attempt_bind {r : Run α} {next : Except Fault α → Run β} {s res s'} :
    Ends (r.attempt >>= next) s res s' ↔ ∃ x s₁, Ends r s x s₁ ∧ Ends (next x) s₁ res s' := by
  rw [ends_bind]
  constructor
  · rintro (⟨x, s₁, h₁, h₂⟩ | ⟨f, h₁, -⟩)
    · obtain ⟨y, hy, heq⟩ := ends_attempt.1 h₁
      cases heq
      exact ⟨x, s₁, hy, h₂⟩
    · obtain ⟨y, -, heq⟩ := ends_attempt.1 h₁
      cases heq
  · rintro ⟨x, s₁, h₁, h₂⟩
    exact .inl ⟨x, s₁, ends_attempt.2 ⟨x, h₁, rfl⟩, h₂⟩

/-- A run that leaves the disk as it is, however it ends. -/
def OnlyReads (r : Run α) : Prop :=
  ∀ s, (r s).2.disk = s.disk

/-- The disk after such a run is the one before it. -/
lemma OnlyReads.disk {r : Run α} (h : OnlyReads r) {s res s'} (he : Ends r s res s') : s'.disk = s.disk := by
  rw [← he.2]
  exact h s

/-- A value needs no disk. -/
lemma onlyReads_pure (a : α) : OnlyReads (pure a) :=
  fun _ => rfl

/-- A fault leaves the disk alone. -/
lemma onlyReads_fail (f : Fault) : OnlyReads (fail f : Run α) :=
  fun _ => rfl

/-- An outcome has no effect on the disk. -/
lemma onlyReads_ofOutcome (o : Outcome α) : OnlyReads (ofOutcome o) :=
  fun _ => rfl

/-- A notice has no effect on the disk. -/
lemma onlyReads_note (n : Notice) : OnlyReads (note n) :=
  fun _ => rfl

/-- A look leaves the disk as it is. -/
lemma onlyReads_inspect (look : Files.Disk → Except Fault α) : OnlyReads (inspect look) :=
  fun _ => rfl

/-- The memory of the reader is no part of the disk. -/
lemma onlyReads_reading (use : Yaml.Memory → α × Yaml.Memory) : OnlyReads (reading use) :=
  fun _ => rfl

/-- Runs one after the other only read if each of them does. -/
lemma OnlyReads.bind {r : Run α} {next : α → Run β} (h₁ : OnlyReads r) (h₂ : ∀ a, OnlyReads (next a)) :
    OnlyReads (r >>= next) := by
  intro s
  cases h : (r s).1.result with
  | ok a =>
    rw [bind_of_ok h]
    exact (h₂ a _).trans (h₁ s)
  | error f =>
    rw [bind_of_error h]
    exact h₁ s

/-- A run after one that only reads has begun if the disk has changed. -/
lemma OnlyReads.of_bind {r : Run α} {next : α → Run β} {s res s'} (h : OnlyReads r) (he : Ends (r >>= next) s res s')
    (changed : s'.disk ≠ s.disk) : ∃ a s₁, Ends r s (.ok a) s₁ ∧ s₁.disk = s.disk ∧ Ends (next a) s₁ res s' := by
  rcases ends_bind.1 he with ⟨a, s₁, h₁, h₂⟩ | ⟨f, h₁, -⟩
  · exact ⟨a, s₁, h₁, h.disk h₁, h₂⟩
  · exact absurd (h.disk h₁) changed

/-- How a run stops that gives no result: with something that the user can mend, or with a fault that escapes. -/
inductive Halt where
  | problem
  | escape (f : Fault)

/-- What a fault is for the user. -/
def haltOf (f : Fault) : Halt :=
  if f.isUserFault then .problem else .escape f

/-- What comes of a run, with all that the user can mend taken together. -/
def verdict (r : Run α) (s : Session) : Except Halt α :=
  (r s).1.result.mapError haltOf

section Verdict

variable {r : Run α} {next : α → Run β} {s s' : Session}

/-- A fault that the user can mend is a problem. -/
lemma haltOf_of_user {f : Fault} (h : f.isUserFault = true) : haltOf f = .problem :=
  if_pos h

/-- All other faults escape. -/
lemma haltOf_of_not_user {f : Fault} (h : f.isUserFault = false) : haltOf f = .escape f :=
  if_neg (Bool.not_eq_true _ ▸ h)

/-- A run that ends well gives its result. -/
lemma Ends.verdict_ok {a : α} (h : Ends r s (.ok a) s') : verdict r s = .ok a := by
  rw [verdict, h.1]
  rfl

/-- A run that fails stops as its fault says. -/
lemma Ends.verdict_error {f : Fault} (h : Ends r s (.error f) s') : verdict r s = .error (haltOf f) := by
  rw [verdict, h.1]
  rfl

/-- What gives a result has ended well. -/
lemma ends_of_verdict {a : α} (h : verdict r s = .ok a) : Ends r s (.ok a) (r s).2 := by
  unfold verdict at h
  cases result : (r s).1.result with
  | ok b =>
    rw [result] at h
    cases h
    exact ⟨result, rfl⟩
  | error f =>
    rw [result] at h
    cases h

/-- After a run that ends well it is the next run that decides. -/
lemma Ends.verdict_bind {a : α} (h : Ends r s (.ok a) s') : verdict (r >>= next) s = verdict (next a) s' := by
  obtain ⟨hresult, rfl⟩ := h
  rw [verdict, bind_of_ok hresult]
  rfl

/-- A run that stops keeps the next one from being run. -/
lemma verdict_bind_of_halt {halt : Halt} (h : verdict r s = .error halt) : verdict (r >>= next) s = .error halt := by
  unfold verdict at h ⊢
  cases result : (r s).1.result with
  | ok b =>
    rw [result] at h
    cases h
  | error f =>
    rw [result] at h
    cases h
    rw [bind_of_error result]
    rfl

/-- After a run there may be another one that always ends well. -/
lemma verdict_bind_of_total {g : α → β} (h : ∀ a s, verdict (next a) s = .ok (g a)) :
    verdict (r >>= next) s = (verdict r s).map g := by
  cases first : verdict r s with
  | error halt => exact verdict_bind_of_halt first
  | ok a =>
    rw [(ends_of_verdict first).verdict_bind, h]
    rfl

end Verdict

/-- A run that neither reads tables nor heeds what was kept of them. -/
def IgnoresTables (r : Run α) : Prop :=
  ∀ d m m', (r ⟨d, m⟩).1 = (r ⟨d, m'⟩).1 ∧ (r ⟨d, m⟩).2.disk = (r ⟨d, m'⟩).2.disk

section IgnoresTables

variable {r : Run α} {next : α → Run β}

/-- A value does not depend on tables. -/
lemma ignoresTables_pure (a : α) : IgnoresTables (pure a) :=
  fun _ _ _ => ⟨rfl, rfl⟩

/-- A fault does not depend on tables. -/
lemma ignoresTables_fail (f : Fault) : IgnoresTables (fail f : Run α) :=
  fun _ _ _ => ⟨rfl, rfl⟩

/-- A notice does not depend on tables. -/
lemma ignoresTables_note (n : Notice) : IgnoresTables (note n) :=
  fun _ _ _ => ⟨rfl, rfl⟩

/-- A look at the disk does not heed the memory. -/
lemma ignoresTables_inspect (look : Files.Disk → Except Fault α) : IgnoresTables (inspect look) :=
  fun _ _ _ => ⟨rfl, rfl⟩

/-- An operation on the disk does not heed the memory. -/
lemma ignoresTables_change (op : Files.Disk → Except Fault Files.Disk) : IgnoresTables (change op) := by
  intro d m m'
  unfold change
  dsimp only
  split <;> exact ⟨rfl, rfl⟩

/-- A run that is attempted heeds what the run heeds. -/
lemma IgnoresTables.attempt (h : IgnoresTables r) : IgnoresTables r.attempt := by
  intro d m m'
  obtain ⟨same, disk⟩ := h d m m'
  refine ⟨?_, disk⟩
  show (⟨(r ⟨d, m⟩).1.notices, .ok (r ⟨d, m⟩).1.result⟩ : Outcome _) = _
  rw [same]
  rfl

/-- Runs one after the other ignore tables if each of them does. -/
lemma IgnoresTables.bind (h : IgnoresTables r) (hnext : ∀ a, IgnoresTables (next a)) : IgnoresTables (r >>= next) := by
  intro d m m'
  obtain ⟨same, disk⟩ := h d m m'
  cases result : (r ⟨d, m⟩).1.result with
  | ok a =>
    have result' : (r ⟨d, m'⟩).1.result = .ok a := same ▸ result
    rw [bind_of_ok result, bind_of_ok result']
    -- the two sessions in which the next run starts differ in their memory only
    have started : (r ⟨d, m'⟩).2 = ⟨(r ⟨d, m⟩).2.disk, (r ⟨d, m'⟩).2.memory⟩ := by rw [disk]
    obtain ⟨same', disk'⟩ := hnext a (r ⟨d, m⟩).2.disk (r ⟨d, m⟩).2.memory (r ⟨d, m'⟩).2.memory
    rw [started]
    exact ⟨by rw [← same', same], disk'⟩
  | error f =>
    have result' : (r ⟨d, m'⟩).1.result = .error f := same ▸ result
    rw [bind_of_error result, bind_of_error result', same]
    exact ⟨rfl, disk⟩

/-- The disk after such a run is the one after it at the start of a session. -/
lemma IgnoresTables.disk (h : IgnoresTables r) (s : Session) : (r s).2.disk = (r (.start s.disk)).2.disk :=
  (h s.disk s.memory _).2

end IgnoresTables

end TaggedGrammar.Run
