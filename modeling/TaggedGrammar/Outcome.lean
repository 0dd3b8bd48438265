import TaggedGrammar.Fault

/-!
# Outcomes

The outcome of a computation is its result, or the fault that stopped it, together with the notices
that were given on the way. A fault keeps the notices that came before it.
-/

namespace TaggedGrammar

/-- The notices of a computation, in order, and its result. -/
structure Outcome (α : Type) where
  notices : List Notice
  result : Except Fault α

namespace Outcome

/-- A result without notices. -/
def ok {α : Type} (a : α) : Outcome α :=
  ⟨[], .ok a⟩

/-- A fault without notices. -/
def fail {α : Type} (f : Fault) : Outcome α :=
  ⟨[], .error f⟩

/-- A single notice. -/
def note (n : Notice) : Outcome Unit :=
  ⟨[n], .ok ()⟩

/-- The outcome with notices before its own. -/
def after {α : Type} (earlier : List Notice) (o : Outcome α) : Outcome α :=
  ⟨earlier ++ o.notices, o.result⟩

/-- Continues with the result, unless there was a fault. -/
def andThen {α β : Type} (o : Outcome α) (next : α → Outcome β) : Outcome β :=
  match o.result with
  | .ok a => (next a).after o.notices
  | .error f => ⟨o.notices, .error f⟩

instance : Monad Outcome where
  pure := ok
  bind := andThen

/-- The result of a computation that gives no notices. -/
def ofExcept {α : Type} (r : Except Fault α) : Outcome α :=
  ⟨[], r⟩

/-- A present value, or the fault that its absence means. -/
def ofOption {α : Type} (f : Fault) : Option α → Outcome α
  | some a => ok a
  | none => fail f

/-- The outcome with its fault replaced. -/
def mapFault {α : Type} (g : Fault → Fault) (o : Outcome α) : Outcome α :=
  match o.result with
  | .ok a => ⟨o.notices, .ok a⟩
  | .error f => ⟨o.notices, .error (g f)⟩

end Outcome

end TaggedGrammar
