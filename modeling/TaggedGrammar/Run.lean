import TaggedGrammar.Files.Operations
import TaggedGrammar.Outcome
import TaggedGrammar.Yaml.Memory

/-!
# Runs

A run looks at files, changes them, reads tables and gives notices. What it changed before a fault stays
changed.
-/

namespace TaggedGrammar

open Files

/-- What runs work on: the files, and what the reader of tables has kept. -/
structure Session where
  disk : Disk
  memory : Yaml.Memory

namespace Session

/-- The start of a session on a disk. -/
def start (d : Disk) : Session :=
  ⟨d, .fresh⟩

end Session

/-- A computation in a session. -/
def Run (α : Type) : Type :=
  Session → Outcome α × Session

namespace Run

/-- A result without any effect. -/
def ok {α : Type} (a : α) : Run α :=
  fun s => (.ok a, s)

/-- A fault. -/
def fail {α : Type} (f : Fault) : Run α :=
  fun s => (.fail f, s)

/-- Continues with the result, unless there was a fault. -/
def andThen {α β : Type} (r : Run α) (next : α → Run β) : Run β := fun s =>
  let (o, s) := r s
  match o.result with
  | .ok a =>
    let (o', s) := next a s
    (o'.after o.notices, s)
  | .error f => (⟨o.notices, .error f⟩, s)

instance : Monad Run where
  pure := ok
  bind := andThen

/-- A computation that needs no session. -/
def ofOutcome {α : Type} (o : Outcome α) : Run α :=
  fun s => (o, s)

/-- A single notice. -/
def note (n : Notice) : Run Unit :=
  ofOutcome (.note n)

/-- A look at the files. -/
def inspect {α : Type} (look : Disk → Except Fault α) : Run α :=
  fun s => (.ofExcept (look s.disk), s)

/-- An operation on the files; one that fails changes nothing. -/
def change (operation : Disk → Except Fault Disk) : Run Unit := fun s =>
  match operation s.disk with
  | .ok d => (.ok (), { s with disk := d })
  | .error f => (.fail f, s)

/-- A use of the reader of tables. -/
def reading {α : Type} (use : Yaml.Memory → α × Yaml.Memory) : Run α := fun s =>
  let (a, m) := use s.memory
  (.ok a, { s with memory := m })

/-- The run with its fault as a result. -/
def attempt {α : Type} (r : Run α) : Run (Except Fault α) := fun s =>
  let (o, s) := r s
  (⟨o.notices, .ok o.result⟩, s)

end Run

end TaggedGrammar
