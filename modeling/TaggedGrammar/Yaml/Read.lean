import TaggedGrammar.Yaml.Build
import TaggedGrammar.Yaml.Scan
import TaggedGrammar.Yaml.Structure
import TaggedGrammar.Yaml.Unfold

/-!
# Reading a text

The tokens of a text form nodes, the nodes are made to objects, and these become a value.
-/

namespace TaggedGrammar.Yaml

namespace Making

/-- The node of the document that a text holds, if there is one. -/
def document (text : List Char) : Making (Option NodeId) := do
  let m ← get
  let (tokens, trouble) := scan m.version text
  let start : Progress := ⟨tokens, trouble, m.version, Rule.usualHandles, m.names, m.graph⟩
  let (root, p) := (Rule.document (8 * tokens.length + 16)).run.run start
  set { m with version := p.version, names := p.names, graph := p.graph }
  ofReading root

/-- The value that a text stands for; a text without a document stands for null. After a document nothing is
kept but the version. -/
def value (text : List Char) : Making Value := do
  match ← document text with
  | none => return .null
  | some root =>
    let o ← makeDocument root
    let m ← get
    set (Memory.ofVersion m.version)
    return m.objects.value o

/-- Fills what earlier texts have left, as the reading of one more document does. -/
def settle : Making Unit := do
  modify fun m => { m with names := [] }
  let m ← get
  finish (m.graph.size + m.tasks.length + 1)
  set (Memory.ofVersion m.version)

end Making

/-- Reads a text with what was kept of the texts before it. -/
def read (text : List Char) (m : Memory) : Reading Value × Memory :=
  (Making.value text).run.run m

/-- Settles what was kept of earlier texts. -/
def settle (m : Memory) : Reading Unit × Memory :=
  Making.settle.run.run m

end TaggedGrammar.Yaml
