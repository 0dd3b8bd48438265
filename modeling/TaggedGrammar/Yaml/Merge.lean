import TaggedGrammar.Yaml.Memory

/-!
# Merging

A mapping may have a key that brings in the entries of another mapping, or of several in a list. Merging takes
the key away and puts the entries in front of the mapping's own. The other mapping is merged first. The key
that stands for the content of a mapping is an ordinary text among other keys.
-/

namespace TaggedGrammar.Yaml

namespace Making

/-- The greatest number of mappings around a mapping that is merged. -/
def mergeLimit : Nat := 980

/-- Makes ordinary texts of the keys that stand for the content. -/
def plainKeys (entries : List NodeEntry) : Making Unit := do
  for e in entries do
    if (← get).graph.isContent e then changeNode e.1 fun k => { k with tag := .text }

/-- The entries of a mapping after it was merged itself. -/
def mergedEntries (merge : NodeId → Making Unit) (n : NodeId) : Making (List NodeEntry) := do
  let _ ← entries n
  merge n
  entries n

/-- The entries that the value of a merging key brings in; those of a later mapping in a list come first. -/
def broughtIn (merge : NodeId → Making Unit) (value : NodeId) : Making (List NodeEntry) := do
  match (← node value).content with
  | .mapping _ => mergedEntries merge value
  | .sequence items => return (← items.mapM (mergedEntries merge)).reverse.flatten
  | .scalar _ => malformed

/-- Takes the merging keys of a mapping away one after the other; the entries that they bring in. A second one
must not follow one that brought entries. -/
def takeMergeKeys (merge : NodeId → Making Unit) (n : NodeId) :
    (fuel : Nat) → (sofar : List NodeEntry) → Making (List NodeEntry)
  | 0, sofar => return sofar
  | fuel + 1, sofar => do
    let own ← entries n
    let g := (← get).graph
    let before := own.takeWhile (!g.isMerge ·)
    plainKeys before
    match own.drop before.length with
    | [] => return sofar
    | key :: after =>
      if !sofar.isEmpty then malformed
      changeNode n fun node => { node with content := .mapping (before ++ after) }
      takeMergeKeys merge n fuel (sofar ++ (← broughtIn merge key.2))

/-- Merges the entries that a mapping asks for into it. -/
def merge : (depth : Nat) → NodeId → Making Unit
  | 0, _ => unusable .nestedTooDeeply
  | depth + 1, n => do
    let own ← entries n
    let brought ← takeMergeKeys (merge depth) n (own.length + 1) []
    if !brought.isEmpty then
      let own ← entries n
      changeNode n fun node => { node with
        content := .mapping (brought ++ own), merged := some brought }

end Making

end TaggedGrammar.Yaml
