import TaggedGrammar.Yaml.Object

/-!
# From objects to values

Values are trees, so an object that contains itself has no value. It is unfolded as often as any table is
deep; null ends the unfolding. Other objects become the values that they are. The entries of a mapping are
written one after the other.
-/

namespace TaggedGrammar.Yaml

/-- How many times an object that contains itself is unfolded; no table is nested as deeply. -/
def unfoldings : Nat := 8

/-- The values of objects, as far as they are known. -/
abbrev Values := Array (Option Value)

/-- The value of an object whose parts have the values that `inside` gives. -/
def Object.valueBy (inside : ObjectId → StateM Values Value) : Object → StateM Values Value
  | scalar v => return v.val
  | list items => return .list (← items.mapM inside)
  | tuple items => return .tuple (← items.mapM inside)
  | map entries => return .map (Value.ofEntries (← entries.mapM pair))
  | ordered entries => return .ordered (Value.ofEntries (← entries.mapM pair))
  | set members => return .set (← members.mapM inside)
where
  /-- The values of an entry. -/
  pair (e : ObjectEntry) : StateM Values (Value × Value) := do
    return (← inside e.1, ← inside e.2)

namespace Objects

/-- The value of an object. An object that is met inside itself has the value from before, or null. -/
def unfold (s : Objects) (before : Values) : (depth : Nat) → ObjectId → StateM Values Value
  | 0, o => return (before.getD o none).getD .null
  | depth + 1, o => do
    match (← get).getD o none with
    | some v => return v
    | none =>
      modify (·.setIfInBounds o (some ((before.getD o none).getD .null)))
      let v ← (s.object o).valueBy (s.unfold before depth)
      modify (·.setIfInBounds o (some v))
      return v

/-- Unfolds an object once more. -/
def unfoldAgain (s : Objects) (o : ObjectId) (before : Values) : Values :=
  ((s.unfold before (s.size + 1) o).run (Array.replicate s.size none)).2

/-- The value of an object. -/
def value (s : Objects) (o : ObjectId) : Value :=
  let known := (List.range unfoldings).foldl (fun before _ => s.unfoldAgain o before)
    (Array.replicate s.size none)
  (known.getD o none).getD .null

end Objects

end TaggedGrammar.Yaml
