import TaggedGrammar.Proofs.Json.RoundTrip
import TaggedGrammar.Table.Raw

/-!
# The values of JSON texts

A plain value is one that JSON has words for: null, truth values, whole numbers, texts, lists, and mappings with
text keys. Both texts of a plain value are read back as that value. A tuple is written as a list.
-/

namespace TaggedGrammar.Json

/-- A value that JSON has words for. -/
inductive Plain : Value → Prop where
  | null :
    Plain .null
  | bool (b) :
    Plain (.bool b)
  | int (n) :
    Plain (.int n)
  | str (s) :
    Plain (.str s)
  | list {items} :
    (∀ v ∈ items, Plain v) →
    Plain (.list items)
  | map {entries} :
    (∀ e ∈ entries, ∃ k, e.1 = .str k) →
    (∀ e ∈ entries, Plain e.2) →
    Plain (.map entries)

mutual

/-- The value with a list in the place of every tuple. -/
def listed : Value → Value
  | .list items | .tuple items => .list (listedItems items)
  | .map entries => .map (listedEntries entries)
  | v => v

def listedItems : List Value → List Value
  | [] => []
  | v :: rest => listed v :: listedItems rest

def listedEntries : List (Value × Value) → List (Value × Value)
  | [] => []
  | (k, v) :: rest => (k, listed v) :: listedEntries rest

end

section Plain

variable {v : Value} {items : List Value} {entries : List (Value × Value)}

/-- A plain value is read back as it is. -/
lemma Plain.readBack?_eq (h : Plain v) : readBack? v = some v := by
  induction h with
  | null | bool | int | str => rfl
  | list _ ih => rw [readBack?, readBackItems?_eq_self ih, Option.map_some]
  | map keys _ ih => rw [readBack?, readBackEntries?_eq_self keys ih, Option.map_some]

/-- An object of plain values is plain. -/
lemma Plain.ofFields {fields : List (Text × Value)} (h : ∀ f ∈ fields, Plain f.2) : Plain (.ofFields fields) := by
  refine .map ?_ ?_ <;> intro e he <;> obtain ⟨f, hf, rfl⟩ := List.mem_map.1 he
  · exact ⟨f.1, rfl⟩
  · exact h f hf

/-- Items can be written if each of them can. -/
lemma areWritable_iff : areWritable items ↔ ∀ v ∈ items, isWritable v := by
  induction items with
  | nil => simp [areWritable]
  | cons v rest ih => simp [areWritable, ih]

/-- Entries can be written if their keys and values can. -/
lemma areWritableEntries_iff :
    areWritableEntries entries ↔ ∀ e ∈ entries, isWritableKey e.1 ∧ isWritable e.2 := by
  induction entries with
  | nil => simp [areWritableEntries]
  | cons e rest ih => simp [areWritableEntries, ih]

/-- A plain value can be written. -/
lemma Plain.isWritable (h : Plain v) : isWritable v := by
  induction h with
  | null | bool | int | str => rfl
  | list _ ih => exact areWritable_iff.2 ih
  | map keys _ ih =>
    refine areWritableEntries_iff.2 fun e he => ⟨?_, ih e he⟩
    obtain ⟨k, hk⟩ := keys e he
    rw [hk]
    rfl

end Plain

section Tuples

mutual

/-- Lists in place of fixed sequences are written alike, at every depth. -/
lemma write_listed (d : Depth) : (v : Value) → write d (listed v) = write d v
  | .list items => write_listedItems d items
  | .tuple items => (write_listedItems d items).trans (write_tuple d items).symm
  | .map [] => rfl
  | .map ((k, v) :: rest) => by
    simp only [listed, listedEntries, write, write_listed d.deeper v, writeEntries_listed d rest]
  | .null | .bool _ | .int _ | .float _ | .str _ | .ordered _ | .record _ _ | .day _ | .instant _ | .bytes _
  | .set _ => rfl

/-- So are lists with lists in them. -/
lemma write_listedItems (d : Depth) : (items : List Value) → write d (.list (listedItems items)) = write d (.list items)
  | [] => rfl
  | v :: rest => by
    simp only [listedItems, write, write_listed d.deeper v, writeItems_listed d rest]

/-- So are items. -/
lemma writeItems_listed (d : Depth) : (items : List Value) → writeItems d (listedItems items) = writeItems d items
  | [] => rfl
  | v :: rest => by
    simp only [listedItems, writeItems, write_listed d.deeper v, writeItems_listed d rest]

/-- So are entries. -/
lemma writeEntries_listed (d : Depth) : (entries : List (Value × Value)) →
    writeEntries d (listedEntries entries) = writeEntries d entries
  | [] => rfl
  | (k, v) :: rest => by
    simp only [listedEntries, writeEntries, write_listed d.deeper v, writeEntries_listed d rest]

end

mutual

/-- Lists in place of fixed sequences can be written just as well. -/
lemma isWritable_listed : (v : Value) → isWritable (listed v) = isWritable v
  | .list items | .tuple items => areWritable_listed items
  | .map entries => areWritableEntries_listed entries
  | .null | .bool _ | .int _ | .float _ | .str _ | .ordered _ | .record _ _ | .day _ | .instant _ | .bytes _
  | .set _ => rfl

/-- So can items. -/
lemma areWritable_listed : (items : List Value) → areWritable (listedItems items) = areWritable items
  | [] => rfl
  | v :: rest => by
    simp only [listedItems, areWritable, isWritable_listed v, areWritable_listed rest]

/-- So can entries. -/
lemma areWritableEntries_listed : (entries : List (Value × Value)) →
    areWritableEntries (listedEntries entries) = areWritableEntries entries
  | [] => rfl
  | (k, v) :: rest => by
    simp only [listedEntries, areWritableEntries, isWritable_listed v, areWritableEntries_listed rest]

end

/-- Fixed sequences and lists have the same line. -/
lemma line?_listed (v : Value) : line? (listed v) = line? v := by
  simp only [line?, line, write_listed, isWritable_listed]

/-- Fixed sequences and lists have the same document. -/
lemma document?_listed (v : Value) : document? (listed v) = document? v := by
  simp only [document?, document, write_listed, isWritable_listed]

/-- Items are turned into lists one by one. -/
lemma listedItems_eq_map (items : List Value) : listedItems items = items.map listed := by
  induction items with
  | nil => rfl
  | cons v rest ih => rw [listedItems, ih, List.map_cons]

/-- Entries are turned into lists by their values. -/
lemma listedEntries_eq_map (entries : List (Value × Value)) :
    listedEntries entries = entries.map fun e => (e.1, listed e.2) := by
  induction entries with
  | nil => rfl
  | cons e rest ih => rw [listedEntries, ih, List.map_cons]

/-- A plain value has no fixed sequence to be turned into a list. -/
lemma Plain.listed_eq {v : Value} (h : Plain v) : listed v = v := by
  induction h with
  | null | bool | int | str => rfl
  | list _ ih => rw [listed, listedItems_eq_map, List.map_congr_left ih, List.map_id']
  | map keys _ ih =>
    have same : ∀ e ∈ _, (e.1, listed e.2) = e := fun e he => Prod.ext rfl (ih e he)
    rw [listed, listedEntries_eq_map, List.map_congr_left same, List.map_id']

end Tuples

section Texts

variable {v w : Value}

/-- A value that is plain with lists has a line, and that is read back. -/
lemma line?_of_plain (h : Plain (listed v)) : ∃ t, line? v = some t ∧ read? t = some (listed v) := by
  refine ⟨line (listed v), ?_, read?_line h.readBack?_eq⟩
  rw [← line?_listed, line?, if_pos h.isWritable]

/-- It has a document, and that is read back. -/
lemma document?_of_plain (h : Plain (listed v)) : ∃ t, document? v = some t ∧ read? t = some (listed v) := by
  refine ⟨document (listed v), ?_, read?_document h.readBack?_eq⟩
  rw [← document?_listed, document?, if_pos h.isWritable]

/-- A text that is read as a value is the text of no other value, if tuples count as lists. -/
lemma eq_some_iff_of_listed {text? : Value → Option Text} (same : ∀ v, text? (listed v) = text? v)
    (reads : ∀ {v}, Plain (listed v) → ∃ t, text? v = some t ∧ read? t = some (listed v))
    (hv : Plain (listed v)) (hw : Plain (listed w)) : text? w = text? v ↔ listed w = listed v := by
  constructor
  · intro h
    obtain ⟨t, ht, hread⟩ := reads hv
    obtain ⟨t', ht', hread'⟩ := reads hw
    rw [ht, ht', Option.some.injEq] at h
    rw [h, hread] at hread'
    exact (Option.some.inj hread').symm
  · intro h
    rw [← same w, ← same v, h]

/-- Both texts of a value with whole numbers and text keys are read as that value, with lists for its tuples. So
each text tells such values apart, and the two texts of a value stand for the same. -/
theorem json_text_is_read_back (plain : Plain (listed v)) :
    (∃ oneLine indented, line? v = some oneLine ∧ document? v = some indented ∧
      read? oneLine = some (listed v) ∧ read? indented = some (listed v)) ∧
    (∀ w, Plain (listed w) → (line? w = line? v ↔ listed w = listed v) ∧
      (document? w = document? v ↔ listed w = listed v)) ∧
    (Plain v → listed v = v) := by
  obtain ⟨oneLine, hline, read_line⟩ := line?_of_plain plain
  obtain ⟨indented, hdocument, read_document⟩ := document?_of_plain plain
  refine ⟨⟨oneLine, indented, hline, hdocument, read_line, read_document⟩, ?_, Plain.listed_eq⟩
  intro w hw
  exact ⟨eq_some_iff_of_listed line?_listed line?_of_plain plain hw,
    eq_some_iff_of_listed document?_listed document?_of_plain plain hw⟩

end Texts

section Sample

/-- A mapping with letters in its keys and texts that are escaped, and with pairs and empty collections below it. -/
def nested (pair : List Value → Value) : Value :=
  .ofFields [("a\"\\\n", pair [.null, .int (-12345678901234567890), .list []]),
    (Text.ofChars ['\x08', '\x1f', 'é'], .ofFields [([], .map []), ("key", .list [.bool false, pair []])])]

/-- The nested sample is plain if its pairs are. -/
lemma plain_nested {pair : List Value → Value} (h : ∀ {items}, (∀ v ∈ items, Plain v) → Plain (pair items)) :
    Plain (nested pair) := by
  have below : Plain (.ofFields [([], .map []), ("key", .list [.bool false, pair []])]) := by
    refine .ofFields ?_
    simp only [List.forall_mem_cons]
    refine ⟨.map nofun nofun, .list ?_, nofun⟩
    simp [Plain.bool, h]
  refine .ofFields ?_
  simp only [List.forall_mem_cons]
  refine ⟨h ?_, below, nofun⟩
  simp [Plain.null, Plain.int, Plain.list]

/-- Pairs that are tuples have the text of lists, and not the text of nulls. -/
theorem json_text_is_read_back_sample :
    Plain (listed (nested .tuple)) ∧
    (∃ oneLine indented, line? (nested .tuple) = some oneLine ∧ document? (nested .tuple) = some indented ∧
      read? oneLine = some (nested .list) ∧ read? indented = some (nested .list)) ∧
    line? (nested .list) = line? (nested .tuple) ∧
    document? (nested fun _ => .null) ≠ document? (nested .tuple) := by
  have plain : Plain (listed (nested .tuple)) := plain_nested .list
  obtain ⟨read, others, -⟩ := json_text_is_read_back plain
  refine ⟨plain, read, (others (nested .list) plain).1.2 rfl, ?_⟩
  intro h
  cases (others (nested fun _ => .null) (plain_nested fun _ => .null)).2.1 h

end Sample

end TaggedGrammar.Json
