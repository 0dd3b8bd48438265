import TaggedGrammar.Proofs.Json.Values
import TaggedGrammar.Proofs.Text.Newline

/-!
# The lines of JSON texts

A line of an indented text is never empty: what starts a line is written in front of something, and no value starts
or ends with a line end. So a document survives a change of its line ends.
-/

namespace TaggedGrammar.Json

section Solid

variable {s t gap : Text}

/-- No two line ends stand side by side. -/
def NoEmptyLine (t : Text) : Prop :=
  t.IsChain fun a b => ¬(a = .char '\n' ∧ b = .char '\n')

/-- A text that neither starts nor ends with a line end and has no empty line. -/
structure Solid (t : Text) : Prop where
  nonempty : t ≠ []
  first : t.head? ≠ some (.char '\n')
  last : t.getLast? ≠ some (.char '\n')
  filled : NoEmptyLine t

/-- Without an empty line there are no two line feeds side by side. -/
lemma NoEmptyLine.not_infix (h : NoEmptyLine t) : ¬[.char '\n', .char '\n'] <:+: t := by
  rintro ⟨before, after, rfl⟩
  rw [NoEmptyLine, List.append_assoc, List.isChain_append] at h
  exact (List.isChain_cons_cons.1 h.2.1).1 ⟨rfl, rfl⟩

/-- Without a line feed there is no empty line. -/
lemma noEmptyLine_of_notMem (h : .char '\n' ∉ t) : NoEmptyLine t :=
  List.Pairwise.isChain (List.pairwise_of_forall_mem_list fun _ ha _ _ hab => h (hab.1 ▸ ha))

/-- A line feed is a control character. -/
lemma Printed.notMem (h : Printed t) : .char '\n' ∉ t :=
  fun hmem => absurd (h _ hmem) (by decide)

/-- A text of one line is solid. -/
lemma Printed.solid (h : Printed t) (hne : t ≠ []) : Solid t where
  nonempty := hne
  first := fun hfirst => h.notMem (List.mem_of_head? hfirst)
  last := fun hlast => h.notMem (List.mem_of_getLast? hlast)
  filled := noEmptyLine_of_notMem h.notMem

/-- What stands between two solid texts cannot touch another line end. -/
lemma Solid.join (hs : Solid s) (hgap : NoEmptyLine gap) (ht : Solid t) : Solid (s ++ (gap ++ t)) where
  nonempty := List.append_ne_nil_of_left_ne_nil hs.nonempty _
  first := by
    rw [List.head?_append_of_ne_nil _ hs.nonempty]
    exact hs.first
  last := by
    rw [← List.append_assoc, List.getLast?_append_of_ne_nil _ ht.nonempty]
    exact ht.last
  filled := by
    have behind : NoEmptyLine (gap ++ t) :=
      List.isChain_append.2 ⟨hgap, ht.filled, fun a _ b hb hab => ht.first (hab.2 ▸ hb)⟩
    exact List.isChain_append.2 ⟨hs.filled, behind, fun a ha b _ hab => hs.last (hab.1 ▸ ha)⟩

/-- Solid texts one behind the other are solid. -/
lemma Solid.append (hs : Solid s) (ht : Solid t) : Solid (s ++ t) :=
  hs.join List.isChain_nil ht

/-- A new line is not empty when something follows. -/
lemma noEmptyLine_lineAt (k : Nat) : NoEmptyLine (lineAt k) := by
  have spaces : .char '\n' ∉ List.replicate (4 * k) (Letter.char ' ') := by simp [List.mem_replicate]
  refine List.isChain_cons.2 ⟨fun l hl hab => ?_, noEmptyLine_of_notMem spaces⟩
  exact spaces (hab.2 ▸ List.mem_of_head? hl)

/-- The gap behind a bracket has no empty line. -/
lemma noEmptyLine_openGap (d : Depth) : NoEmptyLine (openGap d) := by
  cases d with
  | none => exact List.isChain_nil
  | some k => exact noEmptyLine_lineAt (k + 1)

/-- The gap between items has no empty line. -/
lemma noEmptyLine_itemGap (d : Depth) : NoEmptyLine (itemGap d) := by
  cases d with
  | none => exact noEmptyLine_of_notMem (by decide)
  | some k => exact List.isChain_cons.2 ⟨fun l _ hab => absurd hab.1 (by decide), noEmptyLine_lineAt (k + 1)⟩

/-- The gap in front of a closing bracket has no empty line. -/
lemma noEmptyLine_closeGap (d : Depth) : NoEmptyLine (closeGap d) := by
  cases d with
  | none => exact List.isChain_nil
  | some k => exact noEmptyLine_lineAt k

/-- A number has a digit. -/
lemma ofNat_ne_nil (n : Nat) : Text.ofNat n ≠ [] :=
  mt List.map_eq_nil_iff.1 Nat.toDigits_ne_nil

/-- A double has something in front of its point. -/
lemma layout_ne_nil (ds : List Char) (p : Int) : Double.layout ds p ≠ [] := by
  unfold Double.layout
  split
  · split
    · simp
    · dsimp only
      split <;> simp
  · simp

/-- The text of a double is not empty. -/
lemma doubleText_ne_nil (x : Double) : Text.ofString (doubleText x) ≠ [] := by
  refine mt List.map_eq_nil_iff.1 ?_
  match x with
  | .nan => simp [doubleText]
  | .infinite false => simp [doubleText]
  | .infinite true => simp [doubleText]
  | .finite s m e =>
    have digits : Double.magnitudeText m e ≠ [] := by
      unfold Double.magnitudeText
      split
      · simp
      · exact layout_ne_nil _ _
    simp [doubleText, Double.text, digits]

/-- A text in quotes is solid. -/
lemma solid_writeText (s : Text) : Solid (writeText s) :=
  (printed_writeText s).solid (List.cons_ne_nil _ _)

/-- A word is solid. -/
lemma solid_ofString {word : String} (h : ∀ c ∈ word.toList, 0x20 ≤ c.toNat) (hne : word.toList ≠ []) :
    Solid (Text.ofString word) :=
  (printed_ofString h).solid (mt List.map_eq_nil_iff.1 hne)

mutual

/-- Every value is written as a solid text; gaps are put between solid texts only. -/
lemma solid_write (d : Depth) : (v : Value) → Solid (write d v)
  | .str s => solid_writeText s
  | .int n => (printed_integerDigits n).solid (List.append_ne_nil_of_right_ne_nil _ (ofNat_ne_nil _))
  | .float x => (printed_doubleText x).solid (doubleText_ne_nil x)
  | .bool true | .bool false => solid_ofString (by simp) (by simp)
  | .list [] | .tuple [] | .map [] => solid_ofString (by simp) (by simp)
  | .list (v :: rest) | .tuple (v :: rest) => by
    have bracket : Solid (Text.ofString "[") := solid_ofString (by simp) (by simp)
    have closing : Solid (Text.ofString "]") := solid_ofString (by simp) (by simp)
    have opened := solid_writeItems d rest _ (bracket.join (noEmptyLine_openGap d) (solid_write d.deeper v))
    have whole := opened.join (noEmptyLine_closeGap d) closing
    simpa only [write, List.append_assoc] using whole
  | .map ((k, v) :: rest) => by
    have brace : Solid (Text.ofString "\x7b") := solid_ofString (by simp) (by simp)
    have colon : Solid (Text.ofString ": ") := solid_ofString (by simp) (by simp)
    have closing : Solid (Text.ofString "\x7d") := solid_ofString (by simp) (by simp)
    have key := brace.join (noEmptyLine_openGap d) (solid_writeText (keyText k))
    have opened := solid_writeEntries d rest _ ((key.append colon).append (solid_write d.deeper v))
    have whole := opened.join (noEmptyLine_closeGap d) closing
    simpa only [write, List.append_assoc] using whole
  | .null | .ordered _ | .record _ _ | .day _ | .instant _ | .bytes _ | .set _ =>
    solid_ofString (by simp) (by simp)

-- Items begin with a gap, so they are not solid alone but behind a text that is.
/-- Items behind a solid text are solid with it. -/
lemma solid_writeItems (d : Depth) : (items : List Value) → ∀ s, Solid s → Solid (s ++ writeItems d items)
  | [], s, hs => by simpa only [writeItems, List.append_nil] using hs
  | v :: rest, s, hs => by
    have more := solid_writeItems d rest _ (hs.join (noEmptyLine_itemGap d) (solid_write d.deeper v))
    simpa only [writeItems, List.append_assoc] using more

/-- Entries behind a solid text are solid with it. -/
lemma solid_writeEntries (d : Depth) :
    (entries : List (Value × Value)) → ∀ s, Solid s → Solid (s ++ writeEntries d entries)
  | [], s, hs => by simpa only [writeEntries, List.append_nil] using hs
  | (k, v) :: rest, s, hs => by
    have colon : Solid (Text.ofString ": ") := solid_ofString (by simp) (by simp)
    have key := hs.join (noEmptyLine_itemGap d) (solid_writeText (keyText k))
    have more := solid_writeEntries d rest _ ((key.append colon).append (solid_write d.deeper v))
    simpa only [writeEntries, List.append_assoc] using more

end

end Solid

mutual

/-- The texts in a value, those of its keys included. -/
def texts : Value → List Text
  | .str s => [s]
  | .list items | .tuple items => itemTexts items
  | .map entries => entryTexts entries
  | _ => []

def itemTexts : List Value → List Text
  | [] => []
  | v :: rest => texts v ++ itemTexts rest

def entryTexts : List (Value × Value) → List Text
  | [] => []
  | (k, v) :: rest => keyText k :: (texts v ++ entryTexts rest)

end

section Bytes

variable {s t : Text}

/-- All letters are characters, so that the text has bytes. -/
def HasBytes (t : Text) : Prop :=
  ∀ l ∈ t, l.char?.isSome

/-- Two texts have bytes if each of them has. -/
lemma hasBytes_append : HasBytes (s ++ t) ↔ HasBytes s ∧ HasBytes t :=
  List.forall_mem_append

/-- Characters have bytes. -/
lemma hasBytes_ofChars (cs : List Char) : HasBytes (Text.ofChars cs) := by
  simp [HasBytes, Text.ofChars, Letter.char?]

/-- A text has bytes if each of its letters has. -/
lemma isSome_bytes? : t.bytes?.isSome ↔ HasBytes t := by
  rw [Text.bytes?, Text.string?, Option.isSome_map, Option.isSome_map, Text.chars?]
  induction t with
  | nil => simp [HasBytes]
  | cons l t ih =>
    rw [HasBytes, List.forall_mem_cons, ← HasBytes, ← ih, List.mapM_cons]
    cases l.char? <;> cases t.mapM Letter.char? <;> simp

/-- A new line has bytes. -/
lemma hasBytes_lineAt (k : Nat) : HasBytes (lineAt k) := by
  simp [HasBytes, lineAt, Letter.char?]

/-- All gaps have bytes. -/
lemma hasBytes_gaps (d : Depth) : HasBytes (openGap d) ∧ HasBytes (itemGap d) ∧ HasBytes (closeGap d) := by
  cases d with
  | none => simp [HasBytes, openGap, itemGap, closeGap, Letter.char?]
  | some k =>
    exact ⟨hasBytes_lineAt _, List.forall_mem_cons.2 ⟨rfl, hasBytes_lineAt _⟩, hasBytes_lineAt _⟩

/-- An escaped letter has bytes if the letter has, or if it needs none. -/
lemma hasBytes_escapeLetter {l : Letter} : HasBytes (escapeLetter l) ↔ l.char?.isSome := by
  cases l with
  | half n => simp [HasBytes, escapeLetter]
  | char c => exact iff_of_true (hasBytes_ofChars _) rfl

/-- A text in quotes has bytes if the text has. -/
lemma hasBytes_writeText : HasBytes (writeText s) ↔ HasBytes s := by
  have inside : HasBytes (s.flatMap escapeLetter) ↔ HasBytes s := by
    induction s with
    | nil => rfl
    | cons l s ih =>
      rw [List.flatMap_cons, hasBytes_append, hasBytes_escapeLetter, ih, HasBytes, HasBytes, List.forall_mem_cons]
  have quote : HasBytes [.char '"'] := hasBytes_ofChars ['"']
  calc HasBytes (writeText s)
      ↔ HasBytes ([.char '"'] ++ (s.flatMap escapeLetter ++ [.char '"'])) := Iff.rfl
    _ ↔ HasBytes s := by simp only [hasBytes_append, inside, quote, true_and, and_true]

mutual

/-- The text of a value has bytes if the texts in the value have. -/
lemma hasBytes_write (d : Depth) : (v : Value) → (HasBytes (write d v) ↔ ∀ s ∈ texts v, HasBytes s)
  | .str s => hasBytes_writeText.trans List.forall_mem_singleton.symm
  | .int n => by
    refine iff_of_true (hasBytes_append.2 ⟨?_, hasBytes_ofChars _⟩) (List.forall_mem_nil _)
    split
    · exact hasBytes_ofChars ['-']
    · exact List.forall_mem_nil _
  | .float x => iff_of_true (hasBytes_ofChars _) (List.forall_mem_nil _)
  | .bool true | .bool false => iff_of_true (hasBytes_ofChars _) (List.forall_mem_nil _)
  | .list [] | .tuple [] | .map [] => iff_of_true (hasBytes_ofChars _) (List.forall_mem_nil _)
  | .list (v :: rest) | .tuple (v :: rest) => by
    obtain ⟨opening, -, closing⟩ := hasBytes_gaps d
    simp only [write, texts, itemTexts, hasBytes_append, List.forall_mem_append, opening, closing, Text.ofString,
      hasBytes_ofChars, true_and, and_true, hasBytes_write d.deeper v, hasBytes_writeItems d rest]
  | .map ((k, v) :: rest) => by
    obtain ⟨opening, -, closing⟩ := hasBytes_gaps d
    simp only [write, texts, entryTexts, hasBytes_append, List.forall_mem_append, List.forall_mem_cons, opening,
      closing, Text.ofString, hasBytes_ofChars, true_and, and_true, and_assoc, hasBytes_writeText,
      hasBytes_write d.deeper v, hasBytes_writeEntries d rest]
  | .null | .ordered _ | .record _ _ | .day _ | .instant _ | .bytes _ | .set _ =>
    iff_of_true (hasBytes_ofChars _) (List.forall_mem_nil _)

/-- Items have bytes if their texts have. -/
lemma hasBytes_writeItems (d : Depth) :
    (items : List Value) → (HasBytes (writeItems d items) ↔ ∀ s ∈ itemTexts items, HasBytes s)
  | [] => iff_of_true (List.forall_mem_nil _) (List.forall_mem_nil _)
  | v :: rest => by
    obtain ⟨-, between, -⟩ := hasBytes_gaps d
    simp only [writeItems, itemTexts, hasBytes_append, List.forall_mem_append, between, true_and,
      hasBytes_write d.deeper v, hasBytes_writeItems d rest]

/-- Entries have bytes if their texts have. -/
lemma hasBytes_writeEntries (d : Depth) :
    (entries : List (Value × Value)) → (HasBytes (writeEntries d entries) ↔ ∀ s ∈ entryTexts entries, HasBytes s)
  | [] => iff_of_true (List.forall_mem_nil _) (List.forall_mem_nil _)
  | (k, v) :: rest => by
    obtain ⟨-, between, -⟩ := hasBytes_gaps d
    simp only [writeEntries, entryTexts, hasBytes_append, List.forall_mem_append, List.forall_mem_cons, between,
      true_and, and_true, and_assoc, hasBytes_writeText, hasBytes_ofChars, Text.ofString,
      hasBytes_write d.deeper v, hasBytes_writeEntries d rest]

end

end Bytes

/-- A document has bytes if the texts in its value have. -/
lemma bytes?_document_isSome (v : Value) : (document v).bytes?.isSome ↔ ∀ s ∈ texts v, s.bytes?.isSome := by
  have lineEnd : HasBytes [.char '\n'] := hasBytes_ofChars ['\n']
  simp only [isSome_bytes?, document, hasBytes_append, lineEnd, and_true]
  exact hasBytes_write _ v

/-- The one-line text of a value has no control characters. The document has none but the line ends; no line of it is
empty, and the last line has an end. It has bytes if the texts in the value have, and then it is read back from them,
whichever line end was put in the place of its own. -/
theorem json_texts_keep_their_lines {v : Value} (writable : isWritable v) :
    ∃ oneLine indented, line? v = some oneLine ∧ document? v = some indented ∧
      (∀ l ∈ oneLine, 0x20 ≤ l.code) ∧ (∀ l ∈ indented, 0x20 ≤ l.code ∨ l = .char '\n') ∧
      ¬[.char '\n', .char '\n'] <:+: indented ∧
      (∃ lines, indented = lines ++ [.char '\n'] ∧ lines ≠ [] ∧ lines.getLast? ≠ some (.char '\n')) ∧
      (indented.bytes?.isSome ↔ ∀ s ∈ texts v, s.bytes?.isSome) ∧
      ∀ content, indented.bytes? = some content →
        ∃ cs, Text.ofChars cs = indented ∧ Text.ofBytes? content = some cs ∧
          ∀ lineEnd ∈ Text.lineEnds,
            Text.ofBytes? (String.ofList (Text.withLineEnd lineEnd cs)).toUTF8 = some cs := by
  have solid := solid_write (some 0) v
  refine ⟨line v, document v, if_pos writable, if_pos writable, ?_, ?_, ?_, ⟨_, rfl, solid.nonempty, solid.last⟩,
    bytes?_document_isSome v, ?_⟩
  · intro l hl
    rcases allowed_write none v l hl with hcode | ⟨hnone, -⟩
    · exact hcode
    · cases hnone
  · refine List.forall_mem_append.2 ⟨fun l hl => ?_, List.forall_mem_singleton.2 (.inr rfl)⟩
    exact (allowed_write _ v l hl).imp_right And.right
  · have filled : NoEmptyLine (document v) := by
      refine List.isChain_append.2 ⟨solid.filled, List.isChain_singleton _, fun a ha b _ hab => ?_⟩
      exact solid.last (hab.1 ▸ ha)
    exact filled.not_infix
  · intro content hbytes
    have noReturn := return_notMem_document v
    obtain ⟨cs, hcs, rfl⟩ := Text.exists_chars_of_bytes? hbytes
    have read : ∀ lineEnd ∈ Text.lineEnds,
        Text.ofBytes? (String.ofList (Text.withLineEnd lineEnd cs)).toUTF8 = some cs := fun lineEnd hend =>
      Text.ofBytes?_withLineEnd hend (hcs ▸ noReturn)
    have same := read ['\n'] (by decide)
    rw [Text.withLineEnd_newline] at same
    exact ⟨cs, hcs.symm, same, read⟩

section Sample

/-- Line ends in keys and texts do not show in the document, and it is read back with carriage returns in it. -/
theorem nested_document_keeps_its_lines :
    ∃ indented content cs, isWritable (nested .tuple) ∧ document? (nested .tuple) = some indented ∧
      indented.bytes? = some content ∧ ¬[.char '\n', .char '\n'] <:+: indented ∧ Text.ofChars cs = indented ∧
      Text.ofBytes? content = some cs ∧
      Text.ofBytes? (String.ofList (Text.withLineEnd ['\r'] cs)).toUTF8 = some cs := by
  have writable : isWritable (nested .tuple) := by decide
  obtain ⟨-, indented, -, hdocument, -, -, apart, -, bytes, read⟩ := json_texts_keep_their_lines writable
  obtain ⟨content, hcontent⟩ := Option.isSome_iff_exists.1 (bytes.2 (by decide))
  obtain ⟨cs, hcs, same, others⟩ := read content hcontent
  exact ⟨indented, content, cs, writable, hdocument, hcontent, apart, hcs, same, others ['\r'] (by decide)⟩

/-- Half a surrogate pair in a text has no bytes, so neither has the document. -/
theorem document_with_half_pair_has_no_bytes :
    isWritable (.str [.half 0x4ff]) ∧
      ∃ indented, document? (.str [.half 0x4ff]) = some indented ∧ ∀ content, indented.bytes? ≠ some content :=
  ⟨rfl, _, rfl, nofun⟩

end Sample

end TaggedGrammar.Json
