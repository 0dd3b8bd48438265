import TaggedGrammar.Json.Reader
import TaggedGrammar.Proofs.Json.Letters

/-!
# JSON texts are read back

The reader gets back what the writer wrote, on one line or indented, with tuples as lists. What stands behind
a value in the text must not go on with a number, and the length of the text is enough fuel.
-/

namespace TaggedGrammar.Json

mutual

/-- What is read from the text of a value, if its keys are texts and no double is in it. -/
def readBack? : Value → Option Value
  | .null => some .null
  | .bool b => some (.bool b)
  | .int n => some (.int n)
  | .str s => some (.str s)
  | .list items | .tuple items => (readBackItems? items).map .list
  | .map entries => (readBackEntries? entries).map .map
  | _ => none

def readBackItems? : List Value → Option (List Value)
  | [] => some []
  | v :: rest => (readBack? v).bind fun w => (readBackItems? rest).map (w :: ·)

def readBackEntries? : List (Value × Value) → Option (List (Value × Value))
  | [] => some []
  | (.str k, v) :: rest => (readBack? v).bind fun w => (readBackEntries? rest).map ((.str k, w) :: ·)
  | _ => none

end

/-- Items that are read back as they are stay so together. -/
lemma readBackItems?_eq_self {items : List Value} (h : ∀ v ∈ items, readBack? v = some v) :
    readBackItems? items = some items := by
  induction items with
  | nil => rfl
  | cons v rest ih =>
    obtain ⟨hv, hrest⟩ := List.forall_mem_cons.1 h
    simp only [readBackItems?, hv, ih hrest, Option.bind_some, Option.map_some]

/-- So do entries, if their keys are texts. -/
lemma readBackEntries?_eq_self {entries : List (Value × Value)} (keys : ∀ e ∈ entries, ∃ k, e.1 = .str k)
    (h : ∀ e ∈ entries, readBack? e.2 = some e.2) : readBackEntries? entries = some entries := by
  induction entries with
  | nil => rfl
  | cons e rest ih =>
    obtain ⟨key, v⟩ := e
    obtain ⟨⟨k, rfl⟩, keys_rest⟩ := List.forall_mem_cons.1 keys
    obtain ⟨hv, hrest⟩ := List.forall_mem_cons.1 h
    simp only [readBackEntries?, hv, ih keys_rest hrest, Option.bind_some, Option.map_some]

section Texts

/-- Four digits in base sixteen are read back. -/
lemma hexUnit?_hexDigits {n : Nat} (h : n < 0x20) (t : Text) :
    hexUnit? (Text.ofChars (Text.hexDigits 4 n) ++ t) = some (n, t) := by
  have digits : ∀ n < 0x20, ∃ a b c d, Text.hexDigits 4 n = [a, b, c, d] ∧
      hexUnit? (Text.ofChars [a, b, c, d]) = some (n, []) := by
    intro n hn
    interval_cases n <;> exact ⟨_, _, _, _, rfl, rfl⟩
  obtain ⟨a, b, c, d, hdigits, hunit⟩ := digits n h
  rw [hdigits]
  simp only [Text.ofChars, List.map_cons, List.map_nil, hexUnit?, List.cons_append, List.nil_append,
    Option.bind_eq_some_iff, Option.map_eq_some_iff, Prod.mk.injEq] at hunit ⊢
  obtain ⟨a', ha, b', hb, c', hc, d', hd, hn, -⟩ := hunit
  exact ⟨a', ha, b', hb, c', hc, d', hd, hn, trivial⟩

/-- A control character is read back from its code. -/
lemma numericEscape?_hexDigits {c : Char} (h : c.toNat < 0x20) (t : Text) :
    numericEscape? (Text.ofChars (Text.hexDigits 4 c.toNat) ++ t) = some (.char c, t) := by
  have hpair : ¬(0xd800 ≤ c.toNat ∧ c.toNat < 0xdc00) := by omega
  have hhalf : ¬(c.toNat - Letter.firstHalf < 0x800 ∧ Letter.firstHalf ≤ c.toNat) := by
    unfold Letter.firstHalf
    omega
  simp [numericEscape?, hexUnit?_hexDigits h, hpair, Letter.ofCode, hhalf]

/-- A letter that needs no escape is read as it is. -/
lemma textBody?_plain {l : Letter} (hquote : l ≠ .char '"') (hslash : l ≠ .char '\\') (hcode : ¬l.code < 0x20)
    (fuel : Nat) (t : Text) :
    textBody? (fuel + 1) (l :: t) = (textBody? fuel t).map fun (s, r) => (l :: s, r) := by
  simp [textBody?, hslash, hcode]

/-- A short escape is read as its letter. -/
lemma textBody?_short {e c : Char} (h : shortEscape? e = some c) (fuel : Nat) (t : Text) :
    textBody? (fuel + 1) (.char '\\' :: .char e :: t) =
      (textBody? fuel t).map fun (s, r) => (.char c :: s, r) := by
  have hnumeric : e ≠ 'u' := by
    rintro rfl
    cases h
  simp [textBody?, h]

/-- Whatever a letter is written as, it is read back. -/
lemma textBody?_escapeLetter (l : Letter) (fuel : Nat) (t : Text) :
    textBody? (fuel + 1) (escapeLetter l ++ t) = (textBody? fuel t).map fun (s, r) => (l :: s, r) := by
  cases l with
  | half n =>
    refine textBody?_plain (by simp) (by simp) ?_ fuel t
    simp only [Letter.code, Letter.firstHalf]
    omega
  | char c =>
    have short {e : Char} (h : shortEscape? e = some c) := textBody?_short h fuel t
    simp only [escapeLetter, escapeChar]
    split_ifs with hquote hslash hline hreturn htab hfeed hback hsmall
    · exact short (by simp [hquote, shortEscape?])
    · exact short (by simp [hslash, shortEscape?])
    · exact short (by simp [hline, shortEscape?])
    · exact short (by simp [hreturn, shortEscape?])
    · exact short (by simp [htab, shortEscape?])
    · have heq : c = '\x0c' := Char.toNat_inj.1 hfeed
      exact short (by simp [heq, shortEscape?])
    · have heq : c = '\x08' := Char.toNat_inj.1 hback
      exact short (by simp [heq, shortEscape?])
    · -- A control character without a letter of its own is written with its number.
      change textBody? (fuel + 1) (.char '\\' :: .char 'u' :: (Text.ofChars _ ++ t)) = _
      simp only [textBody?, numericEscape?_hexDigits hsmall]
    · exact textBody?_plain (by simpa using hquote) (by simpa using hslash) (by simpa [Letter.code] using hsmall) fuel t

/-- A text is read back up to its closing quote. -/
lemma textBody?_flatMap (s : Text) {fuel : Nat} (h : s.length < fuel) (rest : Text) :
    textBody? fuel (s.flatMap escapeLetter ++ .char '"' :: rest) = some (s, rest) := by
  induction s generalizing fuel with
  | nil =>
    obtain ⟨k, rfl⟩ := Nat.exists_eq_add_one_of_ne_zero (Nat.ne_of_gt h)
    rfl
  | cons l s ih =>
    obtain ⟨k, rfl⟩ := Nat.exists_eq_add_one_of_ne_zero (Nat.ne_of_gt (Nat.zero_lt_of_lt h))
    rw [List.flatMap_cons, List.append_assoc, textBody?_escapeLetter, ih (by simpa using h)]
    rfl

/-- Escapes do not make a text shorter, so that there is fuel for each letter. -/
lemma length_le_length_flatMap (s : Text) : s.length ≤ (s.flatMap escapeLetter).length := by
  have one_le (l : Letter) : 1 ≤ (escapeLetter l).length := by
    cases l with
    | half n => simp [escapeLetter]
    | char c =>
      simp only [escapeLetter, escapeChar]
      split_ifs <;> simp [Text.ofChars]
  induction s with
  | nil => simp
  | cons l s ih =>
    have := one_le l
    simp only [List.flatMap_cons, List.length_append, List.length_cons]
    omega

/-- A text between its quotes is read back up to the closing quote. -/
lemma textBody?_writeText (s rest : Text) :
    ∃ body, writeText s ++ rest = .char '"' :: body ∧ textBody? (body.length + 1) body = some (s, rest) := by
  refine ⟨s.flatMap escapeLetter ++ .char '"' :: rest, by simp [writeText], textBody?_flatMap s ?_ rest⟩
  have := length_le_length_flatMap s
  simp only [List.length_append, List.length_cons]
  omega

end Texts

section Numbers

/-- A number ends in front of this text. -/
def EndsNumber (t : Text) : Prop :=
  ∀ l ∈ t.head?, l.isIn Char.isDigit = false ∧ l ≠ .char '.' ∧ l ≠ .char 'e' ∧ l ≠ .char 'E'

/-- A number ends at a bracket, a comma or a space. -/
lemma endsNumber_cons {c : Char} {t : Text} (h : c ∈ [',', ' ', '\n', ']', '\x7d']) :
    EndsNumber (.char c :: t) := by
  simp only [List.mem_cons, List.not_mem_nil, or_false] at h
  rcases h with rfl | rfl | rfl | rfl | rfl <;> simp [EndsNumber, Letter.isIn]

/-- Digits are read up to the end of the number. -/
lemma spanDecimal_append {ds : List Char} (hds : ∀ c ∈ ds, c.isDigit) {t : Text} (h : EndsNumber t) :
    spanDecimal (Text.ofChars ds ++ t) = (ds, t) := by
  have digits : ∀ l ∈ Text.ofChars ds, l.isIn Char.isDigit := by
    simpa [Text.ofChars, Letter.isIn] using hds
  have chars : (Text.ofChars ds).filterMap Letter.char? = ds := by
    simp [Text.ofChars, List.filterMap_map, Function.comp_def, Letter.char?]
  have behind : t.takeWhile (·.isIn Char.isDigit) = [] ∧ t.dropWhile (·.isIn Char.isDigit) = t := by
    cases t with
    | nil => simp
    | cons l t => simp [(h l (by simp)).1]
  simp only [spanDecimal, List.takeWhile_append_of_pos digits, List.dropWhile_append_of_pos digits, behind,
    List.append_nil, chars]

/-- A number is read back from its digits. -/
lemma decimalNumber_toDigits (n : Nat) : decimalNumber (Nat.toDigits 10 n) = n := by
  calc decimalNumber (Nat.toDigits 10 n)
      = Nat.ofDigitChars 10 (Nat.toDigits 10 n) 0 := by
        simp only [decimalNumber, Nat.ofDigitChars_eq_foldl, Nat.mul_comm]
        rfl
    _ = n := Nat.ofDigitChars_ten_toDigits

/-- Only the number zero starts with the digit zero. -/
lemma head?_toDigits {n : Nat} (h : 0 < n) : (Nat.toDigits 10 n).head? ≠ some '0' := by
  induction n using Nat.strongRecOn with
  | ind n ih =>
    by_cases hn : n < 10
    · rw [Nat.toDigits_of_lt_base hn]
      interval_cases n <;> decide
    · rw [Nat.toDigits_of_base_le (by decide) (by omega), List.head?_append_of_ne_nil _ Nat.toDigits_ne_nil]
      exact ih (n / 10) (by omega) (by omega)

/-- A whole number is read back with its sign. -/
lemma magnitude?_ofNat (negative : Bool) (n : Nat) {t : Text} (h : EndsNumber t) :
    magnitude? negative (Text.ofNat n ++ t) = some (.int (if negative then -n else n), t) := by
  have digits : ∀ c ∈ Nat.toDigits 10 n, c.isDigit := fun c hc =>
    Nat.isDigit_of_mem_toDigits (by decide) (by decide) hc
  have short : ¬((Nat.toDigits 10 n).head? = some '0' ∧ 1 < (Nat.toDigits 10 n).length) := by
    rintro ⟨hzero, hlong⟩
    rcases Nat.eq_zero_or_pos n with rfl | hn
    · simp at hlong
    · exact head?_toDigits hn hzero
  have noFraction : fraction? t = some ([], t) := by
    cases t with
    | nil => rfl
    | cons l t =>
      have hpoint := (h l (by simp)).2.1
      simp [fraction?, hpoint]
  have noExponent : exponent? t = some (none, t) := by
    cases t with
    | nil => rfl
    | cons l t => simp [exponent?, h l (by simp)]
  unfold magnitude? Text.ofNat
  rw [spanDecimal_append digits h]
  split
  · next heq => exact absurd (Prod.mk.inj heq).1 Nat.toDigits_ne_nil
  · next heq =>
    obtain ⟨rfl, rfl⟩ := Prod.mk.inj heq
    simp only [short, if_false, noFraction, noExponent, decimalNumber_toDigits]
    rfl

end Numbers

section Layout

/-- The text is white space. -/
def IsGap (t : Text) : Prop :=
  ∀ l ∈ t, l.isIn isSpace

/-- A new line is a gap. -/
lemma isGap_lineAt (k : Nat) : IsGap (lineAt k) := by
  intro l hl
  rcases List.mem_cons.1 hl with rfl | hl
  · rfl
  · rw [List.eq_of_mem_replicate hl]
    rfl

/-- What is behind a bracket is a gap. -/
lemma isGap_openGap (d : Depth) : IsGap (openGap d) := by
  cases d with
  | none => simp [openGap, IsGap]
  | some k => exact isGap_lineAt _

/-- What is in front of a closing bracket is a gap. -/
lemma isGap_closeGap (d : Depth) : IsGap (closeGap d) := by
  cases d with
  | none => simp [closeGap, IsGap]
  | some k => exact isGap_lineAt _

/-- Between items there is a comma and a gap. -/
lemma exists_itemGap (d : Depth) : ∃ gap, itemGap d = .char ',' :: gap ∧ IsGap gap := by
  cases d with
  | none => exact ⟨[.char ' '], rfl, by simp [IsGap, Letter.isIn, isSpace]⟩
  | some k => exact ⟨_, rfl, isGap_lineAt _⟩

/-- A gap is skipped. -/
lemma skipSpace_append {gap : Text} (h : IsGap gap) (t : Text) : skipSpace (gap ++ t) = skipSpace t :=
  List.dropWhile_append_of_pos h

/-- Nothing is skipped in front of a letter that is no space. -/
lemma skipSpace_cons {l : Letter} (h : l.isIn isSpace = false) (t : Text) : skipSpace (l :: t) = l :: t :=
  List.dropWhile_cons_of_neg (by simp [h])

/-- Skipping twice is skipping once. -/
lemma skipSpace_skipSpace (t : Text) : skipSpace (skipSpace t) = skipSpace t :=
  List.dropWhile_idempotent _ _

/-- Space in front of a value does not matter. -/
lemma value?_congr {t u : Text} (h : skipSpace t = skipSpace u) (fuel : Nat) : value? fuel t = value? fuel u := by
  cases fuel with
  | zero => rfl
  | succ k => simp only [value?, h]

/-- Space in front of items does not matter. -/
lemma items?_congr {t u : Text} (h : skipSpace t = skipSpace u) (fuel : Nat) : items? fuel t = items? fuel u := by
  cases fuel with
  | zero => rfl
  | succ k => simp only [items?, value?_congr h]

/-- Space in front of entries does not matter. -/
lemma entries?_congr {t u : Text} (h : skipSpace t = skipSpace u) (fuel : Nat) :
    entries? fuel t = entries? fuel u := by
  cases fuel with
  | zero => rfl
  | succ k => simp only [entries?, h]

/-- A number ends at a gap. -/
lemma endsNumber_gap {gap : Text} (h : IsGap gap) {t : Text} (ht : EndsNumber t) : EndsNumber (gap ++ t) := by
  cases gap with
  | nil => exact ht
  | cons l gap =>
    have hspace := h l (by simp)
    cases l with
    | half n => cases hspace
    | char c =>
      simp only [Letter.isIn, isSpace, Bool.or_eq_true, beq_iff_eq] at hspace
      rcases hspace with ((rfl | rfl) | rfl) | rfl <;> simp [EndsNumber, Letter.isIn]

end Layout

section Collections

variable {fuel : Nat} {t r rest : Text} {v : Value}

/-- No value starts with a closing bracket. -/
lemma skipSpace_ne_of_value? (h : value? fuel t = some (v, rest)) : skipSpace t ≠ .char ']' :: r := by
  intro hclose
  cases fuel with
  | zero => cases h
  | succ k =>
    simp only [value?, hclose] at h
    cases h

/-- A last item is read up to the bracket. -/
lemma items?_last (h : value? fuel t = some (v, rest)) (hclose : skipSpace rest = .char ']' :: r) :
    items? (fuel + 1) t = some ([v], r) := by
  simp only [items?, h, hclose]

/-- An item with others behind it is read up to the comma. -/
lemma items?_cons {vs : List Value} {rest' : Text} (h : value? fuel t = some (v, rest))
    (hnext : skipSpace rest = .char ',' :: r) (hvs : items? fuel r = some (vs, rest')) :
    items? (fuel + 1) t = some (v :: vs, rest') := by
  simp only [items?, h, hnext, hvs, Option.map_some]

/-- A list is read item by item. -/
lemma value?_bracket {vs : List Value} (h : items? fuel t = some (vs, r)) :
    value? (fuel + 1) (.char '[' :: t) = some (.list vs, r) := by
  have hne : ∀ u, skipSpace t ≠ .char ']' :: u := by
    intro u
    cases fuel with
    | zero => cases h
    | succ k =>
      cases hv : value? k t with
      | none => simp [items?, hv] at h
      | some x => exact skipSpace_ne_of_value? hv
  have hopen : skipSpace (.char '[' :: t) = .char '[' :: t := skipSpace_cons rfl t
  simp only [value?, hopen, items?_congr (skipSpace_skipSpace t), h, Option.map_some]

/-- An entry is at the front of the text. -/
def ReadsEntry (fuel : Nat) (t k : Text) (v : Value) (rest : Text) : Prop :=
  ∃ body r₁ r₂, skipSpace t = .char '"' :: body ∧ textBody? (body.length + 1) body = some (k, r₁) ∧
    skipSpace r₁ = .char ':' :: r₂ ∧ value? fuel r₂ = some (v, rest)

/-- An entry is read back from its key and its value. -/
lemma readsEntry_writeText {gap : Text} (hgap : IsGap gap) (k : Text) (h : value? fuel t = some (v, rest)) :
    ReadsEntry fuel (gap ++ (writeText k ++ (Text.ofString ": " ++ t))) k v rest := by
  obtain ⟨body, hwritten, hread⟩ := textBody?_writeText k (Text.ofString ": " ++ t)
  refine ⟨body, _, .char ' ' :: t, ?_, hread, skipSpace_cons rfl _, ?_⟩
  · rw [skipSpace_append hgap, hwritten, skipSpace_cons rfl]
  · have hblank : IsGap [.char ' '] := by simp [IsGap, Letter.isIn, isSpace]
    rw [← h]
    exact value?_congr (skipSpace_append hblank t) fuel

/-- A last entry is read up to the brace. -/
lemma entries?_last {k : Text} (h : ReadsEntry fuel t k v rest) (hclose : skipSpace rest = .char '\x7d' :: r) :
    entries? (fuel + 1) t = some ([(.str k, v)], r) := by
  obtain ⟨body, r₁, r₂, ht, hk, hcolon, hv⟩ := h
  simp only [entries?, ht, hk, hcolon, hv, hclose]

/-- An entry with others behind it is read up to the comma. -/
lemma entries?_cons {k : Text} {es : List (Value × Value)} {rest' : Text} (h : ReadsEntry fuel t k v rest)
    (hnext : skipSpace rest = .char ',' :: r) (hes : entries? fuel r = some (es, rest')) :
    entries? (fuel + 1) t = some ((.str k, v) :: es, rest') := by
  obtain ⟨body, r₁, r₂, ht, hk, hcolon, hv⟩ := h
  simp only [entries?, ht, hk, hcolon, hv, hnext, hes, Option.map_some]

/-- An object is read entry by entry. -/
lemma value?_brace {es : List (Value × Value)} (h : entries? fuel t = some (es, r)) :
    value? (fuel + 1) (.char '\x7b' :: t) = some (.map es, r) := by
  have hne : ∀ u, skipSpace t ≠ .char '\x7d' :: u := by
    intro u hclose
    cases fuel with
    | zero => cases h
    | succ k => simp [entries?, hclose] at h
  have hopen : skipSpace (.char '\x7b' :: t) = .char '\x7b' :: t := skipSpace_cons rfl t
  simp only [value?, hopen, entries?_congr (skipSpace_skipSpace t), h, Option.map_some]

/-- A number in front of further items ends there. -/
lemma endsNumber_writeItems (d : Depth) (vs : List Value) :
    EndsNumber (writeItems d vs ++ (closeGap d ++ .char ']' :: r)) := by
  cases vs with
  | nil => exact endsNumber_gap (isGap_closeGap d) (endsNumber_cons (by simp))
  | cons v vs =>
    obtain ⟨gap, hgap, -⟩ := exists_itemGap d
    simp only [writeItems, hgap, List.cons_append]
    exact endsNumber_cons (by simp)

/-- A number in front of further entries ends there. -/
lemma endsNumber_writeEntries (d : Depth) (es : List (Value × Value)) :
    EndsNumber (writeEntries d es ++ (closeGap d ++ .char '\x7d' :: r)) := by
  cases es with
  | nil => exact endsNumber_gap (isGap_closeGap d) (endsNumber_cons (by simp))
  | cons e es =>
    obtain ⟨gap, hgap, -⟩ := exists_itemGap d
    simp only [writeEntries, hgap, List.cons_append]
    exact endsNumber_cons (by simp)

/-- A word that is expected is passed. -/
lemma expect?_append (word : String) (t : Text) : expect? word (Text.ofString word ++ t) = some t := by
  have hlength : word.length = (Text.ofString word).length := by
    simp [Text.ofString, Text.ofChars, String.length_toList]
  rw [expect?, if_pos (by simp), hlength, List.drop_left]

/-- A whole number is read back. -/
lemma value?_integerDigits (n : Int) (h : EndsNumber rest) :
    value? (fuel + 1) (integerDigits n ++ rest) = some (.int n, rest) := by
  by_cases hn : n < 0
  · have hminus : skipSpace (.char '-' :: (Text.ofNat n.natAbs ++ rest)) =
        .char '-' :: (Text.ofNat n.natAbs ++ rest) := skipSpace_cons rfl _
    have hread := magnitude?_ofNat true n.natAbs h
    rw [if_pos rfl, show -(n.natAbs : Int) = n by omega] at hread
    simp only [integerDigits, hn, if_true, List.cons_append, List.nil_append, value?, hminus, hread]
  · have hread := magnitude?_ofNat false n.natAbs h
    rw [if_neg (by simp), show (n.natAbs : Int) = n by omega] at hread
    obtain ⟨c, cs, hdigits⟩ := List.exists_cons_of_ne_nil (@Nat.toDigits_ne_nil n.natAbs 10)
    have hc : c.isDigit := Nat.isDigit_of_mem_toDigits (by decide) (by decide) (hdigits ▸ List.mem_cons_self)
    -- A digit is none of the letters that another kind of value starts with, and no white space.
    have hne : ∀ x ∈ ['"', '[', '\x7b', 't', 'f', 'n', '-', ' ', '\n', '\r', '\t'], c ≠ x := by
      rintro x hx rfl
      simp only [List.mem_cons, List.not_mem_nil, or_false] at hx
      rcases hx with rfl | rfl | rfl | rfl | rfl | rfl | rfl | rfl | rfl | rfl | rfl <;> cases hc
    simp only [List.forall_mem_cons] at hne
    have hfront : skipSpace (.char c :: (cs.map Letter.char ++ rest)) = .char c :: (cs.map Letter.char ++ rest) :=
      skipSpace_cons (by simp [Letter.isIn, isSpace, hne]) _
    simp only [Text.ofNat, Text.ofChars, hdigits, List.map_cons, List.cons_append] at hread
    simp [integerDigits, hn, Text.ofNat, Text.ofChars, hdigits, value?, hfront, hread, hne]

end Collections

/-- A fixed sequence is written as a list is. -/
lemma write_tuple (d : Depth) (vs : List Value) : write d (.tuple vs) = write d (.list vs) := by
  cases vs <;> simp only [write]

mutual

/-- The text of a value is read back. -/
lemma value?_write (d : Depth) : (v : Value) → {w : Value} → readBack? v = some w → {fuel : Nat} →
    (write d v).length ≤ fuel → {rest : Text} → EndsNumber rest →
    value? (fuel + 1) (write d v ++ rest) = some (w, rest)
  | .null, _, rfl, _, _, rest, _ => congrArg (Option.map _) (expect?_append "ull" rest)
  | .bool true, _, rfl, _, _, rest, _ => congrArg (Option.map _) (expect?_append "rue" rest)
  | .bool false, _, rfl, _, _, rest, _ => congrArg (Option.map _) (expect?_append "alse" rest)
  | .int n, _, rfl, _, _, _, hrest => value?_integerDigits n hrest
  | .str s, _, rfl, _, _, rest, _ => by
    obtain ⟨body, hwritten, hread⟩ := textBody?_writeText s rest
    have hquote : skipSpace (.char '"' :: body) = .char '"' :: body := skipSpace_cons rfl _
    simp only [write, hwritten, value?, hquote, hread, Option.map_some]
  | .list vs, w, h, _, hfuel, _, _ => by
    obtain ⟨ws, hws, rfl⟩ := Option.map_eq_some_iff.1 h
    exact value?_writeList d vs hws hfuel
  | .tuple vs, w, h, _, hfuel, _, _ => by
    obtain ⟨ws, hws, rfl⟩ := Option.map_eq_some_iff.1 h
    rw [write_tuple] at hfuel ⊢
    exact value?_writeList d vs hws hfuel
  | .map es, w, h, _, hfuel, _, _ => by
    obtain ⟨fs, hfs, rfl⟩ := Option.map_eq_some_iff.1 h
    exact value?_writeMap d es hfs hfuel

/-- A list is read back, item by item, as long as there is fuel for its text. -/
lemma value?_writeList (d : Depth) : (vs : List Value) → {ws : List Value} → readBackItems? vs = some ws →
    {fuel : Nat} → (write d (.list vs)).length ≤ fuel → {rest : Text} →
    value? (fuel + 1) (write d (.list vs) ++ rest) = some (.list ws, rest)
  | [], _, rfl, _, _, _ => rfl
  | v :: vs, ws, h, fuel, hfuel, rest => by
    simp only [readBackItems?, Option.bind_eq_some_iff, Option.map_eq_some_iff] at h
    obtain ⟨v', hv, vs', hvs, rfl⟩ := h
    have hopen : Text.ofString "[" = [.char '['] := rfl
    have hclose : Text.ofString "]" = [.char ']'] := rfl
    simp only [write, hopen, hclose, List.append_assoc, List.cons_append, List.nil_append, List.length_cons,
      List.length_append] at hfuel ⊢
    obtain ⟨k, rfl⟩ := Nat.exists_eq_add_of_le' (show 2 ≤ fuel by omega)
    have hfirst : value? (k + 1) _ = some (v', writeItems d vs ++ (closeGap d ++ .char ']' :: rest)) :=
      value?_write d.deeper v hv (by omega) (endsNumber_writeItems d vs)
    rw [← value?_congr (skipSpace_append (isGap_openGap d) _)] at hfirst
    exact value?_bracket (items?_writeItems d vs hvs (by omega) hfirst)

/-- The items behind one that was read are read back. -/
lemma items?_writeItems (d : Depth) : (vs : List Value) → {ws : List Value} → readBackItems? vs = some ws →
    {fuel : Nat} → (writeItems d vs).length ≤ fuel → {t rest : Text} → {w : Value} →
    value? (fuel + 1) t = some (w, writeItems d vs ++ (closeGap d ++ .char ']' :: rest)) →
    items? (fuel + 2) t = some (w :: ws, rest)
  | [], _, rfl, fuel, hfuel, t, rest, w, ht => by
    refine items?_last ht ?_
    rw [writeItems, List.nil_append, skipSpace_append (isGap_closeGap d), skipSpace_cons rfl]
  | v :: vs, ws, h, fuel, hfuel, t, rest, w, ht => by
    simp only [readBackItems?, Option.bind_eq_some_iff, Option.map_eq_some_iff] at h
    obtain ⟨v', hv, vs', hvs, rfl⟩ := h
    obtain ⟨gap, hgap, blank⟩ := exists_itemGap d
    simp only [writeItems, hgap, List.cons_append, List.append_assoc, List.length_cons, List.length_append] at hfuel ht
    obtain ⟨k, rfl⟩ := Nat.exists_eq_add_of_le' (show 1 ≤ fuel by omega)
    have hnext : value? (k + 1) _ = some (v', writeItems d vs ++ (closeGap d ++ .char ']' :: rest)) :=
      value?_write d.deeper v hv (by omega) (endsNumber_writeItems d vs)
    rw [← value?_congr (skipSpace_append blank _)] at hnext
    exact items?_cons ht (skipSpace_cons rfl _) (items?_writeItems d vs hvs (by omega) hnext)

/-- An object is read back, entry by entry, as long as there is fuel for its text. -/
lemma value?_writeMap (d : Depth) : (es : List (Value × Value)) → {fs : List (Value × Value)} →
    readBackEntries? es = some fs → {fuel : Nat} → (write d (.map es)).length ≤ fuel → {rest : Text} →
    value? (fuel + 1) (write d (.map es) ++ rest) = some (.map fs, rest)
  | [], _, rfl, _, _, _ => rfl
  | (.str k, v) :: es, fs, h, fuel, hfuel, rest => by
    simp only [readBackEntries?, Option.bind_eq_some_iff, Option.map_eq_some_iff] at h
    obtain ⟨v', hv, es', hes, rfl⟩ := h
    have hopen : Text.ofString "\x7b" = [.char '\x7b'] := rfl
    have hclose : Text.ofString "\x7d" = [.char '\x7d'] := rfl
    simp only [write, keyText, hopen, hclose, List.append_assoc, List.cons_append, List.nil_append, List.length_cons,
      List.length_append] at hfuel ⊢
    obtain ⟨n, rfl⟩ := Nat.exists_eq_add_of_le' (show 2 ≤ fuel by omega)
    have hfirst : value? (n + 1) _ = some (v', writeEntries d es ++ (closeGap d ++ .char '\x7d' :: rest)) :=
      value?_write d.deeper v hv (by omega) (endsNumber_writeEntries d es)
    have hentry := readsEntry_writeText (isGap_openGap d) k hfirst
    exact value?_brace (entries?_writeEntries d es hes (by omega) hentry)

/-- The entries behind one that was read are read back. -/
lemma entries?_writeEntries (d : Depth) : (es : List (Value × Value)) → {fs : List (Value × Value)} →
    readBackEntries? es = some fs → {fuel : Nat} → (writeEntries d es).length ≤ fuel → {t rest k : Text} →
    {w : Value} → ReadsEntry (fuel + 1) t k w (writeEntries d es ++ (closeGap d ++ .char '\x7d' :: rest)) →
    entries? (fuel + 2) t = some ((.str k, w) :: fs, rest)
  | [], _, rfl, fuel, hfuel, t, rest, k, w, ht => by
    refine entries?_last ht ?_
    rw [writeEntries, List.nil_append, skipSpace_append (isGap_closeGap d), skipSpace_cons rfl]
  | (.str k', v) :: es, fs, h, fuel, hfuel, t, rest, k, w, ht => by
    simp only [readBackEntries?, Option.bind_eq_some_iff, Option.map_eq_some_iff] at h
    obtain ⟨v', hv, es', hes, rfl⟩ := h
    obtain ⟨gap, hgap, blank⟩ := exists_itemGap d
    simp only [writeEntries, keyText, hgap, List.cons_append, List.append_assoc, List.length_cons,
      List.length_append] at hfuel ht
    obtain ⟨n, rfl⟩ := Nat.exists_eq_add_of_le' (show 1 ≤ fuel by omega)
    have hnext : value? (n + 1) _ = some (v', writeEntries d es ++ (closeGap d ++ .char '\x7d' :: rest)) :=
      value?_write d.deeper v hv (by omega) (endsNumber_writeEntries d es)
    have hentry := readsEntry_writeText blank k' hnext
    exact entries?_cons ht (skipSpace_cons rfl _) (entries?_writeEntries d es hes (by omega) hentry)

end

/-- A whole text is the text of a value, with white space behind it. -/
lemma read?_write {v w : Value} (h : readBack? v = some w) (d : Depth) {gap : Text} (hgap : IsGap gap) :
    read? (write d v ++ gap) = some w := by
  have hread : value? (2 * (write d v ++ gap).length + 2) (write d v ++ gap) = some (w, gap) := by
    have hend : EndsNumber (gap ++ []) := endsNumber_gap hgap nofun
    rw [List.append_nil] at hend
    refine value?_write d v h ?_ hend
    simp only [List.length_append]
    omega
  have hrest : skipSpace gap = [] := by
    rw [← List.append_nil gap, skipSpace_append hgap]
    rfl
  rw [read?, hread]
  simp only [hrest, List.isEmpty_nil, if_true]

/-- What can be read back is read from its line. -/
lemma read?_line {v w : Value} (h : readBack? v = some w) : read? (line v) = some w := by
  have hread := read?_write h none (show IsGap [] from nofun)
  rwa [List.append_nil] at hread

/-- What can be read back is read from its document. -/
lemma read?_document {v w : Value} (h : readBack? v = some w) : read? (document v) = some w :=
  read?_write h (some 0) (by simp [IsGap, Letter.isIn, isSpace])

end TaggedGrammar.Json
