import Mathlib
import TaggedGrammar.Json.Writer

/-!
# The letters of JSON texts

No control character stands in a JSON text, the line ends of an indented text apart. So a document has no
carriage return and is read back from a file as it was written.
-/

namespace TaggedGrammar.Json

/-- No letter of the text is a control character. -/
def Printed (t : Text) : Prop :=
  ∀ l ∈ t, 0x20 ≤ l.code

/-- A letter that may stand in the text of a value at a depth. -/
def Allowed (d : Depth) (l : Letter) : Prop :=
  0x20 ≤ l.code ∨ (d.isSome ∧ l = .char '\n')

/-- A text without control characters is allowed at every depth. -/
lemma Printed.allowed {t : Text} (h : Printed t) (d : Depth) : ∀ l ∈ t, Allowed d l :=
  fun l hl => .inl (h l hl)

/-- Characters from the blank on are no control characters. -/
lemma printed_ofChars {cs : List Char} : Printed (Text.ofChars cs) ↔ ∀ c ∈ cs, 0x20 ≤ c.toNat := by
  simp [Printed, Text.ofChars, Letter.code]

/-- Two texts have no control characters if neither has any. -/
lemma printed_append {s t : Text} : Printed (s ++ t) ↔ Printed s ∧ Printed t :=
  List.forall_mem_append

/-- A letter in front has to be no control character, too. -/
lemma printed_cons {l : Letter} {t : Text} : Printed (l :: t) ↔ 0x20 ≤ l.code ∧ Printed t :=
  List.forall_mem_cons

/-- Digits are no control characters. -/
lemma le_toNat_of_mem_toDigits {n : Nat} {c : Char} (h : c ∈ Nat.toDigits 10 n) : 0x20 ≤ c.toNat := by
  have hdigit := Nat.isDigit_of_mem_toDigits (by decide) (by decide) h
  simp only [Char.isDigit, Bool.and_eq_true, decide_eq_true_eq, ge_iff_le, UInt32.le_iff_toNat_le] at hdigit
  have hlow : 48 ≤ c.toNat := hdigit.1
  omega

/-- A number has no control characters. -/
lemma printed_ofNat (n : Nat) : Printed (Text.ofNat n) :=
  printed_ofChars.2 fun _ => le_toNat_of_mem_toDigits

/-- Neither has one with a sign. -/
lemma printed_integerDigits (n : Int) : Printed (integerDigits n) := by
  unfold integerDigits
  refine printed_append.2 ⟨?_, printed_ofNat _⟩
  split <;> simp [Printed, Letter.code]

/-- A layout of digits adds a point, zeros and an exponent to them. -/
lemma le_toNat_of_mem_layout {ds : List Char} {p : Int} (h : ∀ c ∈ ds, 0x20 ≤ c.toNat) :
    ∀ c ∈ Double.layout ds p, 0x20 ≤ c.toNat := by
  have hexponent : ∀ c ∈ Double.exponentText p, 0x20 ≤ c.toNat := by
    unfold Double.exponentText
    simp only [List.forall_mem_cons]
    constructor
    · split <;> decide
    · split
      · exact List.forall_mem_cons.2 ⟨by decide, fun _ => le_toNat_of_mem_toDigits⟩
      · exact fun _ => le_toNat_of_mem_toDigits
  have hzeros : ∀ k, ∀ c ∈ List.replicate k '0', 0x20 ≤ c.toNat := by
    intro k c hc
    rw [List.eq_of_mem_replicate hc]
    decide
  have htake : ∀ k, ∀ c ∈ ds.take k, 0x20 ≤ c.toNat := fun k c hc => h c (List.mem_of_mem_take hc)
  have hdrop : ∀ k, ∀ c ∈ ds.drop k, 0x20 ≤ c.toNat := fun k c hc => h c (List.mem_of_mem_drop hc)
  have hpoint : 0x20 ≤ '.'.toNat := by decide
  have hzero : 0x20 ≤ '0'.toNat := by decide
  have he : 0x20 ≤ 'e'.toNat := by decide
  unfold Double.layout
  dsimp only
  -- with an exponent or without one, and then by the place of the point
  split
  · split
    · simp only [List.forall_mem_cons, List.forall_mem_append]
      exact ⟨hzero, hpoint, hzeros _, h⟩
    · split
      · simp only [List.forall_mem_cons, List.forall_mem_append]
        exact ⟨⟨h, hzeros _⟩, hpoint, hzero, by simp⟩
      · simp only [List.forall_mem_cons, List.forall_mem_append]
        exact ⟨htake _, hpoint, hdrop _⟩
  · simp only [List.forall_mem_cons, List.forall_mem_append]
    refine ⟨⟨htake _, ?_⟩, he, hexponent⟩
    have hrest := hdrop 1
    split
    · simp
    · exact List.forall_mem_cons.2 ⟨hpoint, hrest⟩

/-- Neither has the text of a double without its sign. -/
lemma le_toNat_of_mem_magnitudeText (m : Nat) (e : Int) : ∀ c ∈ Double.magnitudeText m e, 0x20 ≤ c.toNat := by
  unfold Double.magnitudeText
  split
  · simp
  · refine le_toNat_of_mem_layout fun c hc => ?_
    unfold Double.dropZeros at hc
    have hmem := (List.dropWhile_sublist _).subset (List.mem_reverse.1 hc)
    exact le_toNat_of_mem_toDigits (List.mem_reverse.1 hmem)

/-- Neither has the text of a double. -/
lemma printed_doubleText (x : Double) : Printed (Text.ofString (doubleText x)) := by
  refine printed_ofChars.2 ?_
  match x with
  | .nan => simp [doubleText]
  | .infinite false => simp [doubleText]
  | .infinite true => simp [doubleText]
  | .finite s m e =>
    simp only [doubleText, Double.text, String.toList_ofList, List.forall_mem_append]
    refine ⟨?_, le_toNat_of_mem_magnitudeText m e⟩
    split <;> simp

/-- What stands for a letter inside a text is no control character. -/
lemma printed_escapeLetter (l : Letter) : Printed (escapeLetter l) := by
  cases l with
  | half n => simp [escapeLetter, Printed, Letter.code, Letter.firstHalf]; omega
  | char c =>
    refine printed_ofChars.2 ?_
    have hhex : ∀ n < 0x20, (Text.hexDigits 4 n).all (0x20 ≤ ·.toNat) := by decide
    unfold escapeChar
    split_ifs with _ _ _ _ _ _ _ hsmall
    rotate_right 2
    · have hdigits : ∀ x ∈ Text.hexDigits 4 c.toNat, 0x20 ≤ x.toNat := by simpa using hhex _ hsmall
      exact List.forall_mem_cons.2 ⟨by decide, List.forall_mem_cons.2 ⟨by decide, hdigits⟩⟩
    · exact List.forall_mem_singleton.2 (by omega)
    all_goals simp

/-- Neither has a text in quotes, since those it has are escaped. -/
lemma printed_writeText (s : Text) : Printed (writeText s) := by
  unfold writeText
  refine printed_cons.2 ⟨by decide, printed_append.2 ⟨?_, by simp [Printed, Letter.code]⟩⟩
  intro l hl
  obtain ⟨x, -, hx⟩ := List.mem_flatMap.1 hl
  exact printed_escapeLetter x l hx

/-- A new line is allowed in an indented document. -/
lemma allowed_lineAt (depth k : Nat) : ∀ l ∈ lineAt k, Allowed (some depth) l := by
  unfold lineAt
  refine List.forall_mem_cons.2 ⟨.inr ⟨rfl, rfl⟩, fun l hl => ?_⟩
  rw [List.eq_of_mem_replicate hl]
  exact .inl (by decide)

/-- The gap behind a bracket is allowed. -/
lemma allowed_openGap (d : Depth) : ∀ l ∈ openGap d, Allowed d l := by
  cases d with
  | none => simp [openGap]
  | some depth => exact allowed_lineAt _ _

/-- The gap between items is allowed. -/
lemma allowed_itemGap (d : Depth) : ∀ l ∈ itemGap d, Allowed d l := by
  cases d with
  | none =>
    refine Printed.allowed ?_ _
    simp [itemGap, Printed, Letter.code]
  | some depth => exact List.forall_mem_cons.2 ⟨.inl (by decide), allowed_lineAt _ _⟩

/-- The gap in front of a closing bracket is allowed. -/
lemma allowed_closeGap (d : Depth) : ∀ l ∈ closeGap d, Allowed d l := by
  cases d with
  | none => simp [closeGap]
  | some depth => exact allowed_lineAt _ _

/-- What is allowed deeper is allowed here. -/
lemma Allowed.of_deeper {d : Depth} {l : Letter} (h : Allowed d.deeper l) : Allowed d l := by
  simpa [Allowed, Depth.deeper] using h

/-- A word without control characters has none as a text. -/
lemma printed_ofString {s : String} (h : ∀ c ∈ s.toList, 0x20 ≤ c.toNat) : Printed (Text.ofString s) :=
  printed_ofChars.2 h

mutual

/-- No control character stands in the text of a value, line ends apart. -/
lemma allowed_write (d : Depth) : (v : Value) → ∀ l ∈ write d v, Allowed d l
  | .str s => (printed_writeText s).allowed d
  | .int n => (printed_integerDigits n).allowed d
  | .float x => (printed_doubleText x).allowed d
  | .bool true | .bool false => (printed_ofString (by simp)).allowed d
  | .list [] | .tuple [] | .map [] => (printed_ofString (by simp)).allowed d
  | .list (v :: rest) | .tuple (v :: rest) => by
    simp only [write, List.forall_mem_append]
    exact ⟨⟨⟨⟨⟨(printed_ofString (by simp)).allowed d, allowed_openGap d⟩,
      fun l hl => (allowed_write d.deeper v l hl).of_deeper⟩, allowed_writeItems d rest⟩,
      allowed_closeGap d⟩, (printed_ofString (by simp)).allowed d⟩
  | .map ((k, v) :: rest) => by
    simp only [write, List.forall_mem_append]
    exact ⟨⟨⟨⟨⟨⟨⟨(printed_ofString (by simp)).allowed d, allowed_openGap d⟩,
      (printed_writeText _).allowed d⟩, (printed_ofString (by simp)).allowed d⟩,
      fun l hl => (allowed_write d.deeper v l hl).of_deeper⟩, allowed_writeEntries d rest⟩,
      allowed_closeGap d⟩, (printed_ofString (by simp)).allowed d⟩
  | .null | .ordered _ | .record _ _ | .day _ | .instant _ | .bytes _ | .set _ =>
    (printed_ofString (by simp)).allowed d

/-- Items are written with allowed letters. -/
lemma allowed_writeItems (d : Depth) : (items : List Value) → ∀ l ∈ writeItems d items, Allowed d l
  | [] => by simp [writeItems]
  | v :: rest => by
    simp only [writeItems, List.forall_mem_append]
    exact ⟨⟨allowed_itemGap d, fun l hl => (allowed_write d.deeper v l hl).of_deeper⟩,
      allowed_writeItems d rest⟩

/-- Entries are written with allowed letters. -/
lemma allowed_writeEntries (d : Depth) :
    (entries : List (Value × Value)) → ∀ l ∈ writeEntries d entries, Allowed d l
  | [] => by simp [writeEntries]
  | (k, v) :: rest => by
    simp only [writeEntries, List.forall_mem_append]
    exact ⟨⟨⟨⟨allowed_itemGap d, (printed_writeText _).allowed d⟩, (printed_ofString (by simp)).allowed d⟩,
      fun l hl => (allowed_write d.deeper v l hl).of_deeper⟩, allowed_writeEntries d rest⟩

end

/-- A document has no carriage return. -/
lemma return_notMem_document (v : Value) : .char '\r' ∉ document v := by
  intro h
  have hallowed : ∀ l ∈ document v, Allowed (some 0) l :=
    List.forall_mem_append.2 ⟨allowed_write _ v, by simp [Allowed]⟩
  rcases hallowed _ h with hcode | ⟨-, hline⟩
  · simp [Letter.code] at hcode
  · simp at hline

end TaggedGrammar.Json
