import TaggedGrammar.Proofs.Json.RoundTrip
import TaggedGrammar.Proofs.Text.Newline
import TaggedGrammar.Proofs.Value.Display

/-!
# Whole numbers are read back from their digits

The digits of a whole number are read as that number, if the limit admits so many of them.
-/

namespace TaggedGrammar

section Digits

variable {c : Char} {cs : List Char}

/-- The codes of the decimal digits. -/
lemma toNat_of_isDigit (h : c.isDigit) : 48 ≤ c.toNat ∧ c.toNat ≤ 57 := by
  simpa [Char.isDigit, UInt32.le_iff_toNat_le] using h

/-- A decimal digit has its value in every base. -/
lemma radixDigit?_of_isDigit (h : c.isDigit) : radixDigit? c = some (c.toNat - 48) := by
  obtain ⟨low, high⟩ := toNat_of_isDigit h
  have noLower : ¬('a' ≤ c ∧ c ≤ 'z') := by
    rintro ⟨ha, -⟩
    have : 97 ≤ c.toNat := ha
    omega
  have noUpper : ¬('A' ≤ c ∧ c ≤ 'Z') := by
    rintro ⟨ha, -⟩
    have : 65 ≤ c.toNat := ha
    omega
  -- the digits of the first script have the smallest code points
  have zero : Text.digitZeros.find? (fun z => z ≤ c.toNat && c.toNat ≤ z + 9) = some 48 := by
    apply List.find?_cons_of_pos
    simp [low, high]
  rw [radixDigit?, if_neg noLower, if_neg noUpper, Text.digitValue?, zero, Option.map_some]

/-- A run of digits is read to its end. -/
lemma spanRadix_ten (h : ∀ c ∈ cs, c.isDigit) : spanRadix 10 cs = (cs.map (·.toNat - 48), []) := by
  induction cs with
  | nil => rfl
  | cons c rest ih =>
    obtain ⟨hc, hrest⟩ := List.forall_mem_cons.1 h
    have small : c.toNat - 48 < 10 := by
      have := toNat_of_isDigit hc
      omega
    have digit : (radixDigit? c).filter (· < 10) = some (c.toNat - 48) := by
      rw [radixDigit?_of_isDigit hc, Option.filter_some, if_pos (decide_eq_true small)]
    rw [spanRadix, digit, ih hrest]
    rfl

/-- A base that has no mark has none to be skipped. -/
lemma skipRadixMark_ten (cs : List Char) : skipRadixMark 10 cs = cs := by
  unfold skipRadixMark
  split
  · exact if_neg nofun
  · rfl

/-- A digit is no blank. -/
lemma isNumberBlank_of_isDigit (h : c.isDigit) : isNumberBlank c = false := by
  obtain ⟨low, high⟩ := toNat_of_isDigit h
  have blank : Text.isBlankChar c = false := by
    simp only [Text.isBlankChar, Text.blankRanges, List.any_cons, List.any_nil, Bool.or_eq_false_iff,
      Bool.and_eq_false_iff, decide_eq_false_iff_not, and_true]
    omega
  rw [isNumberBlank, blank, Bool.false_and]

/-- A digit is no sign. -/
lemma takeSign_of_isDigit (h : c.isDigit) : takeSign (c :: cs) = (false, c :: cs) := by
  rw [takeSign]
  · rintro rest heq
    cases heq
    exact absurd h (by decide)
  · rintro rest heq
    cases heq
    exact absurd h (by decide)

end Digits

/-- A number is read back from its digits. -/
lemma ofDigits_toDigits (n : Nat) : ofDigits 10 ((Nat.toDigits 10 n).map (·.toNat - 48)) = n := by
  rw [ofDigits, List.foldl_map]
  exact Json.decimalNumber_toDigits n

/-- The text of a whole number has a sign if the number is negative, and then its digits. -/
lemma toList_toString (n : Int) :
    (toString n).toList = (if n < 0 then ['-'] else []) ++ Nat.toDigits 10 n.natAbs := by
  rw [Int.toString_eq_repr, Int.repr_eq_if]
  split
  next positive =>
    rw [if_neg (not_lt.2 positive), Nat.repr_eq_ofList_toDigits, String.toList_ofList, List.nil_append,
      ← Int.toNat_of_nonneg positive, Int.natAbs_natCast, Int.toNat_natCast]
  next negative =>
    have absolute : (-n).toNat = n.natAbs := by omega
    simp only [if_pos (not_le.1 negative), absolute, Nat.repr_eq_ofList_toDigits, String.toList_append,
      String.toList_ofList]
    rfl

/-- The whole number that a text is read as. -/
def wholeNumber? (t : Text) : Option Int :=
  t.chars?.bind fun cs =>
    match readInt 10 cs with
    | .number n => some n
    | _ => none

/-- A whole number is read from its sign and its digits. -/
lemma readInt_toString {n : Int} (short : Value.IsShort n) : readInt 10 (toString n).toList = .number n := by
  have digits : ∀ c ∈ Nat.toDigits 10 n.natAbs, c.isDigit := fun c hc =>
    Nat.isDigit_of_mem_toDigits (by decide) (by decide) hc
  obtain ⟨first, rest, hdigits⟩ := List.exists_cons_of_ne_nil (Nat.toDigits_ne_nil (n := n.natAbs) (b := 10))
  have hfirst : first.isDigit := digits first (hdigits ▸ List.mem_cons_self)
  have signed : takeSign ((toString n).toList.dropWhile isNumberBlank) =
      (decide (n < 0), Nat.toDigits 10 n.natAbs) := by
    rw [toList_toString]
    split
    next negative =>
      rw [decide_eq_true negative]
      rfl
    next positive =>
      have unblank : ¬isNumberBlank first = true := by simp [isNumberBlank_of_isDigit hfirst]
      rw [List.nil_append, decide_eq_false positive, hdigits, List.dropWhile_cons_of_neg unblank,
        takeSign_of_isDigit hfirst]
  have few : ¬digitLimit < (Nat.toDigits 10 n.natAbs).length :=
    Nat.not_lt.2 (Nat.toDigits_length 10 _ _ (by decide) short)
  simp only [readInt, signed, skipRadixMark_ten, spanRadix_ten digits, ofDigits_toDigits, List.length_map, few,
    and_false, if_false]
  rw [if_neg (by simp [hdigits])]
  congr 1
  split
  next negative =>
    have := of_decide_eq_true negative
    omega
  next positive =>
    have := of_decide_eq_false (Bool.eq_false_iff.2 positive)
    omega

/-- A number that can be displayed is read back from its text. -/
lemma wholeNumber?_toString {n : Int} (short : Value.IsShort n) :
    wholeNumber? (Text.ofString (toString n)) = some n := by
  have chars : (Text.ofString (toString n)).chars? = some (toString n).toList := Text.chars?_eq_some.2 rfl
  rw [wholeNumber?, chars, Option.bind_some, readInt_toString short]

end TaggedGrammar
