import Mathlib
import TaggedGrammar.Decimal.Double
import TaggedGrammar.Proofs.Value.Display

/-!
# The range of doubles

A whole number has a nearest double unless it is at least as large as the middle between the greatest double and the
next power of two. A number within this range can be displayed.
-/

namespace TaggedGrammar

namespace Double

/-- A whole number that is nearest to a finite double. -/
def InRange (n : Int) : Prop :=
  n.natAbs < 2 ^ 1024 - 2 ^ 970

instance (n : Int) : Decidable (InRange n) :=
  inferInstanceAs (Decidable (n.natAbs < 2 ^ 1024 - 2 ^ 970))

/-- A quotient that is nearer to `k - 1` than to `k`, or below, is rounded below `k`. -/
lemma roundHalfEven_lt {num den k : Nat} (h : 2 * num + den < 2 * k * den) : roundHalfEven num den < k := by
  have hden : 0 < den := by
    rcases Nat.eq_zero_or_pos den with rfl | hpos
    · omega
    · exact hpos
  have split := Nat.div_add_mod num den
  rw [mul_assoc, mul_comm k den] at h
  have below : num / den < k := by
    have hlt : den * (num / den) < den * k := by omega
    exact Nat.lt_of_mul_lt_mul_left hlt
  have above (hhalf : den ≤ 2 * (num % den)) : num / den + 1 < k := by
    have hlt : den * (num / den + 1) < den * k := by
      rw [mul_add, mul_one]
      omega
    exact Nat.lt_of_mul_lt_mul_left hlt
  unfold roundHalfEven
  dsimp only
  split
  · exact below
  next hhalf =>
  split
  · exact above (by omega)
  · split
    · exact below
    · exact above (by omega)

/-- The exponent of a whole number is given by its bits. -/
lemma exponentFor_one {m : Nat} (h : m ≠ 0) : exponentFor m 1 = (m.log2 : Int) - 52 := by
  have hlog : Nat.log2 1 = 0 := by decide
  have hbelow : belowPower m 1 (m.log2 : Int) = false := by
    have hle : 2 ^ m.log2 ≤ m := Nat.log2_self_le h
    simp only [belowPower, if_neg (by omega : ¬(m.log2 : Int) < 0), Int.natAbs_natCast, one_mul, Nat.pow_eq,
      decide_eq_false_iff_not, not_lt]
    exact hle
  simp only [exponentFor, hlog, Nat.cast_zero, sub_zero, hbelow, Bool.false_eq_true, if_false]
  omega

/-- A scale that is not negative divides. -/
lemma roundScaled_natCast (num den k : Nat) : roundScaled num den (k : Int) = roundHalfEven num (den * 2 ^ k) := by
  rw [roundScaled, if_neg (by omega), Int.natAbs_natCast, Nat.pow_eq]

/-- At the greatest exponent no number in range is rounded up to the next power of two. -/
lemma roundScaled_lt {m : Nat} (h : m < 2 ^ 1024 - 2 ^ 970) : roundScaled m 1 (971 : Nat) < 2 ^ 53 := by
  have hnext : 2 ^ 971 = 2 * 2 ^ 970 := by rw [← pow_succ']
  have hend : 2 ^ 1024 = 2 ^ 54 * 2 ^ 970 := by rw [← pow_add]
  rw [roundScaled_natCast, one_mul]
  apply roundHalfEven_lt
  rw [hnext]
  rw [hend] at h
  generalize 2 ^ 970 = b at h ⊢
  omega

/-- A whole number below the bound has a double. -/
lemma exists_finite_of_lt {m : Nat} (h : m < 2 ^ 1024 - 2 ^ 970) (negative : Bool) :
    ∃ mantissa exponent, ofRatio negative m 1 = .finite negative mantissa exponent := by
  unfold ofRatio
  split
  · exact ⟨_, _, rfl⟩
  next hm =>
  have hlog : m.log2 < 1024 := (Nat.log2_lt hm).2 (by omega)
  rw [exponentFor_one hm]
  dsimp only
  split
  next hround =>
    -- rounding up to the next power of two is left to smaller exponents
    have hsmall : m.log2 ≠ 1023 := by
      intro htop
      have hexp : (m.log2 : Int) - 52 = (971 : Nat) := by omega
      rw [hexp] at hround
      exact absurd hround (ne_of_lt (roundScaled_lt h))
    dsimp only
    rw [if_neg (by omega)]
    exact ⟨_, _, rfl⟩
  next =>
    dsimp only
    rw [if_neg (by omega)]
    exact ⟨_, _, rfl⟩

/-- A whole number in range is rounded to a finite double. -/
lemma isSome_ofInt? {n : Int} (h : InRange n) : (ofInt? n).isSome := by
  obtain ⟨mantissa, exponent, heq⟩ := exists_finite_of_lt h (n < 0)
  simp [ofInt?, heq]

/-- A number in the range of doubles can be displayed. -/
lemma InRange.isShort {n : Int} (h : InRange n) : Value.IsShort n := by
  have power {k : Nat} (hk : k ≤ digitLimit) : 2 ^ k ≤ 10 ^ digitLimit :=
    (Nat.pow_le_pow_left (by decide) k).trans (Nat.pow_le_pow_right (by decide) hk)
  exact lt_of_lt_of_le h ((Nat.sub_le _ _).trans (power (by decide)))

end Double

end TaggedGrammar
