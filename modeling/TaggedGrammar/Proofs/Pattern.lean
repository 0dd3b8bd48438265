import Mathlib
import TaggedGrammar.Pattern

/-!
# Patterns keep the aliases

A union of aliases can be cut again into the aliases, and a shape with a slot shows what it was filled with.
-/

namespace TaggedGrammar.Pattern

section Union

/-- One letter of an alias goes to the first alternative. -/
lemma alternatives_escapeLetter (l : Letter) (t : Text) :
    alternatives (escapeLetter l ++ t) = consFirst l (alternatives t) := by
  unfold escapeLetter
  split
  · rfl
  · next hplain =>
    have hslash : l ≠ .char '\\' := by
      rintro rfl
      exact hplain (by decide)
    have hbar : l ≠ .char '|' := by
      rintro rfl
      exact hplain (by decide)
    simp only [List.cons_append, List.nil_append]
    rw [alternatives]
    · exact fun _ _ h _ => hslash h
    · exact hbar

/-- An escaped text in front belongs to the first alternative. -/
lemma alternatives_escape (s : Text) {t first : Text} {rest : List Text} (h : alternatives t = first :: rest) :
    alternatives (escape s ++ t) = (s ++ first) :: rest := by
  induction s with
  | nil => exact h
  | cons l s ih =>
    change alternatives (escapeLetter l ++ escape s ++ t) = _
    rw [List.append_assoc, alternatives_escapeLetter, ih]
    rfl

/-- The aliases of a union are its alternatives. -/
lemma alternatives_union (a : Text) (aliases : List Text) : alternatives (union (a :: aliases)) = a :: aliases := by
  induction aliases generalizing a with
  | nil =>
    have h := alternatives_escape a (show alternatives [] = [] :: [] from rfl)
    simpa [union, Text.join] using h
  | cons b aliases ih =>
    have hunion : union (a :: b :: aliases) = escape a ++ .char '|' :: union (b :: aliases) := by
      simp [union, Text.join, List.intercalate_cons_cons]
    have hbar : alternatives (.char '|' :: union (b :: aliases)) = [] :: b :: aliases := by
      rw [alternatives, ih]
    rw [hunion, alternatives_escape a hbar, List.append_nil]

/-- A union tells its aliases. -/
lemma union_injective {as bs : List Text} (has : as ≠ []) (hbs : bs ≠ []) (h : union as = union bs) : as = bs := by
  obtain ⟨a, as, rfl⟩ := List.exists_cons_of_ne_nil has
  obtain ⟨b, bs, rfl⟩ := List.exists_cons_of_ne_nil hbs
  rw [← alternatives_union a as, h, alternatives_union]

end Union

section Slots

/-- The length of a joined text is that of its parts and separators. -/
lemma length_intercalate (u p : Text) (ps : List Text) :
    (u.intercalate (p :: ps)).length = ((p :: ps).map List.length).sum + ps.length * u.length := by
  induction ps generalizing p with
  | nil => simp
  | cons q ps ih =>
    rw [List.intercalate_cons_cons, List.length_append, List.length_append, ih]
    simp only [List.map_cons, List.sum_cons, List.length_cons, Nat.succ_mul]
    omega

/-- There is always a piece. -/
lemma pieces_ne_nil (shape : Text) : pieces shape ≠ [] := by
  fun_induction pieces shape with
  | case1 => simp
  | case2 rest ih => simp
  | case3 c rest hne ih => cases pieces rest <;> simp [consFirst]

/-- A letter in front of the first text is in front of all of them, whatever is put between them. -/
lemma intercalate_consFirst {ps : List Text} (h : ps ≠ []) (c : Letter) (u : Text) :
    u.intercalate (consFirst c ps) = c :: u.intercalate ps := by
  obtain ⟨p, rest, rfl⟩ := List.exists_cons_of_ne_nil h
  rw [consFirst, List.intercalate_cons_cons_left]

/-- Filling a shape puts the text between its pieces. -/
lemma fill_eq (shape u : Text) : fill shape u = u.intercalate (pieces shape) := by
  fun_induction pieces shape with
  | case1 => rfl
  | case2 rest ih =>
    rw [List.intercalate_cons_of_ne_nil (pieces_ne_nil rest), ← ih]
    rfl
  | case3 c rest hne ih =>
    rw [intercalate_consFirst (pieces_ne_nil rest), ← ih, fill]
    exact hne

/-- A shape with a slot is filled differently by different texts. -/
lemma fill_injective {shape u v : Text} (hslot : hasSlot shape) (h : fill shape u = fill shape v) : u = v := by
  unfold hasSlot at hslot
  rw [fill_eq, fill_eq] at h
  match hpieces : pieces shape with
  | [] | [_] => simp [hpieces] at hslot
  | p :: q :: ps =>
    rw [hpieces] at h
    -- The texts have one length, since as many of them stand between the same pieces.
    have hlength := congrArg List.length h
    simp only [length_intercalate, Nat.add_left_cancel_iff] at hlength
    have huv : u.length = v.length := Nat.eq_of_mul_eq_mul_left (Nat.succ_pos _) hlength
    simp only [List.intercalate_cons_cons, List.append_assoc] at h
    exact (List.append_inj (List.append_cancel_left h) huv).1

/-- A letter in front adds no piece. -/
lemma length_consFirst {ps : List Text} (h : ps ≠ []) (c : Letter) : (consFirst c ps).length = ps.length := by
  cases ps with
  | nil => exact absurd rfl h
  | cons p ps => rfl

/-- A shape has a slot if the placeholder stands in it. -/
lemma hasSlot_iff {shape : Text} : hasSlot shape ↔ Text.ofString "\x7baliases\x7d" <:+: shape := by
  rw [hasSlot, decide_eq_true_iff]
  fun_induction pieces shape with
  | case1 => simp [Text.ofString, Text.ofChars]
  | case2 rest ih =>
    have hrest := List.length_pos_iff.2 (pieces_ne_nil rest)
    refine iff_of_true ?_ ⟨[], rest, rfl⟩
    rw [List.length_cons]
    omega
  | case3 c rest hne ih =>
    rw [length_consFirst (pieces_ne_nil rest), ih, List.infix_cons_iff]
    refine ⟨.inr, ?_⟩
    rintro (⟨behind, heq⟩ | hrest)
    · cases heq
      exact absurd rfl (hne behind rfl)
    · exact hrest

end Slots

end TaggedGrammar.Pattern
