import TaggedGrammar.Proofs.Table.Check

/-!
# Slots are filled where they stand

A shape is cut at its slots in one way only, since no slot begins inside another one. Filling the shape puts the same
text in the place of each slot, whatever that text looks like, and keeps all else.
-/

namespace TaggedGrammar.Pattern

/-- What stands in a shape where the aliases go. -/
def slot : Text :=
  Text.ofString aliasSlot

/-- The texts have no slot in them, and with slots between them they make up the shape. -/
structure Cuts (shape : Text) (ps : List Text) : Prop where
  nonempty : ps ≠ []
  free : ∀ p ∈ ps, ¬slot <:+: p
  joined : slot.intercalate ps = shape

variable {shape p t : Text} {ps : List Text} {c : Letter}

/-- A letter that does not start a slot belongs to the first piece. -/
lemma pieces_cons (h : ¬slot <+: c :: t) : pieces (c :: t) = consFirst c (pieces t) := by
  rw [pieces]
  rintro rest rfl rfl
  exact h ⟨rest, rfl⟩

section Cutting

/-- The empty text has no slot. -/
lemma not_slot_infix_nil : ¬slot <:+: [] := by
  intro h
  exact absurd (List.infix_nil.1 h) (by decide)

/-- A joined text starts with its first part. -/
lemma prefix_intercalate (separator p : Text) (ps : List Text) : p <+: separator.intercalate (p :: ps) := by
  cases ps with
  | nil => rw [List.intercalate_singleton]
  | cons q ps =>
    rw [List.intercalate_cons_cons, List.append_assoc]
    exact List.prefix_append p _

/-- The pieces of a shape cut it. -/
lemma cuts_pieces (shape : Text) : Cuts shape (pieces shape) := by
  fun_induction pieces shape with
  | case1 => exact ⟨by simp, by simpa using not_slot_infix_nil, rfl⟩
  | case2 rest ih =>
    refine ⟨List.cons_ne_nil _ _, List.forall_mem_cons.2 ⟨not_slot_infix_nil, ih.free⟩, ?_⟩
    rw [List.intercalate_cons_of_ne_nil ih.nonempty, ih.joined]
    rfl
  | case3 c rest hne ih =>
    obtain ⟨first, others, hpieces⟩ := List.exists_cons_of_ne_nil ih.nonempty
    obtain ⟨nonempty, free, joined⟩ := ih
    rw [hpieces] at free joined ⊢
    refine ⟨List.cons_ne_nil _ _, ?_, ?_⟩
    · obtain ⟨hfirst, hothers⟩ := List.forall_mem_cons.1 free
      refine List.forall_mem_cons.2 ⟨fun h => ?_, hothers⟩
      -- a slot at the start of the piece is one at the start of the shape
      rcases List.infix_cons_iff.1 h with atStart | behind
      · have leading : first <+: rest := joined ▸ prefix_intercalate slot first others
        obtain ⟨after, heq⟩ := atStart.trans (List.cons_prefix_cons.2 ⟨rfl, leading⟩)
        cases heq
        exact hne after rfl rfl
      · exact hfirst behind
    · rw [consFirst, List.intercalate_cons_cons_left, joined]

/-- No slot begins inside another one, so none begins before a slot and ends in it. -/
lemma not_slot_at_start (free : ¬slot <:+: c :: p) (t : Text) : ¬slot <+: c :: (p ++ (slot ++ t)) := by
  intro hslot
  rcases List.prefix_or_prefix_of_prefix hslot (List.prefix_append (c :: p) (slot ++ t)) with inside | ⟨s, hs⟩
  · exact free inside.isInfix
  · cases s with
    | nil => exact free (by rw [← hs, List.append_nil])
    | cons l s =>
      have overlap : l :: s <+: slot ++ t := (List.prefix_append_right_inj (c :: p)).1 (hs.symm ▸ hslot)
      obtain ⟨rest, hrest⟩ := overlap
      have opens : l = .char '\x7b' := (List.cons.inj hrest).1
      have inside : l ∈ slot.tail := by
        rw [← hs]
        exact List.mem_append_right p List.mem_cons_self
      rw [opens] at inside
      exact absurd inside (by decide)

/-- What is free of slots in front of a slot is a piece. -/
lemma pieces_append (free : ¬slot <:+: p) (t : Text) : pieces (p ++ (slot ++ t)) = p :: pieces t := by
  induction p with
  | nil => rfl
  | cons c p ih =>
    have shorter : ¬slot <:+: p := fun h => free (List.infix_cons h)
    rw [List.cons_append, pieces_cons (not_slot_at_start free t), ih shorter]
    rfl

/-- What is free of slots is one piece. -/
lemma pieces_of_free (free : ¬slot <:+: p) : pieces p = [p] := by
  induction p with
  | nil => rfl
  | cons c p ih =>
    have shorter : ¬slot <:+: p := fun h => free (List.infix_cons h)
    rw [pieces_cons fun h => free h.isInfix, ih shorter]
    rfl

/-- A shape is cut in one way only. -/
lemma Cuts.eq_pieces (h : Cuts shape ps) : ps = pieces shape := by
  obtain ⟨nonempty, free, rfl⟩ := h
  induction ps with
  | nil => exact absurd rfl nonempty
  | cons p rest ih =>
    obtain ⟨hp, hrest⟩ := List.forall_mem_cons.1 free
    cases rest with
    | nil => rw [List.intercalate_singleton, pieces_of_free hp]
    | cons q rest =>
      rw [List.intercalate_cons_cons, List.append_assoc, pieces_append hp, ← ih (List.cons_ne_nil _ _) hrest]

end Cutting

/-- A shape shows what it was filled with if it has a slot; without one it is always the same. -/
lemma injective_fill_iff (shape : Text) : Function.Injective (fill shape) ↔ 1 < (pieces shape).length := by
  constructor
  · intro injective
    by_contra hfew
    obtain ⟨p, rest, hpieces⟩ := List.exists_cons_of_ne_nil (pieces_ne_nil shape)
    have alone : rest = [] := by
      rw [hpieces, List.length_cons] at hfew
      exact List.eq_nil_of_length_eq_zero (by omega)
    have constant (u : Text) : fill shape u = p := by
      rw [fill_eq, hpieces, alone, List.intercalate_singleton]
    have same : [] = slot := injective ((constant []).trans (constant slot).symm)
    exact absurd same (by decide)
  · intro several u v heq
    exact fill_injective (decide_eq_true several) heq

/-- A shape is cut in one way only into texts without a slot, with a slot between any two that stand side by side. It is
filled by putting a text between them, so that nothing else changes and the text is not looked at for slots. A
shape shows what it was filled with if it has a slot, and so if it passes the check. -/
theorem slots_are_filled_where_they_stand (b : Boundary) :
    ∃ ps, Cuts b.opening ps ∧ (∀ qs, Cuts b.opening qs → qs = ps) ∧
      (∀ u, fill b.opening u = u.intercalate ps) ∧
      (Function.Injective (fill b.opening) ↔ 1 < ps.length) ∧
      ∀ path, Table.checkBoundary path b = .ok () → 1 < ps.length ∧ Function.Injective (fill b.opening) := by
  refine ⟨pieces b.opening, cuts_pieces _, fun qs => Cuts.eq_pieces, fill_eq _, injective_fill_iff _, ?_⟩
  intro path checked
  have several : 1 < (pieces b.opening).length :=
    of_decide_eq_true (hasSlot_iff.2 (Table.checkBoundary_eq_ok.1 checked).slot)
  exact ⟨several, (injective_fill_iff _).2 several⟩

/-- A region whose shape has its slot inside a text that looks much like a slot. -/
def nestedSlot : Boundary :=
  { opening := "\x7b\x7baliases\x7ds\x7d", closing := "e", openingCaptures := [] }

/-- What comes to look like a slot by the filling is not filled again. -/
theorem nested_slot_is_filled_once :
    Table.checkBoundary [] nestedSlot = .ok () ∧
      Cuts nestedSlot.opening [Text.ofString "\x7b", Text.ofString "s\x7d"] ∧
      fill nestedSlot.opening (Text.ofString "aliase") = slot ∧ Function.Injective (fill nestedSlot.opening) := by
  have cut : Cuts nestedSlot.opening [Text.ofString "\x7b", Text.ofString "s\x7d"] := ⟨by decide, by decide, by decide⟩
  have checked : Table.checkBoundary [] nestedSlot = .ok () := by decide
  obtain ⟨ps, -, unique, filled, -, injective⟩ := slots_are_filled_where_they_stand nestedSlot
  obtain rfl := unique _ cut
  refine ⟨checked, cut, (filled _).trans ?_, (injective [] checked).2⟩
  decide

end TaggedGrammar.Pattern
