import TaggedGrammar.Proofs.Pattern

/-!
# What a union of aliases matches

A pattern is read from left to right, and a backslash quotes the letter behind it. In a union of aliases no letter but
the bars between the aliases is left with a meaning of its own. So the union reads as an alternation of literal texts.
-/

namespace TaggedGrammar.Pattern

/-- The white space of all scripts, by its code points. -/
def whiteSpace : List Nat :=
  [0x09, 0x0a, 0x0b, 0x0c, 0x0d, 0x1c, 0x1d, 0x1e, 0x1f, 0x20, 0x85, 0xa0, 0x1680, 0x2000, 0x2001, 0x2002, 0x2003,
    0x2004, 0x2005, 0x2006, 0x2007, 0x2008, 0x2009, 0x200a, 0x2028, 0x2029, 0x202f, 0x205f, 0x3000]

/-- A letter with a meaning of its own. White space has one, for some patterns are read without it. -/
def isOperator : Letter → Bool
  | .char c => "-[]\x7b\x7d()*+?.,\\^$|#".toList.contains c || whiteSpace.contains c.toNat
  | .half _ => false

/-- The special letters are the operators. -/
lemma isIn_isSpecial (l : Letter) : l.isIn isSpecial = isOperator l := by
  cases l with
  | half => rfl
  | char c =>
    have white : Text.isBlankChar c = whiteSpace.contains c.toNat := by
      rw [Bool.eq_iff_iff]
      simp only [Text.isBlankChar, Text.blankRanges, whiteSpace, List.any_cons, List.any_nil, List.contains_cons,
        List.contains_nil, Bool.or_eq_true, Bool.and_eq_true, decide_eq_true_eq, beq_iff_eq, Bool.false_eq_true,
        or_false]
      omega
    show (metaChars.contains c || Text.isBlankChar c) = _
    rw [white]
    rfl

/-- A letter of a pattern, by itself or behind a backslash. -/
inductive Sign where
  | plain (l : Letter)
  | quoted (l : Letter)
  deriving DecidableEq

namespace Sign

def letter : Sign → Letter
  | plain l | quoted l => l

def spelling : Sign → Text
  | plain l => [l]
  | quoted l => [.char '\\', l]

/-- The sign that stands between alternatives. -/
def bar : Sign :=
  .plain (.char '|')

/-- The letter that a sign matches. An ordinary letter has another meaning if it is quoted, an operator if it is not. -/
def literal? : Sign → Option Letter
  | plain l => if isOperator l then none else some l
  | quoted l => if isOperator l then some l else none

/-- How a letter of an alias is written. -/
def of (l : Letter) : Sign :=
  if isOperator l then .quoted l else .plain l

end Sign

/-- A pattern, read from left to right. A backslash at its end quotes nothing. -/
def signs : Text → List Sign
  | [] => []
  | .char '\\' :: l :: rest => .quoted l :: signs rest
  | l :: rest => .plain l :: signs rest

section Reading

/-- The signs of a text spell it. -/
lemma flatMap_spelling (t : Text) : (signs t).flatMap Sign.spelling = t := by
  fun_induction signs t with
  | case1 => rfl
  | case2 l rest ih =>
    rw [List.flatMap_cons, ih]
    rfl
  | case3 l rest _ ih =>
    rw [List.flatMap_cons, ih]
    rfl

/-- The sign of a letter stands for it. -/
lemma letter_of (l : Letter) : (Sign.of l).letter = l := by
  unfold Sign.of
  split <;> rfl

/-- The signs of letters stand for them. -/
lemma map_letter_of (s : Text) : (s.map Sign.of).map Sign.letter = s := by
  induction s with
  | nil => rfl
  | cons l s ih => rw [List.map_cons, List.map_cons, letter_of, ih]

/-- The sign of a letter is literal. -/
lemma literal?_of (l : Letter) : (Sign.of l).literal? = some l := by
  by_cases hl : isOperator l = true <;> simp [Sign.of, Sign.literal?, hl]

/-- The bar is an operator, so no letter of an alias is written as a plain one. -/
lemma of_ne_bar (l : Letter) : Sign.of l ≠ .bar := by
  intro heq
  have hl : l = .char '|' := by
    rw [← letter_of l, heq]
    rfl
  subst hl
  exact absurd heq (by decide)

/-- An escaped letter is one sign. -/
lemma signs_escapeLetter (l : Letter) (t : Text) : signs (escapeLetter l ++ t) = Sign.of l :: signs t := by
  unfold escapeLetter Sign.of
  rw [isIn_isSpecial]
  split
  · rfl
  next hplain =>
    -- an ordinary letter is no backslash, so it does not quote what follows
    have hslash : l ≠ .char '\\' := by
      rintro rfl
      exact hplain (by decide)
    rw [List.singleton_append, signs]
    exact fun _ _ h _ => hslash h

/-- An escaped text has a sign for each letter. -/
lemma signs_escape (s t : Text) : signs (escape s ++ t) = s.map Sign.of ++ signs t := by
  induction s with
  | nil => rfl
  | cons l s ih =>
    show signs (escapeLetter l ++ escape s ++ t) = _
    rw [List.append_assoc, signs_escapeLetter, ih]
    rfl

/-- A union is read alias by alias, with bars between them. -/
lemma signs_union (aliases : List Text) :
    signs (union aliases) = [Sign.bar].intercalate (aliases.map (·.map Sign.of)) := by
  induction aliases with
  | nil => rfl
  | cons a aliases ih =>
    cases aliases with
    | nil =>
      have alone := signs_escape a []
      simpa [union, Text.join, signs] using alone
    | cons b aliases =>
      have joined : union (a :: b :: aliases) = escape a ++ .char '|' :: union (b :: aliases) := by
        simp [union, Text.join, List.intercalate_cons_cons]
      have behind : signs (.char '|' :: union (b :: aliases)) = .bar :: signs (union (b :: aliases)) := by
        rw [signs]
        · rfl
        · exact fun _ _ h _ => absurd h (by decide)
      rw [joined, signs_escape, behind, ih]
      simp only [List.map_cons, List.intercalate_cons_cons, List.append_assoc, List.singleton_append]

/-- A sign of a union separates two aliases, or it is a letter of one. -/
lemma eq_bar_or_of_mem_signs {aliases : List Text} {s : Sign} (h : s ∈ signs (union aliases)) :
    s = .bar ∨ ∃ l, s = .of l := by
  induction aliases with
  | nil => cases h
  | cons a aliases ih =>
    rw [signs_union] at h ih
    cases aliases with
    | nil =>
      rw [List.map_singleton, List.intercalate_singleton] at h
      obtain ⟨l, -, rfl⟩ := List.mem_map.1 h
      exact .inr ⟨l, rfl⟩
    | cons b aliases =>
      rw [List.map_cons, List.map_cons, List.intercalate_cons_cons, List.mem_append, List.mem_append] at h
      rcases h with (hfirst | hbar) | hrest
      · obtain ⟨l, -, rfl⟩ := List.mem_map.1 hfirst
        exact .inr ⟨l, rfl⟩
      · exact .inl (List.mem_singleton.1 hbar)
      · exact ih hrest

/-- The signs of a union are cut at the bars into the aliases. -/
lemma splitOn_signs_union {aliases : List Text} (hne : aliases ≠ []) :
    (signs (union aliases)).splitOn .bar = aliases.map (·.map Sign.of) := by
  rw [signs_union]
  apply List.splitOn_intercalate
  · intro piece hpiece hbar
    obtain ⟨a, -, rfl⟩ := List.mem_map.1 hpiece
    obtain ⟨l, -, heq⟩ := List.mem_map.1 hbar
    exact of_ne_bar l heq
  · exact mt List.map_eq_nil_iff.1 hne

end Reading

/-- A regular expression made of letters. -/
inductive Expression where
  | never
  | empty
  | letter (l : Letter)
  | seq (first second : Expression)
  | either (first second : Expression)

namespace Expression

/-- What is left of a text behind a match at its start: one rest for each way to match, in the order in which a
backtracking matcher finds them. -/
def rests : Expression → Text → List Text
  | never, _ => []
  | empty, t => [t]
  | letter _, [] => []
  | letter l, c :: t => if c = l then [t] else []
  | seq first second, t => (first.rests t).flatMap second.rests
  | either first second, t => first.rests t ++ second.rests t

/-- Letters one after the other. -/
def sequence (ls : List Letter) : Expression :=
  ls.foldr (fun l rest => .seq (.letter l) rest) .empty

/-- Expressions that are tried in order. -/
def alternation (es : List Expression) : Expression :=
  es.foldr .either .never

/-- A text is matched at the start of another one or not at all. -/
lemma rests_sequence (s t : Text) : (sequence s).rests t = (t.dropPrefix? s).toList := by
  induction s generalizing t with
  | nil => simp [sequence, rests]
  | cons l s ih =>
    show (seq (.letter l) (sequence s)).rests t = _
    cases t with
    | nil => rfl
    | cons c t =>
      by_cases hc : c = l
      · simp [rests, List.dropPrefix?, hc, ih]
      · simp [rests, List.dropPrefix?, hc]

/-- An alternation matches what one of its parts matches. -/
lemma rests_alternation (es : List Expression) (t : Text) : (alternation es).rests t = es.flatMap (·.rests t) := by
  induction es with
  | nil => rfl
  | cons e es ih =>
    show e.rests t ++ (alternation es).rests t = _
    rw [ih, List.flatMap_cons]

/-- An alternation of texts matches what starts with one of them. -/
lemma rests_alternation_sequence (aliases : List Text) (t : Text) :
    (alternation (aliases.map sequence)).rests t = aliases.filterMap t.dropPrefix? := by
  rw [rests_alternation, List.flatMap_map, List.filterMap_eq_flatMap_toList]
  apply List.flatMap_congr
  intro a _
  exact rests_sequence a t

/-- It matches a whole text if that is one of them. -/
lemma nil_mem_filterMap_dropPrefix? {aliases : List Text} {t : Text} :
    [] ∈ aliases.filterMap t.dropPrefix? ↔ t ∈ aliases := by
  simp only [List.mem_filterMap, List.dropPrefix?_eq_some_iff, List.append_nil, beq_iff_eq]
  constructor
  · rintro ⟨a, ha, _, rfl, rfl⟩
    exact ha
  · intro ht
    exact ⟨t, ht, t, rfl, rfl⟩

end Expression

/-- The expression that a pattern is read as: it is cut at the bars, and each piece is a sequence of letters. A pattern
with any other operator has none here. -/
def expression? (pattern : Text) : Option Expression :=
  (((signs pattern).splitOn Sign.bar).mapM (List.mapM Sign.literal?)).map fun pieces =>
    .alternation (pieces.map .sequence)

/-- The signs of letters are all literal. -/
lemma mapM_literal?_of (s : Text) : (s.map Sign.of).mapM Sign.literal? = some s := by
  induction s with
  | nil => rfl
  | cons l s ih =>
    rw [List.map_cons, List.mapM_cons, literal?_of, ih]
    rfl

/-- A union is read as the alternation of its aliases. -/
lemma expression?_union {aliases : List Text} (hne : aliases ≠ []) :
    expression? (union aliases) = some (.alternation (aliases.map .sequence)) := by
  have pieces (ts : List Text) :
      (ts.map (·.map Sign.of)).mapM (List.mapM Sign.literal?) = some ts := by
    induction ts with
    | nil => rfl
    | cons s ts ih =>
      rw [List.map_cons, List.mapM_cons, mapM_literal?_of, ih]
      rfl
  rw [expression?, splitOn_signs_union hne, pieces, Option.map_some]

/-- In a union of aliases the only operators that are not quoted are the bars between the aliases, and only operators
are quoted. Cut at these bars and without the backslashes it is the list of the aliases. As an
expression it matches each alias that a text starts with, in the order of the list; a whole text is matched if it is
an alias. No other list has the same union. -/
theorem union_means_its_aliases (aliases : List Text) (hne : aliases ≠ []) :
    (signs (union aliases)).flatMap Sign.spelling = union aliases ∧
      (∀ l, .plain l ∈ signs (union aliases) → isOperator l → l = .char '|') ∧
      (∀ l, .quoted l ∈ signs (union aliases) → isOperator l) ∧
      ((signs (union aliases)).splitOn .bar).map (·.map Sign.letter) = aliases ∧
      (∃ e, expression? (union aliases) = some e ∧
        ∀ t, e.rests t = aliases.filterMap t.dropPrefix? ∧ ([] ∈ e.rests t ↔ t ∈ aliases)) ∧
      ∀ others, others ≠ [] → union others = union aliases → others = aliases := by
  refine ⟨flatMap_spelling _, ?_, ?_, ?_, ?_, ?_⟩
  · intro l hl operator
    rcases eq_bar_or_of_mem_signs hl with hbar | ⟨l', hof⟩
    · cases hbar
      rfl
    · unfold Sign.of at hof
      split at hof
      · cases hof
      next hplain =>
        cases hof
        exact absurd operator hplain
  · intro l hl
    rcases eq_bar_or_of_mem_signs hl with hbar | ⟨l', hof⟩
    · cases hbar
    · unfold Sign.of at hof
      split at hof
      next operator =>
        cases hof
        exact operator
      · cases hof
  · rw [splitOn_signs_union hne, List.map_map]
    exact (List.map_congr_left fun s _ => map_letter_of s).trans (List.map_id aliases)
  · refine ⟨_, expression?_union hne, fun t => ?_⟩
    rw [Expression.rests_alternation_sequence]
    exact ⟨rfl, Expression.nil_mem_filterMap_dropPrefix?⟩
  · intro others hothers heq
    exact union_injective hothers hne heq

/-- Bars and backslashes in aliases, at their ends too, are no operators; an empty alias is an alternative. -/
theorem union_with_bars_means_its_aliases :
    union [Text.ofString "|\\", [], Text.ofString "a b|"] = Text.ofString "\\|\\\\||a\\ b\\|" ∧
      ((signs (Text.ofString "\\|\\\\||a\\ b\\|")).splitOn .bar).map (·.map Sign.letter) =
        [Text.ofString "|\\", [], Text.ofString "a b|"] ∧
      ∃ e, expression? (Text.ofString "\\|\\\\||a\\ b\\|") = some e ∧
        e.rests (Text.ofString "a b|c") = [Text.ofString "a b|c", Text.ofString "c"] := by
  have spelled : union [Text.ofString "|\\", [], Text.ofString "a b|"] = Text.ofString "\\|\\\\||a\\ b\\|" := by decide
  obtain ⟨-, -, -, cut, ⟨e, he, matched⟩, -⟩ :=
    union_means_its_aliases [Text.ofString "|\\", [], Text.ofString "a b|"] (List.cons_ne_nil _ _)
  rw [spelled] at cut he
  refine ⟨spelled, cut, e, he, (matched _).1.trans ?_⟩
  decide

end TaggedGrammar.Pattern
