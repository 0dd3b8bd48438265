import Mathlib
import TaggedGrammar.Text.Basic

/-!
# Writing and reading a text

A text with bytes is read back from them with every line end written as LF, so that a text without carriage
returns is read back as it is, also if another line end was put in the place of every LF.
-/

namespace TaggedGrammar.Text

/-- Texts that come from characters are those without halves of surrogate pairs. -/
lemma chars?_eq_some {t : Text} {cs : List Char} : t.chars? = some cs ↔ t = ofChars cs := by
  unfold chars? ofChars
  induction t generalizing cs with
  | nil => cases cs <;> simp
  | cons l rest ih =>
    cases l with
    | half n => cases cs <;> simp [Letter.char?]
    | char c =>
      simp only [List.mapM_cons, Letter.char?, Option.bind_eq_bind, Option.bind_some, Option.pure_def,
        Option.bind_eq_some_iff, Option.some.injEq, ih]
      constructor
      · rintro ⟨cs', rfl, rfl⟩
        rfl
      · intro h
        cases cs with
        | nil => cases h
        | cons c' cs' =>
          cases h
          exact ⟨cs', rfl, rfl⟩

/-- Characters are read back from their bytes, with line feeds for line ends. -/
lemma ofBytes?_toUTF8 (cs : List Char) : ofBytes? (String.ofList cs).toUTF8 = some (unifyNewlines cs) := by
  have hread : String.fromUTF8? (String.ofList cs).toUTF8 = some (String.ofList cs) :=
    dif_pos (String.ofList cs).isValidUTF8
  rw [ofBytes?, hread, Option.map_some, String.toList_ofList]

/-- The bytes of a text are those of its characters. -/
lemma exists_chars_of_bytes? {t : Text} {content : ByteArray} (h : t.bytes? = some content) :
    ∃ cs, t = ofChars cs ∧ content = (String.ofList cs).toUTF8 := by
  simp only [bytes?, string?, Option.map_map, Option.map_eq_some_iff, Function.comp_apply] at h
  obtain ⟨cs, hcs, rfl⟩ := h
  exact ⟨cs, chars?_eq_some.1 hcs, rfl⟩

/-- LF, CR LF and CR. -/
def lineEnds : List (List Char) :=
  [['\n'], ['\r', '\n'], ['\r']]

/-- The characters with a line end in the place of every LF. -/
def withLineEnd (lineEnd cs : List Char) : List Char :=
  cs.flatMap fun c => if c = '\n' then lineEnd else [c]

/-- A character that is no carriage return is kept. -/
lemma unifyNewlines_cons {c : Char} (h : c ≠ '\r') (rest : List Char) :
    unifyNewlines (c :: rest) = c :: unifyNewlines rest := by
  rw [unifyNewlines.eq_def]
  split <;> simp_all

/-- A carriage return without a line feed behind it becomes one. -/
lemma unifyNewlines_return {rest : List Char} (h : '\n' ∉ rest) :
    unifyNewlines ('\r' :: rest) = '\n' :: unifyNewlines rest := by
  cases rest with
  | nil => rfl
  | cons c rest =>
    have hc : c ≠ '\n' := fun hc => h (hc ▸ List.mem_cons_self)
    rw [unifyNewlines]
    exact fun rest' heq => hc (List.cons.inj heq).1

/-- Line ends are replaced from the front. -/
lemma withLineEnd_cons (lineEnd : List Char) (c : Char) (rest : List Char) :
    withLineEnd lineEnd (c :: rest) = (if c = '\n' then lineEnd else [c]) ++ withLineEnd lineEnd rest :=
  List.flatMap_cons

/-- A line feed in place of a line feed changes nothing. -/
lemma withLineEnd_newline (cs : List Char) : withLineEnd ['\n'] cs = cs := by
  induction cs with
  | nil => rfl
  | cons c rest ih =>
    rw [withLineEnd_cons, ih]
    split
    · next hc => rw [hc, List.singleton_append]
    · rfl

/-- With carriage returns for line ends no line feed is left. -/
lemma newline_notMem_withLineEnd (cs : List Char) : '\n' ∉ withLineEnd ['\r'] cs := by
  intro h
  obtain ⟨c, -, hc⟩ := List.mem_flatMap.1 h
  split at hc
  · cases List.mem_singleton.1 hc
  · rename_i hne
    exact hne (List.mem_singleton.1 hc).symm

/-- Whichever line end was put in, line feeds are read back. -/
lemma unifyNewlines_withLineEnd {lineEnd cs : List Char} (hend : lineEnd ∈ lineEnds) (h : '\r' ∉ cs) :
    unifyNewlines (withLineEnd lineEnd cs) = cs := by
  induction cs with
  | nil => rfl
  | cons c rest ih =>
    obtain ⟨hc, hrest⟩ := not_or.1 (List.mem_cons.not.1 h)
    have tail := ih hrest
    rw [withLineEnd_cons]
    by_cases hline : c = '\n'
    · rw [if_pos hline, hline]
      simp only [lineEnds, List.mem_cons, List.not_mem_nil, or_false] at hend
      rcases hend with rfl | rfl | rfl
      · rw [List.singleton_append, unifyNewlines_cons (by decide), tail]
      · rw [List.cons_append, List.singleton_append, unifyNewlines, tail]
      · rw [List.singleton_append, unifyNewlines_return (newline_notMem_withLineEnd rest), tail]
    · rw [if_neg hline, List.singleton_append, unifyNewlines_cons (Ne.symm hc), tail]

/-- A text without carriage returns is read back from the bytes of its characters with another line end. -/
lemma ofBytes?_withLineEnd {lineEnd cs : List Char} (hend : lineEnd ∈ lineEnds) (hr : .char '\r' ∉ ofChars cs) :
    ofBytes? (String.ofList (withLineEnd lineEnd cs)).toUTF8 = some cs := by
  have hcs : '\r' ∉ cs := fun hmem => hr (List.mem_map.2 ⟨_, hmem, rfl⟩)
  rw [ofBytes?_toUTF8, unifyNewlines_withLineEnd hend hcs]

/-- A text without carriage returns is read back from its bytes. -/
lemma ofBytes?_of_noReturn {t : Text} {content : ByteArray} (h : t.bytes? = some content)
    (hr : .char '\r' ∉ t) : ∃ cs, ofBytes? content = some cs ∧ ofChars cs = t := by
  obtain ⟨cs, rfl, rfl⟩ := exists_chars_of_bytes? h
  have hread := ofBytes?_withLineEnd (show ['\n'] ∈ lineEnds by simp [lineEnds]) hr
  rw [withLineEnd_newline] at hread
  exact ⟨cs, hread, rfl⟩

end TaggedGrammar.Text
