import TaggedGrammar.Text.Basic
import TaggedGrammar.Text.CaseTable

/-!
# Lower case

Full lower-casing of a text. Every character has an image of its own, with two exceptions: the dotted
capital I becomes two characters, and a capital sigma at the end of a word becomes the final form.
-/

namespace TaggedGrammar.Text

/-- A character that is skipped when the case context of a letter is looked up. -/
def isCaseIgnorable (c : Char) : Bool :=
  caseIgnorableRanges.any fun r => r.1 ≤ c.toNat && c.toNat ≤ r.2

/-- A letter with case that ends the search for a case context. -/
def isCased (c : Char) : Bool :=
  casedRanges.any fun r => r.1 ≤ c.toNat && c.toNat ≤ r.2

/-- The lower-case image of a single character, without its context. -/
def lowerChar (c : Char) : Char :=
  let n := c.toNat
  if n < 0x80 then c.toLower
  else
    match lowerRuns.find? fun r => r.1 ≤ n && n ≤ r.2.1 && (n - r.1) % r.2.2.1 == 0 with
    | some r => Char.ofNat ((n : Int) + r.2.2.2).toNat
    | none => c

/-- The first letter that is not skipped has case. -/
def meetsCased (t : Text) : Bool :=
  match t.dropWhile (·.isIn isCaseIgnorable) with
  | [] => false
  | l :: _ => l.isIn isCased

/-- The lower-case image of a character between the texts before it, last letter first, and after it. -/
def lowerBetween (before after : Text) (c : Char) : List Char :=
  if c = 'Σ' then
    if meetsCased before && !meetsCased after then ['ς'] else ['σ']
  else if c = 'İ' then ['i', '\u0307']
  else [lowerChar c]

/-- The lower-case image of a text whose letters so far, last first, are `before`. -/
def lowerFrom (before : Text) : Text → Text
  | [] => []
  | .char c :: rest => ofChars (lowerBetween before rest c) ++ lowerFrom (.char c :: before) rest
  | .half n :: rest => .half n :: lowerFrom (.half n :: before) rest

/-- The text in lower case. -/
def lower (s : Text) : Text :=
  lowerFrom [] s

end TaggedGrammar.Text
