import TaggedGrammar.Decimal.Double
import TaggedGrammar.Text.Class

/-!
# Reading numbers

A decimal text is a sign, digits with an optional point, and an optional exponent; single underscores
may stand between digits, and blanks around the whole. The words for infinity and for no number are
read in any case. Digits of every script count.
-/

namespace TaggedGrammar

/-- Further digits after a digit, each with at most one underscore before it, and the rest. -/
def moreDigits : List Char → List Nat × List Char
  | '_' :: c :: rest =>
    match Text.digitValue? c with
    | some d =>
      let (ds, r) := moreDigits rest
      (d :: ds, r)
    | none => ([], '_' :: c :: rest)
  | c :: rest =>
    match Text.digitValue? c with
    | some d =>
      let (ds, r) := moreDigits rest
      (d :: ds, r)
    | none => ([], c :: rest)
  | [] => ([], [])

/-- The digits at the front, with single underscores between them, and the rest. -/
def spanDigits : List Char → List Nat × List Char
  | [] => ([], [])
  | c :: rest =>
    match Text.digitValue? c with
    | none => ([], c :: rest)
    | some d =>
      let (ds, r) := moreDigits rest
      (d :: ds, r)

/-- The number with the given digits in base `base`, most significant first. -/
def ofDigits (base : Nat) (ds : List Nat) : Nat :=
  ds.foldl (fun n d => n * base + d) 0

/-- A sign at the front, and whether it is a minus. -/
def takeSign : List Char → Bool × List Char
  | '-' :: rest => (true, rest)
  | '+' :: rest => (false, rest)
  | rest => (false, rest)

/-- A character that may stand around a number: a blank, the separators among the control characters
apart. -/
def isNumberBlank (c : Char) : Bool :=
  Text.isBlankChar c && !(0x1c ≤ c.toNat && c.toNat ≤ 0x1f)

/-- The characters without the blanks around a number. -/
def trimNumber (cs : List Char) : List Char :=
  ((cs.dropWhile isNumberBlank).reverse.dropWhile isNumberBlank).reverse

namespace Double

/-- The double nearest to `digits * 10 ^ e`. Exponents far outside the range are settled without
computing the power. -/
def ofDecimal (negative : Bool) (digits : Nat) (e : Int) : Double :=
  let count : Int := (Nat.toDigits 10 digits).length
  if digits = 0 ∨ count + e < -400 then zero negative
  else if 400 < count + e then .infinite negative
  else if e < 0 then ofRatio negative digits (Nat.pow 10 e.natAbs)
  else ofRatio negative (digits * Nat.pow 10 e.natAbs) 1

/-- The exponent part of a decimal text, if the whole rest is one. -/
def exponentPart? : List Char → Option Int
  | [] => some 0
  | c :: rest =>
    if c = 'e' ∨ c = 'E' then
      let (negative, rest) := takeSign rest
      match spanDigits rest with
      | ([], _) => none
      | (ds, []) => some (if negative then -(ofDigits 10 ds : Int) else ofDigits 10 ds)
      | _ => none
    else none

/-- Reads an unsigned decimal. -/
def unsigned? (negative : Bool) (cs : List Char) : Option Double :=
  let (whole, rest) := spanDigits cs
  let (fraction, rest) := match rest with
    | '.' :: rest => spanDigits rest
    | rest => ([], rest)
  if whole.isEmpty && fraction.isEmpty then none
  else (exponentPart? rest).map fun e =>
    ofDecimal negative (ofDigits 10 (whole ++ fraction)) (e - (fraction.length : Int))

/-- Reads the characters of a number. -/
def ofChars? (cs : List Char) : Option Double :=
  let (negative, cs) := takeSign (trimNumber cs)
  let word := String.ofList (cs.map Char.toLower)
  if word = "inf" ∨ word = "infinity" then some (.infinite negative)
  else if word = "nan" then some .nan
  else unsigned? negative cs

/-- Reads a number text. -/
def ofText? (s : Text) : Option Double :=
  s.chars?.bind ofChars?

end Double

/-- The value of a digit or letter in bases up to thirty-six. -/
def radixDigit? (c : Char) : Option Nat :=
  if 'a' ≤ c ∧ c ≤ 'z' then some (c.toNat - 'a'.toNat + 10)
  else if 'A' ≤ c ∧ c ≤ 'Z' then some (c.toNat - 'A'.toNat + 10)
  else Text.digitValue? c

/-- The digits of a base at the front, and the rest. -/
def spanRadix (base : Nat) : List Char → List Nat × List Char
  | [] => ([], [])
  | c :: rest =>
    match (radixDigit? c).filter (· < base) with
    | some d =>
      let (ds, r) := spanRadix base rest
      (d :: ds, r)
    | none => ([], c :: rest)

/-- The letter that may stand between a zero and the digits of a base. -/
def radixMark? (base : Nat) : Option Char :=
  if base = 2 then some 'b' else if base = 8 then some 'o' else if base = 16 then some 'x' else none

/-- The characters behind the mark of a base, if it is there. -/
def skipRadixMark (base : Nat) : List Char → List Char
  | '0' :: c :: rest => if radixMark? base = some c.toLower then rest else '0' :: c :: rest
  | cs => cs

/-- The most digits that a whole number is read or displayed with, unless its base is a power of two. -/
def digitLimit : Nat := 4300

/-- What a text is as a whole number. -/
inductive IntReading where
  | number (n : Int)
  /-- The digits exceed the limit; this many there are. -/
  | tooLong (digits : Nat)
  | malformed

/-- Reads a whole number in a base: blanks around it, a sign, the mark of the base, at least one digit. -/
def readInt (base : Nat) (s : List Char) : IntReading :=
  let (negative, cs) := takeSign (s.dropWhile isNumberBlank)
  let (ds, rest) := spanRadix base (skipRadixMark base cs)
  if base = 10 ∧ digitLimit < ds.length then .tooLong ds.length
  else if ds.isEmpty ∨ !rest.all isNumberBlank then .malformed
  else .number (if negative then -(ofDigits base ds : Int) else ofDigits base ds)

end TaggedGrammar
