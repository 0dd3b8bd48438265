/-!
# Texts

A text is a list of letters. A letter is a character, or one half of a surrogate pair that stands alone: an
escape in a table file can ask for such a half, so it can be anywhere in a table, in a message or in a
document. It has no place in a file.

The bytes of a file are UTF-8. Reading them as text turns every line end, be it LF, CR LF or a lone CR, into LF.
-/

namespace TaggedGrammar

/-- A letter of a text. -/
inductive Letter where
  | char (c : Char)
  /-- One half of a surrogate pair, standing alone. -/
  | half (n : Fin 0x800)
  deriving DecidableEq, Repr

instance : Coe Char Letter := ⟨.char⟩

instance : Inhabited Letter := ⟨.char ' '⟩

namespace Letter

/-- The code of the first half of a surrogate pair. -/
def firstHalf : Nat := 0xD800

/-- The code point of a letter. -/
def code : Letter → Nat
  | char c => c.toNat
  | half n => firstHalf + n

/-- The letter with a code point. -/
def ofCode (n : Nat) : Letter :=
  if h : n - firstHalf < 0x800 ∧ firstHalf ≤ n then half ⟨n - firstHalf, h.1⟩
  else char (Char.ofNat n)

/-- The character that a letter is. -/
def char? : Letter → Option Char
  | char c => some c
  | half _ => none

/-- Whether a letter is a character of a class. -/
def isIn (p : Char → Bool) : Letter → Bool
  | char c => p c
  | half _ => false

end Letter

/-- A text. -/
abbrev Text := List Letter

namespace Text

/-- Characters as a text. -/
def ofChars (cs : List Char) : Text :=
  cs.map .char

/-- A string as a text. -/
def ofString (s : String) : Text :=
  ofChars s.toList

instance : Coe String Text := ⟨ofString⟩

/-- The characters of a text without halves of surrogate pairs. -/
def chars? (t : Text) : Option (List Char) :=
  t.mapM Letter.char?

/-- A text without halves of surrogate pairs as a string. -/
def string? (t : Text) : Option String :=
  t.chars?.map String.ofList

/-- A text that is shown to a person; a half of a surrogate pair is shown as the replacement character. -/
def shown (t : Text) : String :=
  String.ofList (t.map fun l => l.char?.getD '�')

/-- Texts with a separator between them. -/
def join (separator : Text) (texts : List Text) : Text :=
  separator.intercalate texts

/-- Whether a text comes before another one, or is the same: the first letters that differ decide by their
code points. -/
def le : Text → Text → Bool
  | [], _ => true
  | _ :: _, [] => false
  | a :: as, b :: bs => a.code < b.code || (a.code = b.code && le as bs)

/-- The bytes of a text in UTF-8; a half of a surrogate pair has none. -/
def bytes? (t : Text) : Option ByteArray :=
  t.string?.map String.toUTF8

/-- The characters with every line end written as LF. -/
def unifyNewlines : List Char → List Char
  | [] => []
  | '\r' :: '\n' :: rest => '\n' :: unifyNewlines rest
  | '\r' :: rest => '\n' :: unifyNewlines rest
  | c :: rest => c :: unifyNewlines rest

/-- The characters that the bytes of a file stand for; `none` when they are not UTF-8. -/
def ofBytes? (bytes : ByteArray) : Option (List Char) :=
  (String.fromUTF8? bytes).map fun s => unifyNewlines s.toList

/-- Whether a letter can be in the name of a file: a character can, and a half that stands for a single
byte. -/
def canBeInName : Letter → Bool
  | .char _ => true
  | .half n => 0x480 ≤ n.val && n.val < 0x500

/-- The number of bytes of a text in the name of a file. -/
def fileBytes : Text → Nat
  | [] => 0
  | .char c :: rest => c.utf8Size + fileBytes rest
  | .half _ :: rest => 1 + fileBytes rest

/-- The whole number `n` in decimal digits. -/
def ofNat (n : Nat) : Text :=
  ofChars (Nat.toDigits 10 n)

end Text

end TaggedGrammar
