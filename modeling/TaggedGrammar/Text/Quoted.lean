import TaggedGrammar.Text.Basic
import TaggedGrammar.Text.Printable

/-!
# Quoted text

A text is displayed between single quotes, or between double quotes when it holds a single quote and
no double one. The backslash, the quote in use and every character that is not printable are escaped.
-/

namespace TaggedGrammar.Text

/-- The digits of `n` in base sixteen, lower case, at least `width` of them. -/
def hexDigits (width n : Nat) : List Char :=
  let ds := Nat.toDigits 16 n
  List.replicate (width - ds.length) '0' ++ ds

/-- The numeric escape of a code point: two, four or eight digits, the fewest that hold it. -/
def numericEscape (n : Nat) : List Char :=
  if n < 0x100 then '\\' :: 'x' :: hexDigits 2 n
  else if n < 0x10000 then '\\' :: 'u' :: hexDigits 4 n
  else '\\' :: 'U' :: hexDigits 8 n

/-- One character inside quotes. -/
def quotedChar (quote c : Char) : List Char :=
  if c = quote ∨ c = '\\' then ['\\', c]
  else if c = '\n' then ['\\', 'n']
  else if c = '\r' then ['\\', 'r']
  else if c = '\t' then ['\\', 't']
  else if isPrintable c then [c]
  else numericEscape c.toNat

/-- One letter inside quotes. -/
def quotedLetter (quote : Char) : Letter → Text
  | .char c => ofChars (quotedChar quote c)
  | .half n => ofChars (numericEscape (Letter.half n).code)

/-- The quote that a text is displayed with. -/
def quoteFor (s : Text) : Char :=
  if s.contains (.char '\'') && !s.contains (.char '"') then '"' else '\''

/-- The quoted display of a text. -/
def quoted (s : Text) : Text :=
  let q := quoteFor s
  .char q :: (s.flatMap (quotedLetter q) ++ [.char q])

end TaggedGrammar.Text
