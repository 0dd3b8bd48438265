import TaggedGrammar.Decimal.Reading
import TaggedGrammar.Decimal.Shortest
import TaggedGrammar.Text.Quoted
import TaggedGrammar.Value.Basic

/-!
# The display of values

Messages show values in a literal notation: texts are quoted, collections bracketed. As a path step or
in a list of keys a text stands without quotes. A whole number of more than 4300 digits has no display.
-/

namespace TaggedGrammar

/-- The digits of a whole number, within the limit. -/
def integerText? (n : Int) : Option String :=
  if n.natAbs < Nat.pow 10 digitLimit then some (toString n) else none

/-- One octet inside a quoted display. -/
def quotedOctet (quote : Char) (b : UInt8) : List Char :=
  let c := Char.ofNat b.toNat
  if b.toNat < 0x7f then
    if 0x20 ≤ b.toNat ∨ c = '\n' ∨ c = '\r' ∨ c = '\t' then Text.quotedChar quote c
    else Text.numericEscape b.toNat
  else Text.numericEscape b.toNat

/-- The quoted display of octets. -/
def quotedOctets (bs : List UInt8) : String :=
  let q := if bs.contains 0x27 && !bs.contains 0x22 then '"' else '\''
  String.ofList ('b' :: q :: (bs.flatMap (quotedOctet q) ++ [q]))

/-- Drops the parts of a time that stand for zero at its end: the fraction first, then the second. -/
def Instant.shownParts (t : Instant) : List Nat :=
  let start := [t.date.year, t.date.month, t.date.day, t.hour, t.minute]
  if t.micro ≠ 0 then start ++ [t.second, t.micro]
  else if t.second ≠ 0 then start ++ [t.second]
  else start

/-- The notation of a zone. -/
def Zone.literal (z : Zone) : Text :=
  "datetime.timezone(" ++ spanNotation (z.minutes * 60) ++ ", " ++ Text.quoted z.name ++ ")"

/-- Texts with a comma and a space between them. -/
def commaList (parts : List Text) : Text :=
  Text.join ", " parts

/-- The display of a fixed sequence; a single item keeps a comma of its own. -/
def tupleText : List Text → Text
  | [s] => "(" ++ s ++ ",)"
  | parts => "(" ++ commaList parts ++ ")"

namespace Value

mutual

/-- The literal notation of a value. -/
def literal? : Value → Option Text
  | null => some "None"
  | bool true => some "True"
  | bool false => some "False"
  | int n => (integerText? n).map Text.ofString
  | float d => some d.text
  | str s => some (Text.quoted s)
  | list items => (literals? items).map fun parts => "[" ++ commaList parts ++ "]"
  | tuple items => (literals? items).map tupleText
  | map entries => (entryLiterals? entries).map fun parts => "\x7b" ++ commaList parts ++ "\x7d"
  | ordered [] => some "ordereddict()"
  | ordered (e :: rest) =>
    (pairLiterals? (e :: rest)).map fun parts => "ordereddict([" ++ commaList parts ++ "])"
  | record name fields =>
    (fieldLiterals? fields).map fun parts => name ++ "(" ++ commaList parts ++ ")"
  | day d => some ("datetime.date(" ++ commaList ([d.year, d.month, d.day].map Text.ofNat) ++ ")")
  | instant t =>
    let zone : List Text := t.zone.toList.map fun z => "tzinfo=" ++ z.literal
    some ("datetime.datetime(" ++ commaList (t.shownParts.map Text.ofNat ++ zone) ++ ")")
  | bytes octets => some (quotedOctets octets)
  | set [] => some "set()"
  | set (v :: rest) =>
    (literal? v).bind fun s => (literals? rest).map fun parts =>
      "\x7b" ++ commaList (s :: parts) ++ "\x7d"

/-- The literal notations of several values. -/
def literals? : List Value → Option (List Text)
  | [] => some []
  | v :: rest => (literal? v).bind fun s => (literals? rest).map (s :: ·)

/-- The entries of a mapping in literal notation. -/
def entryLiterals? : List (Value × Value) → Option (List Text)
  | [] => some []
  | (k, v) :: rest =>
    (literal? k).bind fun ks => (literal? v).bind fun vs =>
      (entryLiterals? rest).map ((ks ++ ": " ++ vs) :: ·)

/-- The entries of a mapping as pairs in literal notation. -/
def pairLiterals? : List (Value × Value) → Option (List Text)
  | [] => some []
  | (k, v) :: rest =>
    (literal? k).bind fun ks => (literal? v).bind fun vs =>
      (pairLiterals? rest).map (tupleText [ks, vs] :: ·)

/-- The fields of a record in literal notation. -/
def fieldLiterals? : List (String × Value) → Option (List Text)
  | [] => some []
  | (name, v) :: rest =>
    (literal? v).bind fun s => (fieldLiterals? rest).map ((name ++ "=" ++ s) :: ·)

end

/-- The text of a value as a path step: texts and dates plainly, all else in literal notation. -/
def text? : Value → Option Text
  | str s => some s
  | day d => some d.text
  | instant t => some t.text
  | v => v.literal?

end Value

end TaggedGrammar
