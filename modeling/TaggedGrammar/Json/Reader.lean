import TaggedGrammar.Decimal.Reading
import TaggedGrammar.Value.Basic

/-!
# Reading JSON

A reader of the JSON format that keeps the order of keys. A number without fraction and exponent is a
whole number of any size. An escaped surrogate pair is joined; one half of it alone is a letter.
-/

namespace TaggedGrammar.Json

/-- White space of the format. -/
def isSpace (c : Char) : Bool :=
  c == ' ' || c == '\n' || c == '\r' || c == '\t'

/-- The input after the white space at its front. -/
def skipSpace (t : Text) : Text :=
  t.dropWhile (·.isIn isSpace)

/-- The input after a fixed word. -/
def expect? (word : String) (t : Text) : Option Text :=
  if (Text.ofString word).isPrefixOf t then some (t.drop word.length) else none

/-- The value of a digit in base sixteen. -/
def hexValue? (c : Char) : Option Nat :=
  if '0' ≤ c ∧ c ≤ '9' then some (c.toNat - 48)
  else if 'a' ≤ c ∧ c ≤ 'f' then some (c.toNat - 87)
  else if 'A' ≤ c ∧ c ≤ 'F' then some (c.toNat - 55)
  else none

/-- Four digits in base sixteen. -/
def hexUnit? : Text → Option (Nat × Text)
  | .char a :: .char b :: .char c :: .char d :: rest =>
    (hexValue? a).bind fun a => (hexValue? b).bind fun b => (hexValue? c).bind fun c =>
      (hexValue? d).map fun d => (((a * 16 + b) * 16 + c) * 16 + d, rest)
  | _ => none

/-- The character of a short escape. -/
def shortEscape? (c : Char) : Option Char :=
  if c = '"' then some '"'
  else if c = '\\' then some '\\'
  else if c = '/' then some '/'
  else if c = 'n' then some '\n'
  else if c = 'r' then some '\r'
  else if c = 't' then some '\t'
  else if c = 'f' then some '\x0c'
  else if c = 'b' then some '\x08'
  else none

/-- The second half of a surrogate pair, escaped, at the front. -/
def secondHalf? : Text → Option (Nat × Text)
  | .char '\\' :: .char 'u' :: rest =>
    (hexUnit? rest).filter fun (n, _) => 0xdc00 ≤ n && n ≤ 0xdfff
  | _ => none

/-- The letter of a numeric escape, after its letter: one unit, or a surrogate pair. -/
def numericEscape? (t : Text) : Option (Letter × Text) :=
  (hexUnit? t).map fun (n, rest) =>
    if 0xd800 ≤ n ∧ n < 0xdc00 then
      match secondHalf? rest with
      | some (m, rest) => (.ofCode (0x10000 + (n - 0xd800) * 0x400 + (m - 0xdc00)), rest)
      | none => (.ofCode n, rest)
    else (.ofCode n, rest)

/-- The letters of a text up to its closing quote, and the rest. -/
def textBody? : (fuel : Nat) → Text → Option (Text × Text)
  | 0, _ => none
  | fuel + 1, t =>
    match t with
    | [] => none
    | .char '"' :: rest => some ([], rest)
    | .char '\\' :: .char 'u' :: rest =>
      match numericEscape? rest with
      | some (x, rest) => (textBody? fuel rest).map fun (s, r) => (x :: s, r)
      | none => none
    | .char '\\' :: .char e :: rest =>
      match shortEscape? e with
      | some x => (textBody? fuel rest).map fun (s, r) => (.char x :: s, r)
      | none => none
    | l :: rest =>
      if l = .char '\\' ∨ l.code < 0x20 then none
      else (textBody? fuel rest).map fun (s, r) => (l :: s, r)

/-- Decimal digits at the front, and the rest. -/
def spanDecimal (t : Text) : List Char × Text :=
  ((t.takeWhile (·.isIn Char.isDigit)).filterMap Letter.char?, t.dropWhile (·.isIn Char.isDigit))

/-- The number of a run of decimal digits. -/
def decimalNumber (ds : List Char) : Nat :=
  ds.foldl (fun n c => n * 10 + (c.toNat - 48)) 0

/-- A fraction at the front: a point and at least one digit. -/
def fraction? : Text → Option (List Char × Text)
  | .char '.' :: rest =>
    match spanDecimal rest with
    | ([], _) => none
    | (ds, rest) => some (ds, rest)
  | rest => some ([], rest)

/-- Whether a minus sign is at the front, and what is behind the sign, if there is one. -/
def signAtFront : Text → Bool × Text
  | .char '-' :: rest => (true, rest)
  | .char '+' :: rest => (false, rest)
  | rest => (false, rest)

/-- An exponent at the front. -/
def exponent? : Text → Option (Option Int × Text)
  | l :: rest =>
    if l = .char 'e' ∨ l = .char 'E' then
      let (negative, rest) := signAtFront rest
      match spanDecimal rest with
      | ([], _) => none
      | (ds, rest) =>
        let n : Int := decimalNumber ds
        some (some (if negative then -n else n), rest)
    else some (none, l :: rest)
  | [] => some (none, [])

/-- A number without its sign. -/
def magnitude? (negative : Bool) (t : Text) : Option (Value × Text) :=
  match spanDecimal t with
  | ([], _) => none
  | (whole, rest) =>
    if whole.head? = some '0' ∧ 1 < whole.length then none
    else
      match fraction? rest with
      | none => none
      | some (ds, rest) =>
        match exponent? rest with
        | none => none
        | some (e?, rest) =>
          if ds.isEmpty && e?.isNone then
            let n : Int := decimalNumber whole
            some (.int (if negative then -n else n), rest)
          else
            let e := e?.getD 0 - (ds.length : Int)
            some (.float (.ofDecimal negative (decimalNumber (whole ++ ds)) e), rest)

mutual

/-- A value at the front, and the rest. -/
def value? : (fuel : Nat) → Text → Option (Value × Text)
  | 0, _ => none
  | fuel + 1, t =>
    match skipSpace t with
    | [] => none
    | .char '"' :: rest => (textBody? (rest.length + 1) rest).map fun (s, r) => (.str s, r)
    | .char '[' :: rest =>
      match skipSpace rest with
      | .char ']' :: rest => some (.list [], rest)
      | rest => (items? fuel rest).map fun (vs, r) => (.list vs, r)
    | .char '\x7b' :: rest =>
      match skipSpace rest with
      | .char '\x7d' :: rest => some (.map [], rest)
      | rest => (entries? fuel rest).map fun (es, r) => (.map es, r)
    | .char 't' :: rest => (expect? "rue" rest).map fun r => (.bool true, r)
    | .char 'f' :: rest => (expect? "alse" rest).map fun r => (.bool false, r)
    | .char 'n' :: rest => (expect? "ull" rest).map fun r => (.null, r)
    | .char '-' :: rest => magnitude? true rest
    | l :: rest => magnitude? false (l :: rest)

/-- One or more items up to the closing bracket. -/
def items? : (fuel : Nat) → Text → Option (List Value × Text)
  | 0, _ => none
  | fuel + 1, t =>
    match value? fuel t with
    | none => none
    | some (v, rest) =>
      match skipSpace rest with
      | .char ',' :: rest => (items? fuel rest).map fun (vs, r) => (v :: vs, r)
      | .char ']' :: rest => some ([v], rest)
      | _ => none

/-- One or more entries up to the closing brace. -/
def entries? : (fuel : Nat) → Text → Option (List (Value × Value) × Text)
  | 0, _ => none
  | fuel + 1, t =>
    match skipSpace t with
    | .char '"' :: rest =>
      match textBody? (rest.length + 1) rest with
      | none => none
      | some (k, rest) =>
        match skipSpace rest with
        | .char ':' :: rest =>
          match value? fuel rest with
          | none => none
          | some (v, rest) =>
            match skipSpace rest with
            | .char ',' :: rest =>
              (entries? fuel rest).map fun (es, r) => ((.str k, v) :: es, r)
            | .char '\x7d' :: rest => some ([(.str k, v)], rest)
            | _ => none
        | _ => none
    | _ => none

end

/-- The value that a whole JSON text stands for. Every step takes a character, so the length of the
text bounds the number of steps. -/
def read? (t : Text) : Option Value :=
  match value? (2 * t.length + 2) t with
  | some (v, rest) => if (skipSpace rest).isEmpty then some v else none
  | none => none

end TaggedGrammar.Json
