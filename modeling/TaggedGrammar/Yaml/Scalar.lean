import TaggedGrammar.Decimal.Reading
import TaggedGrammar.Text.LowerCase
import TaggedGrammar.Yaml.Base64
import TaggedGrammar.Yaml.Form

/-!
# Scalars

What a text with a tag stands for.
-/

namespace TaggedGrammar.Yaml

/-- A text without underscores. -/
def withoutBars (t : Text) : Text :=
  t.filter (· ≠ .char '_')

/-- The parts of a text between letters of one kind. -/
def partsAt (c : Char) (t : Text) : List Text :=
  t.splitOn (.char c)

/-- The characters of a text for the reading of a number; half a surrogate pair is a character that no
number has. -/
def numberChars (t : Text) : List Char :=
  t.map fun l => l.char?.getD '?'

/-- The greatest number of letters of a quoted text in a message on integers. -/
def quoteLimit : Nat := 200

/-- An integer in a base; a decimal one has at most 4300 digits. -/
def integerIn (base : Nat) (t : Text) : Except Defect Int :=
  match readInt base (numberChars t) with
  | .number n => .ok n
  | .tooLong digits =>
    .error (.badScalar ("Exceeds the limit (4300 digits) for integer string conversion: value has " ++
      toString digits ++ " digits; use sys.set_int_max_str_digits() to increase the limit"))
  | .malformed =>
    .error (.badScalar ("invalid literal for int() with base " ++ toString base ++ ": " ++
      (Text.quoted t).take quoteLimit))

/-- The value of an integer text, behind its sign. -/
def unsignedInteger (older : Bool) : Text → Except Defect Int
  | [.char '0'] => .ok 0
  | .char '0' :: .char 'b' :: rest => integerIn 2 rest
  | .char '0' :: .char 'x' :: rest => integerIn 16 rest
  | .char '0' :: .char 'o' :: rest => integerIn 8 rest
  | t =>
    if older then
      match t with
      | [] => .error .emptyNumber
      | .char '0' :: _ => integerIn 8 t
      | _ =>
        if t.contains (.char ':') then do
          let parts ← (partsAt ':' t).mapM (integerIn 10)
          return parts.foldl (fun n d => n * 60 + d) 0
        else integerIn 10 t
    else integerIn 10 t

/-- The value of an integer text. -/
def integerValue (v : Version) (t : Text) : Except Defect Scalar :=
  match withoutBars t with
  | [] => .error .emptyNumber
  | .char '-' :: rest => (unsignedInteger v.isOlder rest).map fun n => ⟨.int (-n), rfl⟩
  | .char '+' :: rest => (unsignedInteger v.isOlder rest).map fun n => ⟨.int n, rfl⟩
  | rest => (unsignedInteger v.isOlder rest).map fun n => ⟨.int n, rfl⟩

/-- A decimal that is written as a number to the base ten. -/
def decimalIn (t : Text) : Except Defect Double :=
  match Double.ofText? t with
  | some d => .ok d
  | none => .error (.badScalar ("could not convert string to float: " ++ Text.quoted t))

/-- The sum of parts to the base sixty, the last part first; `base` is the weight of the first of them. -/
def sexagesimalSum (sum : Double) (base : Nat) : List Double → Except Defect Double
  | [] => .ok sum
  | d :: rest =>
    match Double.ofInt? base with
    | none => .error .beyondDouble
    | some b => sexagesimalSum (sum.add (d.mul b)) (base * 60) rest

/-- The value of a decimal text, behind its sign. By the older rules it may be to the base sixty, and has at
most one exponent. -/
def unsignedDecimal (older : Bool) (t : Text) : Except Defect Double :=
  if t = ".inf" then .ok (.infinite false)
  else if t = ".nan" then .ok .nan
  else if older ∧ t.contains (.char ':') then do
    let parts ← (partsAt ':' t).mapM decimalIn
    sexagesimalSum (.zero false) 1 parts.reverse
  else if older ∧ 2 < (partsAt 'e' t).length then
    .error (.badScalar "too many values to unpack (expected 2)")
  else decimalIn t

/-- The value of a decimal text. -/
def decimalValue (v : Version) (t : Text) : Except Defect Scalar :=
  match Text.lower (withoutBars t) with
  | [] => .error .emptyNumber
  | .char '-' :: rest => (unsignedDecimal v.isOlder rest).map fun d => ⟨.float d.negate, rfl⟩
  | .char '+' :: rest => (unsignedDecimal v.isOlder rest).map fun d => ⟨.float d, rfl⟩
  | rest => (unsignedDecimal v.isOlder rest).map fun d => ⟨.float d, rfl⟩

/-- Whether a decimal text is the word of the language for what is no number. -/
def isNoNumberWord (t : Text) : Bool :=
  match Text.lower (withoutBars t) with
  | .char '-' :: rest | .char '+' :: rest => rest = ".nan"
  | rest => rest = ".nan"

/-- The words for the truth values. -/
def truthWords : List (Text × Bool) :=
  [("yes", true), ("no", false), ("y", true), ("n", false), ("true", true), ("false", false),
   ("on", true), ("off", false)]

/-- The value of a text for a day or an instant. One line end may be behind it. -/
def instantValue (t : Text) : Reading Scalar :=
  match t.chars?.bind fun cs => Timestamp.read? (Form.withoutLineEnd cs) with
  | some stamp => stamp.value.mapError .unusable
  | none => malformed

/-- The value of a text that has a tag. Tags of collections, and those without meaning as a value, do not
fit a text. -/
def scalarValue (v : Version) (tag : Tag) (t : Text) : Reading Scalar :=
  match tag with
  | .null => .ok .null
  | .truth =>
    match truthWords.lookup (Text.lower t) with
    | some b => .ok ⟨.bool b, rfl⟩
    | none => .error (.unusable .unknownWord)
  | .integer => (integerValue v t).mapError .unusable
  | .decimal => (decimalValue v t).mapError .unusable
  | .text => .ok ⟨.str t, rfl⟩
  | .instant => instantValue t
  | .binary =>
    match t.chars?.bind Base64.read? with
    | some octets => .ok ⟨.bytes octets, rfl⟩
    | none => malformed
  | .sequence | .pairs | .mapping | .orderedMapping | .set | .merge | .content | .unknown => malformed

end TaggedGrammar.Yaml
