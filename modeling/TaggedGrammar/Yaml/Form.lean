import TaggedGrammar.Yaml.Node
import TaggedGrammar.Yaml.Timestamp

/-!
# The forms of plain texts

A plain text is taken for null, a truth value, a number, a day or an instant when it has the form of one, and
for itself otherwise. The forms depend on the version of the language.
-/

namespace TaggedGrammar.Yaml

namespace Form

/-- A digit or an underscore. -/
def isDigitOrBar (c : Char) : Bool :=
  isDecimal c || c = '_'

/-- A text without its sign, and whether it has one. -/
def unsigned : List Char → Bool × List Char
  | '-' :: rest | '+' :: rest => (true, rest)
  | rest => (false, rest)

/-- An exponent, all of the text. -/
def isExponent (needsSign : Bool) : List Char → Bool
  | c :: rest =>
    let (signed, digits) := unsigned rest
    (c = 'e' || c = 'E') && (signed || !needsSign) && !digits.isEmpty && digits.all isDecimal
  | [] => false

/-- The parts of a text between colons. -/
def colonParts (cs : List Char) : List (List Char) :=
  cs.splitOn ':'

/-- One or two digits below sixty. -/
def isSixtieth : List Char → Bool
  | [a] => isDecimal a
  | [a, b] => '0' ≤ a && a ≤ '5' && isDecimal b
  | _ => false

/-- Whether a text is a number to the base sixty: a first part of digits, then parts below sixty. -/
def isSexagesimal (first : Char → Bool) (cs : List Char) : Bool :=
  match colonParts cs with
  | (c :: more) :: part :: parts =>
    first c && more.all isDigitOrBar && (part :: parts).all isSixtieth
  | _ => false

/-- The form of a truth value. -/
def isTruth (older : Bool) (s : String) : Bool :=
  ["true", "True", "TRUE", "false", "False", "FALSE"].contains s ||
    (older && ["y", "Y", "yes", "Yes", "YES", "n", "N", "no", "No", "NO", "on", "On", "ON", "off", "Off",
      "OFF"].contains s)

/-- The form of a decimal that begins with a point, behind the sign. -/
def isPointFirst (signed older : Bool) (cs : List Char) : Bool :=
  let word := String.ofList cs
  let digits := cs.takeWhile isDigitOrBar
  let rest := cs.dropWhile isDigitOrBar
  ["inf", "Inf", "INF"].contains word || (!signed && ["nan", "NaN", "NAN"].contains word) ||
    (!(signed && older) && !digits.isEmpty && (rest.isEmpty || isExponent true rest))

/-- The form of a decimal. -/
def isDecimalNumber (older : Bool) (cs : List Char) : Bool :=
  match unsigned cs with
  | (signed, '.' :: rest) => isPointFirst signed older rest
  | (_, c :: more) =>
    let rest := more.dropWhile isDigitOrBar
    isDecimal c && (match rest with
      | '.' :: rest =>
        let rest := rest.dropWhile isDigitOrBar
        rest.isEmpty || isExponent false rest
      | ':' :: _ =>
        older && rest.contains '.' &&
          isSexagesimal isDecimal ((c :: more).takeWhile (· ≠ '.')) &&
          (rest.dropWhile (· ≠ '.')).tail.all isDigitOrBar
      | rest => isExponent false rest)
  | _ => false

/-- A run of digits of a class, with underscores among them. -/
def isRun (p : Char → Bool) (cs : List Char) : Bool :=
  !cs.isEmpty && cs.all fun c => p c || c = '_'

/-- A binary, octal or hexadecimal digit. -/
def isBaseDigit (base : Nat) (c : Char) : Bool :=
  match hexValue? c with
  | some n => n < base
  | none => false

/-- The form of an integer. -/
def isInteger (older : Bool) (cs : List Char) : Bool :=
  let first := cs.headD ' '
  let body := (unsigned cs).2
  (isDecimal first || first = '-' || first = '+') && (match body with
    | '0' :: 'b' :: rest => isRun (isBaseDigit 2) rest
    | '0' :: 'x' :: rest => isRun (isBaseDigit 16) rest
    | '0' :: 'o' :: rest => !older && isRun (isBaseDigit 8) rest
    | _ =>
      if older then
        isRun (isBaseDigit 8) body || body = ['0'] ||
          (match body with
          | c :: more => isDecimal c && c ≠ '0' && more.all isDigitOrBar
          | [] => false) ||
          isSexagesimal (fun c => isDecimal c && c ≠ '0') body
      else isRun isDecimal body)

/-- The characters without the line end behind them, if it is not all there is: the forms allow for one. -/
def withoutLineEnd (cs : List Char) : List Char :=
  if cs.getLast? = some '\n' ∧ cs ≠ ['\n'] then cs.dropLast else cs

end Form

/-- What characters are taken for. -/
def usualTagOfChars (v : Version) (cs : List Char) : Tag :=
  let cs := Form.withoutLineEnd cs
  let s := String.ofList cs
  if Form.isTruth v.isOlder s then .truth
  else if Form.isDecimalNumber v.isOlder cs then .decimal
  else if Form.isInteger v.isOlder cs then .integer
  else if s = "<<" then .merge
  else if ["", "~", "null", "Null", "NULL"].contains s then .null
  else if ((Timestamp.read? cs).map (·.isUsual)).getD false then .instant
  else if s = "=" then .content
  else if ["!", "&", "*"].contains s then .unknown
  else .text

/-- What a plain text is taken for. -/
def usualTag (v : Version) (t : Text) : Tag :=
  match t.chars? with
  | some cs => usualTagOfChars v cs
  | none => .text

namespace Label

/-- What a text with a label stands for. -/
def tagOfScalar (v : Version) (plain : Bool) (t : Text) : Label → Tag
  | given tag => tag
  | usual => usualTag v t
  | absent => if plain then usualTag v t else .text

/-- What a collection with a label stands for, when it is the usual one otherwise. -/
def tagOr (collection : Tag) : Label → Tag
  | given tag => tag
  | usual | absent => collection

end Label

end TaggedGrammar.Yaml
