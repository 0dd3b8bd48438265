/-!
# Doubles

A double is a signed binary fraction of 53 bits, an infinity, or no number at all. It is kept as exact
data, so that rounding, comparison and printing are arithmetic on natural numbers.
-/

namespace TaggedGrammar

/-- A number of the 64-bit binary format. A finite one is `mantissa * 2 ^ exponent`, where the mantissa
is below `2 ^ 53`, the exponent at least -1074, and the mantissa at least `2 ^ 52` unless the exponent is
the least one. -/
inductive Double where
  | nan
  | infinite (negative : Bool)
  | finite (negative : Bool) (mantissa : Nat) (exponent : Int)
  deriving DecidableEq, Repr

namespace Double

/-- Zero with the given sign. -/
def zero (negative : Bool) : Double :=
  .finite negative 0 (-1074)

/-- The quotient rounded to the nearest integer, a half to the even neighbour. -/
def roundHalfEven (num den : Nat) : Nat :=
  let q := num / den
  let twice := 2 * (num % den)
  if twice < den then q
  else if den < twice then q + 1
  else if q % 2 = 0 then q else q + 1

/-- The quotient of `num` by `den * 2 ^ e`, rounded half to even. -/
def roundScaled (num den : Nat) (e : Int) : Nat :=
  if e < 0 then roundHalfEven (num * Nat.pow 2 e.natAbs) den else roundHalfEven num (den * Nat.pow 2 e.natAbs)

/-- Whether `num / den` is below `2 ^ e`. -/
def belowPower (num den : Nat) (e : Int) : Bool :=
  if e < 0 then num * Nat.pow 2 e.natAbs < den else num < den * Nat.pow 2 e.natAbs

/-- The exponent at which the positive quotient has exactly 53 bits, not below the least exponent. -/
def exponentFor (num den : Nat) : Int :=
  let guess : Int := (num.log2 : Int) - (den.log2 : Int)
  let top : Int := if belowPower num den guess then guess - 1 else guess
  max (top - 52) (-1074)

/-- The double nearest to the quotient `num / den`, a half to the even mantissa; a magnitude that no
finite double is near enough to becomes an infinity. -/
def ofRatio (negative : Bool) (num den : Nat) : Double :=
  if num = 0 then zero negative
  else
    let e := exponentFor num den
    let m := roundScaled num den e
    let (m, e) := if m = Nat.pow 2 53 then (Nat.pow 2 52, e + 1) else (m, e)
    if 971 < e then .infinite negative else .finite negative m e

/-- The double nearest to an integer; `none` beyond the finite range. -/
def ofInt? (n : Int) : Option Double :=
  match ofRatio (n < 0) n.natAbs 1 with
  | .infinite _ => none
  | d => some d

/-- Whether the double has exactly the value of the integer. -/
def equalsInt : Double → Int → Bool
  | .finite negative m e, n =>
    let size := if e < 0 then m == n.natAbs * Nat.pow 2 e.natAbs else m * Nat.pow 2 e.natAbs == n.natAbs
    size && (m == 0 || negative == decide (n < 0))
  | _, _ => false

/-- Numeric equality: the two zeros are equal, and no number equals the one that is none. -/
def equals : Double → Double → Bool
  | .finite s m e, .finite s' m' e' => (m == 0 && m' == 0) || (s == s' && m == m' && e == e')
  | .infinite s, .infinite s' => s == s'
  | _, _ => false

/-- A zero of either sign. -/
def isZero : Double → Bool
  | .finite _ m _ => m == 0
  | _ => false

/-- Whether the sign is a minus. -/
def isNegative : Double → Bool
  | .nan => false
  | .infinite s | .finite s _ _ => s

/-- An integer of the given sign. -/
def signed (negative : Bool) (n : Nat) : Int :=
  if negative then -(n : Int) else n

/-- The double nearest to `n * 2 ^ e`; zero has the given sign. -/
def ofScaled (negativeZero : Bool) (n e : Int) : Double :=
  if n = 0 then zero negativeZero
  else if e < 0 then ofRatio (n < 0) n.natAbs (Nat.pow 2 e.natAbs)
  else ofRatio (n < 0) (n.natAbs * Nat.pow 2 e.natAbs) 1

/-- The double nearest to the sum. -/
def add : Double → Double → Double
  | .nan, _ | _, .nan => .nan
  | .infinite s, .infinite s' => if s = s' then .infinite s else .nan
  | .infinite s, .finite _ _ _ | .finite _ _ _, .infinite s => .infinite s
  | .finite s m e, .finite s' m' e' =>
    let least := min e e'
    ofScaled (s && s')
      (signed s (m * Nat.pow 2 (e - least).natAbs) + signed s' (m' * Nat.pow 2 (e' - least).natAbs)) least

/-- The double nearest to the product. -/
def mul : Double → Double → Double
  | .nan, _ | _, .nan => .nan
  | .infinite s, d | d, .infinite s => if d.isZero then .nan else .infinite (s != d.isNegative)
  | .finite s m e, .finite s' m' e' => ofScaled (s != s') (signed (s != s') (m * m')) (e + e')

/-- The double with the other sign. -/
def negate : Double → Double
  | .nan => .nan
  | .infinite s => .infinite !s
  | .finite s m e => .finite (!s) m e

end Double

end TaggedGrammar
