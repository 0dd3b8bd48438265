import TaggedGrammar.Decimal.Double

/-!
# Shortest decimals

The text of a double has the fewest digits that read back as the same double; of two such decimals the
nearer one is taken, and of two equally near the one with an even last digit. Positional notation is
used from `1e-4` to below `1e16`, and scientific notation elsewhere.
-/

namespace TaggedGrammar.Double

/-- A decimal `digits * 10 ^ exponent`. -/
structure Decimal where
  digits : Nat
  exponent : Int
  deriving DecidableEq, Repr

/-- A fraction `num / den` times a power of ten, brought to one fraction. -/
def scaleTen (num den : Nat) (e : Int) : Nat × Nat :=
  if e < 0 then (num, den * Nat.pow 10 e.natAbs) else (num * Nat.pow 10 e.natAbs, den)

/-- The reals that round to a positive double: the quarter units `low` and `high` around its value in
units of a fourth of its last place, and whether the ends belong to them. -/
structure Interval where
  low : Nat
  value : Nat
  high : Nat
  closed : Bool

/-- The interval of `m * 2 ^ e`, in units of `2 ^ (e - 2)`. Below a power of two the gap is half as wide. -/
def interval (m : Nat) (e : Int) : Interval :=
  { low := if m = Nat.pow 2 52 ∧ -1074 < e then 4 * m - 1 else 4 * m - 2
    value := 4 * m
    high := 4 * m + 2
    closed := m % 2 == 0 }

/-- The number of units, as a fraction of a power of ten: `units * 2 ^ (e - 2) / 10 ^ k`. -/
def onGrid (units : Nat) (e k : Int) : Nat × Nat :=
  let e := e - 2
  let (n, d) := if e < 0 then (units, Nat.pow 2 e.natAbs) else (units * Nat.pow 2 e.natAbs, 1)
  scaleTen n d (-k)

/-- Whether the grid point `d * 10 ^ k` reads back as `m * 2 ^ e`. -/
def readsBack (m : Nat) (e k : Int) (d : Nat) : Bool :=
  let i := interval m e
  let (ln, ld) := onGrid i.low e k
  let (hn, hd) := onGrid i.high e k
  if i.closed then ln ≤ d * ld && d * hd ≤ hn else ln < d * ld && d * hd < hn

/-- The best of the two neighbours of `m * 2 ^ e` on the grid of `10 ^ k` that read back. -/
def nearest? (m : Nat) (e k : Int) : Option Nat :=
  let (n, d) := onGrid (4 * m) e k
  let lo := n / d
  let twice := 2 * (n % d)
  match readsBack m e k lo && lo != 0, readsBack m e k (lo + 1) with
  | true, true =>
    if twice < d then some lo
    else if d < twice then some (lo + 1)
    else if lo % 2 = 0 then some lo else some (lo + 1)
  | true, false => some lo
  | false, true => some (lo + 1)
  | false, false => none

/-- The number of decimal digits of `n`. -/
def digitCount (n : Nat) : Nat :=
  (Nat.toDigits 10 n).length

/-- The place of the leading digit of `m * 2 ^ e`: the power of ten not above it. -/
def leadingPlace (m : Nat) (e : Int) : Int :=
  let (n, d) := onGrid (4 * m) e 0
  if d ≤ n then (digitCount (n / d) : Int) - 1
  else
    let guess : Int := (digitCount n : Int) - (digitCount d : Int)
    let (n', d') := scaleTen n d (-guess)
    if d' ≤ n' then guess else guess - 1

/-- Tries grids with one digit more each time. -/
def searchGrids (m : Nat) (e place : Int) : (count : Nat) → (tries : Nat) → Decimal
  | _, 0 => ⟨m, 0⟩
  | count, tries + 1 =>
    let k := place - (count : Int) + 1
    match nearest? m e k with
    | some d => ⟨d, k⟩
    | none => searchGrids m e place (count + 1) tries

/-- The shortest decimal of the positive double `m * 2 ^ e`. Seventeen digits always suffice. -/
def shortest (m : Nat) (e : Int) : Decimal :=
  searchGrids m e (leadingPlace m e) 1 17

/-- The decimal without the zeros at the end of its digits. -/
def dropZeros (ds : List Char) : List Char :=
  (ds.reverse.dropWhile (· == '0')).reverse

/-- The exponent of scientific notation: a sign and at least two digits. -/
def exponentText (e : Int) : List Char :=
  let ds := Nat.toDigits 10 e.natAbs
  (if e < 0 then '-' else '+') :: (if ds.length < 2 then '0' :: ds else ds)

/-- The digits `ds`, the first of which stands at the place `10 ^ p`, in the notation that fits. -/
def layout (ds : List Char) (p : Int) : List Char :=
  if -4 ≤ p ∧ p < 16 then
    if p < 0 then '0' :: '.' :: (List.replicate (p.natAbs - 1) '0' ++ ds)
    else
      let whole := p.toNat + 1
      if ds.length ≤ whole then ds ++ List.replicate (whole - ds.length) '0' ++ ['.', '0']
      else ds.take whole ++ '.' :: ds.drop whole
  else
    let fraction := match ds.drop 1 with
      | [] => []
      | rest => '.' :: rest
    ds.take 1 ++ fraction ++ 'e' :: exponentText p

/-- The text of a finite magnitude. -/
def magnitudeText (m : Nat) (e : Int) : List Char :=
  if m = 0 then ['0', '.', '0']
  else
    let d := shortest m e
    let ds := Nat.toDigits 10 d.digits
    layout (dropZeros ds) ((ds.length : Int) - 1 + d.exponent)

/-- The text of a double. -/
def text : Double → String
  | .nan => "nan"
  | .infinite false => "inf"
  | .infinite true => "-inf"
  | .finite s m e => String.ofList ((if s then ['-'] else []) ++ magnitudeText m e)

end TaggedGrammar.Double
