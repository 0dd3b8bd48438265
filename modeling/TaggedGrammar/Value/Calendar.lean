import TaggedGrammar.Text.Quoted

/-!
# Days and instants

A table file may hold dates. The tables use none, so all that matters of one is its text.
-/

namespace TaggedGrammar

/-- A day of the calendar. -/
structure Day where
  year : Nat
  month : Nat
  day : Nat
  deriving DecidableEq, Repr

/-- A time zone: its offset from universal time, and its name as it was written. -/
structure Zone where
  minutes : Int
  name : String
  deriving DecidableEq, Repr

/-- A day with a time of day, in a zone or in none. -/
structure Instant where
  date : Day
  hour : Nat
  minute : Nat
  second : Nat
  micro : Nat
  zone : Option Zone
  deriving DecidableEq, Repr

/-- A number with at least `width` digits. -/
def paddedNumber (width n : Nat) : String :=
  let ds := Nat.toDigits 10 n
  String.ofList (List.replicate (width - ds.length) '0' ++ ds)

/-- Whether the year has a twenty-ninth of February. -/
def isLeapYear (y : Nat) : Bool :=
  y % 4 == 0 && (y % 100 != 0 || y % 400 == 0)

/-- The number of days of a month, the months counted from one. -/
def daysInMonth (y m : Nat) : Nat :=
  if m = 2 then (if isLeapYear y then 29 else 28)
  else if m = 4 ∨ m = 6 ∨ m = 9 ∨ m = 11 then 30 else 31

namespace Day

/-- The text of a day, `YYYY-MM-DD`. -/
def text (d : Day) : String :=
  paddedNumber 4 d.year ++ "-" ++ paddedNumber 2 d.month ++ "-" ++ paddedNumber 2 d.day

/-- The days before a day in the calendar that starts with the first of January of year one. -/
def ordinal (d : Day) : Nat :=
  let y := d.year - 1
  let before := (List.range (d.month - 1)).foldl (fun n m => n + daysInMonth d.year (m + 1)) 0
  y * 365 + y / 4 - y / 100 + y / 400 + before + (d.day - 1)

/-- The month and day of the `n`th day of a year, the months from `m` on. -/
def inYear (y n m : Nat) : (months : Nat) → Day
  | 0 => ⟨y, m, n + 1⟩
  | months + 1 =>
    if n < daysInMonth y m then ⟨y, m, n + 1⟩ else inYear y (n - daysInMonth y m) (m + 1) months

/-- The day with the given number of days before it; `none` after year 9999. -/
def ofOrdinal? (n : Nat) : Option Day :=
  let guess := n / 366 + 1
  let year? := (List.range 30).map (guess + ·) |>.find? fun y =>
    Day.ordinal ⟨y, 1, 1⟩ ≤ n && n < Day.ordinal ⟨y + 1, 1, 1⟩
  year?.bind fun y =>
    if y ≤ 9999 then some (inYear y (n - Day.ordinal ⟨y, 1, 1⟩) 1 12) else none

end Day

/-- The notation of a span of time in days and seconds; the seconds count forward from a whole day. -/
def spanNotation (seconds : Int) : String :=
  let days := Int.fdiv seconds 86400
  let rest := Int.fmod seconds 86400
  let parts := (if days = 0 then [] else ["days=" ++ toString days]) ++
    (if rest = 0 then [] else ["seconds=" ++ toString rest])
  "datetime.timedelta(" ++ (if parts.isEmpty then "0" else String.intercalate ", " parts) ++ ")"

namespace Zone

/-- The text of a zone: its offset in hours and minutes. -/
def text (z : Zone) : String :=
  (if z.minutes < 0 then "-" else "+") ++ paddedNumber 2 (z.minutes.natAbs / 60) ++ ":" ++
    paddedNumber 2 (z.minutes.natAbs % 60)

end Zone

namespace Instant

/-- The text of an instant: a day, a time, the fraction of a second if it has one, and the zone. -/
def text (t : Instant) : String :=
  t.date.text ++ " " ++ paddedNumber 2 t.hour ++ ":" ++ paddedNumber 2 t.minute ++ ":" ++
    paddedNumber 2 t.second ++ (if t.micro = 0 then "" else "." ++ paddedNumber 6 t.micro) ++
    (t.zone.map Zone.text).getD ""

/-- The seconds since the start of the calendar, by the clock of the zone. -/
def seconds (t : Instant) : Nat :=
  t.date.ordinal * 86400 + t.hour * 3600 + t.minute * 60 + t.second

/-- Whether two instants are the same: both in zones and at one universal time, or both in none. -/
def same (a b : Instant) : Bool :=
  match a.zone, b.zone with
  | none, none => a = b
  | some y, some z =>
    a.micro = b.micro && (a.seconds : Int) - y.minutes * 60 = (b.seconds : Int) - z.minutes * 60
  | _, _ => false

/-- The instant one second later; `none` after the end of the calendar. -/
def later? (t : Instant) : Option Instant :=
  let n := t.seconds + 1
  (Day.ofOrdinal? (n / 86400)).map fun date =>
    ⟨date, n % 86400 / 3600, n % 3600 / 60, n % 60, t.micro, t.zone⟩

end Instant

end TaggedGrammar
