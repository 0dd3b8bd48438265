import TaggedGrammar.Value.Basic
import TaggedGrammar.Yaml.Cursor

/-!
# Days and instants in a table text

A day is `YYYY-MM-DD`. An instant adds a time of day, a fraction of a second and a time zone, which is given
by its offset from universal time.
-/

namespace TaggedGrammar.Yaml

/-- A time of day as it is written. -/
structure WrittenTime where
  hour : Nat
  minute : Nat
  second : Nat
  fraction : List Nat
  zone : Option Zone

/-- A day, with or without a time of day, as it is written. -/
structure Timestamp where
  year : Nat
  month : Nat
  day : Nat
  /-- Whether month and day have two digits each. -/
  isPadded : Bool
  time : Option WrittenTime

namespace Timestamp

/-- The value of a run of digits. -/
def numberOf (ds : List Char) : Nat :=
  ds.foldl (fun n d => n * 10 + (d.toNat - '0'.toNat)) 0

/-- Between `least` and `most` digits at the front, as many as there are, and the rest. -/
def digits? (least most : Nat) (cs : List Char) : Option (List Char × List Char) :=
  let ds := (cs.take most).takeWhile isDecimal
  if least ≤ ds.length then some (ds, cs.drop ds.length) else none

/-- A character at the front, and the rest. -/
def mark? (c : Char) : List Char → Option (List Char)
  | [] => none
  | x :: rest => if x = c then some rest else none

/-- A zone, all of the text: the mark of universal time, or a signed offset. -/
def zone? (cs : List Char) : Option Zone := do
  match cs with
  | ['Z'] => some ⟨0, "Z"⟩
  | sign :: rest =>
    if sign ≠ '+' ∧ sign ≠ '-' then none
    else
      let (hours, rest) ← digits? 1 2 rest
      let minutes ← match rest with
        | [] => some 0
        | _ =>
          let (minutes, rest) ← digits? 2 2 (← mark? ':' rest)
          if rest.isEmpty then some (numberOf minutes) else none
      let size : Int := numberOf hours * 60 + minutes
      some ⟨if sign = '-' then -size else size, String.ofList cs⟩
  | [] => none

/-- What is behind the fraction of a second, all of the text: nothing, or a zone after gaps. -/
def ending? : List Char → Option (Option Zone)
  | [] => some none
  | cs => (zone? (cs.dropWhile isGap)).map some

/-- A time of day, all of the text. -/
def time? (cs : List Char) : Option WrittenTime := do
  let (hour, rest) ← digits? 1 2 cs
  let (minute, rest) ← digits? 2 2 (← mark? ':' rest)
  let (second, rest) ← digits? 2 2 (← mark? ':' rest)
  let (fraction, rest) := match rest with
    | '.' :: rest => (rest.takeWhile isDecimal, rest.dropWhile isDecimal)
    | rest => ([], rest)
  let zone ← ending? rest
  some ⟨numberOf hour, numberOf minute, numberOf second, fraction.map fun d => d.toNat - '0'.toNat,
    zone⟩

/-- The text between a day and a time of day taken away: the letter `T`, or gaps. -/
def timeStart? : List Char → Option (List Char)
  | 'T' :: rest | 't' :: rest => some rest
  | c :: rest => if isGap c then some (rest.dropWhile isGap) else none
  | [] => none

/-- Reads a day or an instant. -/
def read? (cs : List Char) : Option Timestamp := do
  let (year, rest) ← digits? 4 4 cs
  let (month, rest) ← digits? 1 2 (← mark? '-' rest)
  let (day, rest) ← digits? 1 2 (← mark? '-' rest)
  let isPadded := month.length = 2 && day.length = 2
  match rest with
  | [] => some ⟨numberOf year, numberOf month, numberOf day, isPadded, none⟩
  | _ =>
    let time ← time? (← timeStart? rest)
    some ⟨numberOf year, numberOf month, numberOf day, isPadded, some time⟩

/-- Whether a plain text of this form is taken for a day or an instant: a day alone must be padded. -/
def isUsual (t : Timestamp) : Bool :=
  t.isPadded || t.time.isSome

/-- What is wrong with a day, if anything. -/
def dayProblem? (t : Timestamp) : Option String :=
  if t.year = 0 then some "year 0 is out of range"
  else if t.month = 0 ∨ 12 < t.month then some "month must be in 1..12"
  else if t.day = 0 ∨ daysInMonth t.year t.month < t.day then some "day is out of range for month"
  else none

/-- What is wrong with a time of day, if anything. -/
def timeProblem? (w : WrittenTime) : Option String :=
  if 23 < w.hour then some "hour must be in 0..23"
  else if 59 < w.minute then some "minute must be in 0..59"
  else if 59 < w.second then some "second must be in 0..59"
  else none

/-- The microseconds of a fraction, the seventh digit rounding the sixth. -/
def microseconds (fraction : List Nat) : Nat :=
  let six := (fraction ++ List.replicate 6 0).take 6
  six.foldl (fun n d => n * 10 + d) 0 + (if 4 < fraction.getD 6 0 then 1 else 0)

/-- What is wrong with a zone, if anything: its offset is less than a day. -/
def zoneProblem? (z : Zone) : Option String :=
  if z.minutes.natAbs < 24 * 60 then none
  else some ("offset must be a timedelta strictly between -timedelta(hours=24) and " ++
    "timedelta(hours=24), not " ++ spanNotation (z.minutes * 60) ++ ".")

/-- The instant of a day with a time of day. A fraction that rounds up to a second moves it on by one. -/
def instant (date : Day) (w : WrittenTime) : Except Defect Scalar :=
  let micro := microseconds w.fraction
  if micro ≤ 999999 then .ok ⟨.instant ⟨date, w.hour, w.minute, w.second, micro, w.zone⟩, rfl⟩
  else match Instant.later? ⟨date, w.hour, w.minute, w.second, 0, w.zone⟩ with
    | some t => .ok ⟨.instant t, rfl⟩
    | none => .error .outsideCalendar

/-- The value of a day or an instant. The zone is looked at first, then the day and then the time. -/
def value (t : Timestamp) : Except Defect Scalar :=
  let date : Day := ⟨t.year, t.month, t.day⟩
  let problem := ((t.time.bind (·.zone)).bind zoneProblem?).or (t.dayProblem?.or (t.time.bind timeProblem?))
  match problem, t.time with
  | some reason, _ => .error (.badScalar reason)
  | none, none => .ok ⟨.day date, rfl⟩
  | none, some w => instant date w

end Timestamp

end TaggedGrammar.Yaml
