/-!
# Dates and moments

A date of the Gregorian calendar and a moment of a day, with an optional offset from universal
time. `Date.make` and `Moment.make` accept exactly the dates and times that exist.
-/

namespace VulnScanner.Calendar

/-- A day of the calendar. -/
structure Date where
  year : Nat
  month : Nat
  day : Nat
  deriving DecidableEq, Repr

/-- A moment: a day, the time of day, and the offset from universal time in seconds if known. -/
structure Moment where
  date : Date
  hour : Nat
  minute : Nat
  second : Nat
  microsecond : Nat
  offset : Option Int
  deriving DecidableEq, Repr

/-- Why a date or time does not exist. -/
inductive Error where
  | year (year : Nat)
  | month
  | day
  | hour
  | minute
  | second
  /-- The offset, in seconds, reaches a whole day. -/
  | offset (seconds : Int)
  deriving DecidableEq, Repr

/-- Leap years of the Gregorian calendar. -/
def isLeapYear (year : Nat) : Bool := year % 4 = 0 ∧ (year % 100 ≠ 0 ∨ year % 400 = 0)

/-- The number of days of a month. -/
def daysInMonth (year month : Nat) : Nat :=
  if month = 2 then (if isLeapYear year then 29 else 28)
  else if month = 4 ∨ month = 6 ∨ month = 9 ∨ month = 11 then 30
  else 31

/-- The date with the given parts; the year is checked first, the day last. -/
def Date.make (year month day : Nat) : Except Error Date :=
  if year < 1 ∨ 9999 < year then .error (.year year)
  else if month < 1 ∨ 12 < month then .error .month
  else if day < 1 ∨ daysInMonth year month < day then .error .day
  else .ok ⟨year, month, day⟩

/-- The moment with the given parts. The offset is checked first, then the date, then the time. -/
def Moment.make (year month day hour minute second microsecond : Nat) (offset : Option Int) :
    Except Error Moment := do
  if let some seconds := offset then
    if 86400 ≤ seconds.natAbs then throw (.offset seconds)
  let date ← Date.make year month day
  if 23 < hour then throw .hour
  if 59 < minute then throw .minute
  if 59 < second then throw .second
  return ⟨date, hour, minute, second, microsecond, offset⟩

/-- `n` in decimal, padded with zeros to a width. -/
def padded (width n : Nat) : String :=
  let digits := toString n
  String.ofList (List.replicate (width - digits.length) '0') ++ digits

/-- A date as year, month and day joined by hyphens. -/
def Date.text (d : Date) : String := s!"{padded 4 d.year}-{padded 2 d.month}-{padded 2 d.day}"

/-- An offset as a sign, hours and minutes, and seconds when there are any. -/
def offsetText (seconds : Int) : String :=
  let n := seconds.natAbs
  let rest := if n % 60 = 0 then "" else s!":{padded 2 (n % 60)}"
  let sign := if seconds < 0 then "-" else "+"
  s!"{sign}{padded 2 (n / 3600)}:{padded 2 (n / 60 % 60)}{rest}"

/-- A moment as its date, its time of day, and its offset. -/
def Moment.text (m : Moment) : String :=
  let fraction := if m.microsecond = 0 then "" else s!".{padded 6 m.microsecond}"
  let zone := match m.offset with
    | none => ""
    | some seconds => offsetText seconds
  s!"{m.date.text} {padded 2 m.hour}:{padded 2 m.minute}:{padded 2 m.second}{fraction}{zone}"

/-- A span of seconds as an expression: days, rounded down, and the seconds that remain. -/
def spanExpression (seconds : Int) : String :=
  let days := seconds.fdiv 86400
  let rest := seconds.fmod 86400
  let parts := (if days = 0 then [] else [s!"days={days}"]) ++
    (if rest = 0 then [] else [s!"seconds={rest}"])
  let parts := if parts.isEmpty then ["0"] else parts
  "datetime.timedelta(" ++ ", ".intercalate parts ++ ")"

/-- A date as an expression. -/
def Date.expression (d : Date) : String := s!"datetime.date({d.year}, {d.month}, {d.day})"

/-- A moment as an expression; trailing zero seconds and fractions are left out. -/
def Moment.expression (m : Moment) : String :=
  let base := [m.date.year, m.date.month, m.date.day, m.hour, m.minute]
  let tail := if m.microsecond ≠ 0 then [m.second, m.microsecond]
    else if m.second ≠ 0 then [m.second] else []
  let zone := match m.offset with
    | none => []
    | some 0 => ["tzinfo=datetime.timezone.utc"]
    | some seconds => [s!"tzinfo=datetime.timezone({spanExpression seconds})"]
  "datetime.datetime(" ++ ", ".intercalate ((base ++ tail).map toString ++ zone) ++ ")"

/-- The wording of a calendar error. -/
def Error.message : Error → String
  | .year n => s!"year {n} is out of range"
  | .month => "month must be in 1..12"
  | .day => "day is out of range for month"
  | .hour => "hour must be in 0..23"
  | .minute => "minute must be in 0..59"
  | .second => "second must be in 0..59"
  | .offset seconds =>
    "offset must be a timedelta strictly between -timedelta(hours=24) and timedelta(hours=24), " ++
      s!"not {spanExpression seconds}."

end VulnScanner.Calendar
