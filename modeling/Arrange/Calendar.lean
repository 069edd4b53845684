/-!
# Arrange.Calendar

Dates, times of day, and moments: a date with a time of day and, if known, its distance from universal
time.  A date lies in the years 1 to 9999.  Each has a plain text (`2024-01-02`, `03:04:05`,
`2024-01-02 03:04:05+01:00`) and a spelled-out one for messages (`datetime.date(2024, 1, 2)`).
-/

namespace Arrange.Calendar

/-- A number with leading zeros. -/
def padded (width n : Nat) : String :=
  let ds := Nat.repr n
  "".pushn '0' (width - ds.length) ++ ds

def isLeap (year : Nat) : Bool := year % 4 == 0 && (year % 100 != 0 || year % 400 == 0)

def daysIn (year month : Nat) : Nat :=
  if month = 2 then (if isLeap year then 29 else 28)
  else if month = 4 ∨ month = 6 ∨ month = 9 ∨ month = 11 then 30 else 31

structure Date where
  year : Nat
  month : Nat
  day : Nat
deriving Repr, DecidableEq

structure Clock where
  hour : Nat
  minute : Nat
  second : Nat
  micro : Nat := 0
deriving Repr, DecidableEq

/-- A time of day on a date, with the minutes it is ahead of universal time, if known. -/
structure Moment where
  date : Date
  clock : Clock
  offset : Option Int := none
deriving Repr, DecidableEq

namespace Date

/-- Does the calendar have the date? -/
def isValid (d : Date) : Bool :=
  1 ≤ d.year && d.year ≤ 9999 && 1 ≤ d.month && d.month ≤ 12 && 1 ≤ d.day
    && d.day ≤ daysIn d.year d.month

/-- The number of days before the date, counted from the first day of year one. -/
def dayNumber (d : Date) : Nat :=
  let y := d.year - 1
  365 * y + y / 4 - y / 100 + y / 400
    + (List.range (d.month - 1)).foldl (fun n m => n + daysIn d.year (m + 1)) 0 + d.day

/-- Year, month and day with dashes. -/
def text (d : Date) : String :=
  padded 4 d.year ++ "-" ++ padded 2 d.month ++ "-" ++ padded 2 d.day

/-- Year, month and day, separated by commas. -/
def fields (d : Date) : String :=
  Nat.repr d.year ++ ", " ++ Nat.repr d.month ++ ", " ++ Nat.repr d.day

def spelled (d : Date) : String := "datetime.date(" ++ d.fields ++ ")"

end Date

namespace Clock

/-- Does a day have the time? -/
def isValid (c : Clock) : Bool :=
  c.hour < 24 && c.minute < 60 && c.second < 60 && c.micro < 1000000

def microseconds (c : Clock) : Nat :=
  ((c.hour * 60 + c.minute) * 60 + c.second) * 1000000 + c.micro

/-- Hours, minutes and seconds with colons, and the microseconds if there are any. -/
def text (c : Clock) : String :=
  padded 2 c.hour ++ ":" ++ padded 2 c.minute ++ ":" ++ padded 2 c.second
    ++ (if c.micro = 0 then "" else "." ++ padded 6 c.micro)

/-- Hour and minute, and what follows down to the last part that is not zero. -/
def fields (c : Clock) : String :=
  Nat.repr c.hour ++ ", " ++ Nat.repr c.minute
    ++ (if c.micro ≠ 0 then ", " ++ Nat.repr c.second ++ ", " ++ Nat.repr c.micro
      else if c.second ≠ 0 then ", " ++ Nat.repr c.second else "")

def spelled (c : Clock) : String := "datetime.time(" ++ c.fields ++ ")"

end Clock

/-- A distance from universal time as sign, hours and minutes. -/
def offsetText (minutes : Int) : String :=
  (if minutes < 0 then "-" else "+") ++ padded 2 (minutes.natAbs / 60) ++ ":"
    ++ padded 2 (minutes.natAbs % 60)

/-- The spelled-out text of a distance from universal time. -/
def offsetSpelled (minutes : Int) : String :=
  if minutes = 0 then "datetime.timezone.utc"
  else
    let seconds := Nat.repr (minutes.emod 1440 * 60).toNat
    "datetime.timezone(datetime.timedelta("
      ++ (if minutes < 0 then
          "days=-1" ++ (if minutes.emod 1440 = 0 then "" else ", seconds=" ++ seconds)
        else "seconds=" ++ seconds) ++ "))"

namespace Moment

/-- Does the calendar have the moment?  Universal time is less than a day away. -/
def isValid (m : Moment) : Bool :=
  m.date.isValid && m.clock.isValid
    && (match m.offset with | none => true | some o => o.natAbs < 1440)

def microseconds (m : Moment) : Int :=
  (m.date.dayNumber : Int) * 86400000000 + m.clock.microseconds - m.offset.getD 0 * 60000000

/-- Two moments are the same if both tell their distance from universal time and agree there, or
neither does and they read the same. -/
def same (a b : Moment) : Bool :=
  a.offset.isSome == b.offset.isSome && a.microseconds == b.microseconds

/-- Date, time of day and distance from universal time. -/
def text (m : Moment) : String :=
  m.date.text ++ " " ++ m.clock.text ++ (match m.offset with | none => "" | some o => offsetText o)

def spelled (m : Moment) : String :=
  "datetime.datetime(" ++ m.date.fields ++ ", " ++ m.clock.fields
    ++ (match m.offset with | none => "" | some o => ", tzinfo=" ++ offsetSpelled o) ++ ")"

end Moment

end Arrange.Calendar
