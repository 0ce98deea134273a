import CallPolicy.Decimal.Layout

/-!
# CallPolicy.Calendar

Dates and moments of the Gregorian calendar, and their two texts: the plain one, and the one that
spells out how the value is made.
-/

namespace CallPolicy

structure Date where
  year : Nat
  month : Nat
  day : Nat
  deriving DecidableEq

/-- A time of day on a date, with its distance from universal time in seconds if it states one. -/
structure Moment where
  date : Date
  hour : Nat
  minute : Nat
  second : Nat
  microsecond : Nat
  offset : Option Int
  deriving DecidableEq

namespace Calendar

def isLeap (year : Nat) : Bool := year % 4 == 0 && (year % 100 != 0 || year % 400 == 0)

def monthLength (year month : Nat) : Nat :=
  if month = 2 then (if isLeap year then 29 else 28)
  else if month = 4 ∨ month = 6 ∨ month = 9 ∨ month = 11 then 30
  else 31

/-- Days from the start of year 1 to the end of a date. -/
def dayNumber (d : Date) : Nat :=
  let before := d.year - 1
  let months := (List.range (d.month - 1)).foldl (fun n m => n + monthLength d.year (m + 1)) 0
  365 * before + before / 4 - before / 100 + before / 400 + months + d.day

def digits (width n : Nat) : String := String.ofList (Decimal.padded width n)

/-- Hours and minutes of a distance from universal time, with its sign. -/
def offsetText (seconds : Int) : String :=
  let n := seconds.natAbs
  let rest := if n % 60 = 0 then "" else ":" ++ digits 2 (n % 60)
  (if seconds < 0 then "-" else "+") ++ digits 2 (n / 3600) ++ ":" ++ digits 2 (n / 60 % 60) ++ rest

/-- How a distance from universal time is made. -/
def zoneSource (seconds : Int) : String :=
  if seconds = 0 then "datetime.timezone.utc"
  else
    let inner := if seconds < 0 then "days=-1, seconds=" ++ toString (86400 + seconds)
      else "seconds=" ++ toString seconds
    "datetime.timezone(datetime.timedelta(" ++ inner ++ "))"

end Calendar

open Calendar

namespace Date

/-- A date of the calendar, from year 1 to 9999. -/
def IsValid (d : Date) : Prop :=
  1 ≤ d.year ∧ d.year ≤ 9999 ∧ 1 ≤ d.month ∧ d.month ≤ 12 ∧ 1 ≤ d.day ∧
    d.day ≤ monthLength d.year d.month

instance (d : Date) : Decidable d.IsValid := by unfold IsValid; infer_instance

def text (d : Date) : String := digits 4 d.year ++ "-" ++ digits 2 d.month ++ "-" ++ digits 2 d.day

def numbers (d : Date) : List Nat := [d.year, d.month, d.day]

def source (d : Date) : String :=
  "datetime.date(" ++ String.intercalate ", " (d.numbers.map toString) ++ ")"

end Date

namespace Moment

/-- A moment on a valid date, at a time of day, less than a day away from universal time. -/
def IsValid (m : Moment) : Prop :=
  m.date.IsValid ∧ m.hour < 24 ∧ m.minute < 60 ∧ m.second < 60 ∧
    (m.offset.all fun o => o.natAbs < 86400) = true

instance (m : Moment) : Decidable m.IsValid := by unfold IsValid; infer_instance

def text (m : Moment) : String :=
  m.date.text ++ " " ++ digits 2 m.hour ++ ":" ++ digits 2 m.minute ++ ":" ++ digits 2 m.second ++
    (if m.microsecond = 0 then "" else "." ++ digits 6 m.microsecond) ++
    (match m.offset with
      | some o => offsetText o
      | none => "")

/-- Seconds and microseconds are left out when they and all after them are zero. -/
def source (m : Moment) : String :=
  let tail :=
    if m.microsecond ≠ 0 then [m.second, m.microsecond]
    else if m.second ≠ 0 then [m.second]
    else []
  let numbers := m.date.numbers ++ [m.hour, m.minute] ++ tail
  let zone := match m.offset with
    | some o => ["tzinfo=" ++ zoneSource o]
    | none => []
  "datetime.datetime(" ++ String.intercalate ", " (numbers.map toString ++ zone) ++ ")"

end Moment

end CallPolicy
