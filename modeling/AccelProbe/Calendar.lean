import AccelProbe.Decimal.Digits

/-!
# Dates and times

Dates of the Gregorian calendar, times of day to the microsecond, and the two together with an optional distance from universal
time, as configuration documents hold them; and the form in which a message shows them.
-/

namespace AccelProbe

/-- A date. -/
structure Date where
  /-- The year. -/
  year : Nat
  /-- The month, from one. -/
  month : Nat
  /-- The day of the month, from one. -/
  day : Nat
deriving DecidableEq, Repr

/-- A time of day. -/
structure TimeOfDay where
  /-- The hour. -/
  hour : Nat
  /-- The minute. -/
  minute : Nat
  /-- The second. -/
  second : Nat
  /-- The microsecond. -/
  microsecond : Nat
deriving DecidableEq, Repr

namespace Date

/-- Whether a year has a 29th of February. -/
def isLeap (year : Nat) : Bool := year % 4 == 0 && (year % 100 != 0 || year % 400 == 0)

/-- The number of days of a month. -/
def daysIn (year month : Nat) : Nat :=
  if month = 2 then (if isLeap year then 29 else 28)
  else if month = 4 ∨ month = 6 ∨ month = 9 ∨ month = 11 then 30
  else 31

/-- Whether the calendar has this date. The calendar begins with the year one. -/
def exists? (d : Date) : Bool :=
  decide (1 ≤ d.year ∧ 1 ≤ d.month ∧ d.month ≤ 12 ∧ 1 ≤ d.day ∧ d.day ≤ daysIn d.year d.month)

/-- The year, the month and the day, as arguments. -/
def arguments (d : Date) : List Nat := [d.year, d.month, d.day]

end Date

/-- The hour and the minute as arguments, with the second and the microsecond as far as the last of them that is not zero. -/
def TimeOfDay.arguments (t : TimeOfDay) : List Nat :=
  if t.microsecond ≠ 0 then [t.hour, t.minute, t.second, t.microsecond]
  else if t.second ≠ 0 then [t.hour, t.minute, t.second]
  else [t.hour, t.minute]

namespace Calendar

/-- A list of numbers as arguments. -/
def argumentText (ns : List Nat) : String := String.intercalate ", " (ns.map natText)

/-- A date as a message shows it. -/
def dateSource (d : Date) : String := "datetime.date(" ++ argumentText d.arguments ++ ")"

/-- A time of day as a message shows it. -/
def timeSource (t : TimeOfDay) : String := "datetime.time(" ++ argumentText t.arguments ++ ")"

/-- A distance from universal time, in minutes, as a message shows it: whole days, counted toward the past, and seconds. -/
def offsetSource (minutes : Int) : String :=
  if minutes = 0 then "datetime.timezone.utc"
  else
    let days := Int.fdiv (minutes * 60) 86400
    let seconds := Int.fmod (minutes * 60) 86400
    let parts := (if days = 0 then [] else ["days=" ++ intText days]) ++
      (if seconds = 0 then [] else ["seconds=" ++ intText seconds])
    "datetime.timezone(datetime.timedelta(" ++ String.intercalate ", " parts ++ "))"

/-- A date with a time of day as a message shows it. -/
def dateTimeSource (d : Date) (t : TimeOfDay) (offset : Option Int) : String :=
  "datetime.datetime(" ++ argumentText (d.arguments ++ t.arguments) ++
    (match offset with
      | none => ""
      | some minutes => ", tzinfo=" ++ offsetSource minutes) ++ ")"

end Calendar

end AccelProbe
