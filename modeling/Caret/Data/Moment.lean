/-!
# Dates and times

The dates and times of a data document. A date and time may carry its distance from universal
time together with the name that this distance has in the document.
-/

namespace Caret.Data

/-- A time of day. -/
structure TimeOfDay where
  hour : Nat
  minute : Nat
  second : Nat
  microsecond : Nat
  deriving DecidableEq, Repr

/-- A day of the calendar. -/
structure Day where
  year : Nat
  month : Nat
  day : Nat
  deriving DecidableEq, Repr

/-- A distance from universal time in minutes, and its name. -/
structure Zone where
  minutes : Int
  name : String
  deriving DecidableEq, Repr

/-- A day, a time of day, or both. -/
inductive Moment where
  | day (day : Day)
  | time (time : TimeOfDay)
  | dayTime (day : Day) (time : TimeOfDay) (zone : Option Zone)
  deriving DecidableEq, Repr

/-- The number of days of a month. -/
def daysInMonth (year month : Nat) : Nat :=
  if month = 2 then
    if year % 4 = 0 ∧ (year % 100 ≠ 0 ∨ year % 400 = 0) then 29 else 28
  else if month = 4 ∨ month = 6 ∨ month = 9 ∨ month = 11 then 30
  else 31

/-- Whether there is such a day; years have at most four digits and there is no year zero. -/
def Day.exists (d : Day) : Bool :=
  1 ≤ d.year && d.year ≤ 9999 && 1 ≤ d.month && d.month ≤ 12 && 1 ≤ d.day &&
    d.day ≤ daysInMonth d.year d.month

/-- Whether there is such a time of day; leap seconds are not counted. -/
def TimeOfDay.exists (t : TimeOfDay) : Bool :=
  t.hour < 24 && t.minute < 60 && t.second < 60 && t.microsecond < 1000000

/-- The numbers of a time of day, without zero seconds and microseconds at the end. -/
def TimeOfDay.parts (t : TimeOfDay) : List Nat :=
  if t.microsecond ≠ 0 then [t.hour, t.minute, t.second, t.microsecond]
  else if t.second ≠ 0 then [t.hour, t.minute, t.second]
  else [t.hour, t.minute]

/-- The numbers of a day. -/
def Day.parts (d : Day) : List Nat := [d.year, d.month, d.day]

/-- Numbers as they stand in a list of arguments. -/
def commaSeparated (parts : List Nat) : String := ", ".intercalate (parts.map toString)

/-- A duration of minutes as it is shown: days are negative in front of positive seconds. -/
def durationText (minutes : Int) : String :=
  let days := minutes.fdiv 1440
  let seconds := (minutes - days * 1440) * 60
  let parts := (if days ≠ 0 then [s!"days={days}"] else []) ++
    (if seconds ≠ 0 then [s!"seconds={seconds}"] else [])
  "datetime.timedelta(" ++ (if parts.isEmpty then "0" else ", ".intercalate parts) ++ ")"

/-- A moment as it is shown in messages. -/
def Moment.text : Moment → String
  | .day d => s!"datetime.date({commaSeparated d.parts})"
  | .time t => s!"datetime.time({commaSeparated t.parts})"
  | .dayTime d t none => s!"datetime.datetime({commaSeparated (d.parts ++ t.parts)})"
  | .dayTime d t (some zone) =>
    s!"datetime.datetime({commaSeparated (d.parts ++ t.parts)}, " ++
      s!"tzinfo=datetime.timezone({durationText zone.minutes}, '{zone.name}'))"

end Caret.Data
