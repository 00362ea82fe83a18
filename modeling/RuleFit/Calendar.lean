import RuleFit.Text.Quoted

/-!
# Dates and times

A data file can give a day of the calendar, or a time on a day with or without its distance from
universal time. The calendar is the Gregorian one, carried back to the year one. Two times that both
know their distance from universal time are the same moment when they name the same instant; in all
other cases they are the same when everything that is written is.
-/

namespace RuleFit

/-- What keeps numbers from being a date or a time. -/
inductive CalendarFault where
  | year (n : Nat)
  | month
  | day
  | hour
  | minute
  | second
  | distance (minutes : Int)
  deriving DecidableEq

/-! ## Days -/

/-- A day of the calendar. -/
structure Date where
  year : Nat
  month : Nat
  day : Nat
  deriving DecidableEq, Inhabited

namespace Date

def isLeap (year : Nat) : Bool :=
  year % 4 == 0 && (year % 100 != 0 || year % 400 == 0)

/-- The number of days in a month. -/
def daysIn (year month : Nat) : Nat :=
  match month with
  | 2 => if isLeap year then 29 else 28
  | 4 | 6 | 9 | 11 => 30
  | _ => 31

/-- The day that three numbers name, or the first of them that is out of range. -/
def of? (year month day : Nat) : Except CalendarFault Date :=
  if year = 0 then .error (.year year)
  else if month = 0 ∨ 12 < month then .error .month
  else if day = 0 ∨ daysIn year month < day then .error .day
  else .ok ⟨year, month, day⟩

/-- How many days lie between the beginning of the calendar and a day. -/
def ordinal (d : Date) : Nat :=
  let past := d.year - 1
  365 * past + past / 4 - past / 100 + past / 400
    + ((List.range d.month).drop 1).foldl (fun n m => n + daysIn d.year m) 0 + d.day

end Date

/-! ## Times -/

/-- A time of day, with its distance from universal time in minutes if that is known. -/
structure DayTime where
  hour : Nat
  minute : Nat
  second : Nat
  microsecond : Nat
  distance : Option Int
  deriving DecidableEq, Inhabited

/-- The time that numbers name, or the first of them that is out of range. -/
def DayTime.of? (hour minute second microsecond : Nat) (distance : Option Int) :
    Except CalendarFault DayTime :=
  if 23 < hour then .error .hour
  else if 59 < minute then .error .minute
  else if 59 < second then .error .second
  else .ok ⟨hour, minute, second, microsecond, distance⟩

/-- A day, or a time on it. -/
structure Moment where
  date : Date
  time : Option DayTime
  deriving DecidableEq, Inhabited

namespace Moment

/-- The microseconds of universal time up to a time whose distance from it is known. -/
def instant? (m : Moment) : Option Int :=
  m.time.bind fun t => t.distance.map fun distance =>
    let minutes : Int := (m.date.ordinal * 24 + t.hour) * 60 + t.minute
    ((minutes - distance) * 60 + t.second) * 1000000 + t.microsecond

/-- Whether two moments are the same. -/
def same (a b : Moment) : Bool :=
  match a.instant?, b.instant? with
  | some x, some y => x == y
  | none, none => a == b
  | _, _ => false

end Moment

/-! ## Written forms -/

namespace Calendar

/-- A number, filled up with zeros in front. -/
def padded (width n : Nat) : String :=
  let ds := Nat.toDigits 10 n
  String.ofList (List.replicate (width - ds.length) '0' ++ ds)

/-- A length of time in whole days and, if there are any, the seconds beyond. -/
def lengthLiteral (minutes : Int) : String :=
  let days := minutes / 1440
  let seconds := minutes % 1440 * 60
  let parts := (if days = 0 then [] else ["days=" ++ toString days])
    ++ (if seconds = 0 then [] else ["seconds=" ++ toString seconds])
  "datetime.timedelta(" ++ (if parts.isEmpty then "0" else String.intercalate ", " parts) ++ ")"

/-- A distance from universal time as it is written in code. -/
def distanceLiteral (minutes : Int) : String :=
  if minutes = 0 then "datetime.timezone.utc"
  else "datetime.timezone(" ++ lengthLiteral minutes ++ ")"

/-- A distance from universal time as it is shown: sign, hours and minutes. -/
def distanceText (minutes : Int) : String :=
  (if minutes < 0 then "-" else "+") ++ padded 2 (minutes.natAbs / 60) ++ ":"
    ++ padded 2 (minutes.natAbs % 60)

end Calendar

open Calendar

def CalendarFault.message : CalendarFault → String
  | .year n => "year " ++ toString n ++ " is out of range"
  | .month => "month must be in 1..12"
  | .day => "day is out of range for month"
  | .hour => "hour must be in 0..23"
  | .minute => "minute must be in 0..59"
  | .second => "second must be in 0..59"
  | .distance minutes =>
    "offset must be a timedelta strictly between -timedelta(hours=24) and timedelta(hours=24), not "
      ++ lengthLiteral minutes ++ "."

/-- The moment as it is written in code. Seconds and microseconds may be left out from the end where
they are zero. -/
def Moment.literal (m : Moment) : String :=
  let day := [m.date.year, m.date.month, m.date.day]
  match m.time with
  | none => "datetime.date(" ++ String.intercalate ", " (day.map toString) ++ ")"
  | some t =>
    let small :=
      if t.microsecond ≠ 0 then [t.second, t.microsecond]
      else if t.second ≠ 0 then [t.second] else []
    let numbers := (day ++ [t.hour, t.minute] ++ small).map toString
    let zone := match t.distance with
      | none => []
      | some d => ["tzinfo=" ++ distanceLiteral d]
    "datetime.datetime(" ++ String.intercalate ", " (numbers ++ zone) ++ ")"

/-- The moment as it is shown. -/
def Moment.display (m : Moment) : String :=
  let day := padded 4 m.date.year ++ "-" ++ padded 2 m.date.month ++ "-" ++ padded 2 m.date.day
  match m.time with
  | none => day
  | some t =>
    day ++ " " ++ padded 2 t.hour ++ ":" ++ padded 2 t.minute ++ ":" ++ padded 2 t.second
      ++ (if t.microsecond = 0 then "" else "." ++ padded 6 t.microsecond)
      ++ (match t.distance with
        | none => ""
        | some d => distanceText d)

end RuleFit
