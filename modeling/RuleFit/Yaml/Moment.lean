import RuleFit.Yaml.Fault

/-!
# Spellings of moments

A day is written with its year in four digits, its month and its day. A time on it follows behind a
letter or blanks: hour, minute and second, perhaps a fraction, perhaps the letter for universal time
or the distance from it. Month, day and hour may have a single digit; a day alone then counts as a
moment only where a tag says so.
-/

namespace RuleFit.Yaml

/-- The distance from universal time as it is written. -/
structure ZoneText where
  negative : Bool
  hours : Nat
  minutes : Nat

/-- A time as it is written. -/
structure TimeText where
  hour : Nat
  minute : Nat
  second : Nat
  fraction : List Char
  zone : Option ZoneText

/-- A moment as it is written, and whether month and day have two digits. -/
structure MomentText where
  year : Nat
  month : Nat
  day : Nat
  full : Bool
  time : Option TimeText

/-- Characters without the line feed at their end, if one is there. A spelling is looked for in what
is left. -/
def withoutBreak (cs : List Char) : List Char :=
  if cs.getLast? = some '\n' then cs.dropLast else cs

/-- The number that decimal digits stand for. -/
def decimal (ds : List Char) : Nat := Text.digitsIn 10 (ds.map .char)

/-- Reads from `least` to `most` digits, as many as there are. -/
def someDigits? (least most : Nat) (cs : List Char) : Option (List Char × List Char) :=
  let ds := (cs.take most).takeWhile Char.isDigit
  if least ≤ ds.length then some (ds, cs.drop ds.length) else none

/-- Reads a character. -/
def mark? (c : Char) : List Char → Option (List Char)
  | d :: cs => if c = d then some cs else none
  | [] => none

def isBlankOrTab (c : Char) : Bool := c == ' ' || c == '\t'

/-- Reads what follows a time: nothing, or the distance from universal time. -/
def zoneText? (cs : List Char) : Option (Option ZoneText) :=
  if cs.isEmpty then some none
  else
    match cs.dropWhile isBlankOrTab with
    | ['Z'] => some (some ⟨false, 0, 0⟩)
    | sign :: cs =>
      if sign = '-' ∨ sign = '+' then do
        let (hours, cs) ← someDigits? 1 2 cs
        let (minutes, cs) ←
          match cs with
          | ':' :: cs => someDigits? 2 2 cs
          | cs => some ([], cs)
        if cs.isEmpty then some (some ⟨sign = '-', decimal hours, decimal minutes⟩) else none
      else none
    | [] => none

/-- Reads a time, up to the end of the text. -/
def timeText? (cs : List Char) : Option TimeText := do
  let (hour, cs) ← someDigits? 1 2 cs
  let (minute, cs) ← someDigits? 2 2 (← mark? ':' cs)
  let (second, cs) ← someDigits? 2 2 (← mark? ':' cs)
  let (fraction, cs) :=
    match cs with
    | '.' :: cs => (cs.takeWhile Char.isDigit, cs.dropWhile Char.isDigit)
    | cs => ([], cs)
  return ⟨decimal hour, decimal minute, decimal second, fraction, ← zoneText? cs⟩

/-- Reads a moment. -/
def momentText? (cs : List Char) : Option MomentText := do
  let (year, cs) ← someDigits? 4 4 cs
  let (month, cs) ← someDigits? 1 2 (← mark? '-' cs)
  let (day, cs) ← someDigits? 1 2 (← mark? '-' cs)
  let full := month.length = 2 ∧ day.length = 2
  let time ←
    match cs with
    | [] => some none
    | c :: rest =>
      if c = 'T' ∨ c = 't' then (timeText? rest).map some
      else if isBlankOrTab c then (timeText? (rest.dropWhile isBlankOrTab)).map some
      else none
  return ⟨decimal year, decimal month, decimal day, full, time⟩

/-- Whether a plain text is spelled like a moment. -/
def isMomentText (cs : List Char) : Bool :=
  match momentText? cs with
  | some m => m.full || m.time.isSome
  | none => false

/-- The distance from universal time, which is less than a day. -/
def ZoneText.distance (z : ZoneText) : Except CalendarFault Int :=
  let minutes : Int := 60 * z.hours + z.minutes
  let distance := if z.negative then -minutes else minutes
  if minutes < 1440 then .ok distance else .error (.distance distance)

/-- The microseconds that the digits of a fraction amount to. -/
def microseconds (fraction : List Char) : Nat :=
  let ds := fraction.take 6
  decimal (ds ++ List.replicate (6 - ds.length) '0')

/-- The moment that a spelling names. The distance from universal time is looked at first. -/
def MomentText.moment (m : MomentText) : Except CalendarFault Moment := do
  match m.time with
  | none => return ⟨← Date.of? m.year m.month m.day, none⟩
  | some t =>
    let distance ←
      match t.zone with
      | none => pure none
      | some z => z.distance.map some
    let date ← Date.of? m.year m.month m.day
    return ⟨date, ← DayTime.of? t.hour t.minute t.second (microseconds t.fraction) distance⟩

/-- Reads a moment. A line break behind it does not count. -/
def momentValue (t : Text) : Except ScalarFault Moment :=
  match momentText? (withoutBreak t.chars) with
  | none => .error .moment
  | some m => m.moment.mapError .calendar

end RuleFit.Yaml
