/-
# Timestamps

A timestamp is a date, `year-month-day`, or a date and a time of day with an optional fraction
of a second and an optional offset from universal time.  `Timestamp.ofChars?` reads the form
alone; `Timestamp.value` gives the date or the moment, if there is one in the calendar.
-/

import LogBalancer.Value
import LogBalancer.Yaml.Fault

namespace LogBalancer
namespace Yaml

/-- The digits of a time of day.  The offset is a sign, true for minus, with hours and minutes, or
nothing for universal time. -/
structure ClockTime where
  hour : Nat
  minute : Nat
  second : Nat
  fraction : List Char
  zone : Option (Option (Bool × Nat × Nat))

/-- The digits of a timestamp. -/
structure Timestamp where
  year : Nat
  month : List Char
  day : List Char
  time : Option ClockTime

namespace Timestamp

/-- Splits off between `least` and `most` digits, as many as there are. -/
def digits? (least most : Nat) (s : List Char) : Option (List Char × List Char) :=
  let ds := (s.takeWhile Decimal.isDigit).take most
  if least ≤ ds.length then some (ds, s.drop ds.length) else none

/-- Splits off one given character. -/
def char? (c : Char) : List Char → Option (List Char)
  | [] => none
  | d :: s => if d = c then some s else none

/-- Whether a character is a space or a tab. -/
def isSpacing (c : Char) : Bool := c == ' ' || c == '\t'

/-- What separates a date from a time: the letter T, or spacing. -/
def separator? : List Char → Option (List Char)
  | [] => none
  | c :: s =>
    if c == 'T' || c == 't' then some s
    else if isSpacing c then some (s.dropWhile isSpacing)
    else none

/-- Reads the minutes of an offset up to the end; there may be none. -/
def zoneMinutes? : List Char → Option Nat
  | [] => some 0
  | ':' :: s =>
    match digits? 2 2 s with
    | some (minutes, []) => some (Decimal.valueOf minutes)
    | _ => none
  | _ => none

/-- Reads the hours and minutes of an offset up to the end. -/
def zoneSize? (s : List Char) : Option (Nat × Nat) := do
  let (hours, rest) ← digits? 1 2 s
  let minutes ← zoneMinutes? rest
  return (Decimal.valueOf hours, minutes)

/-- Reads an offset up to the end. -/
def zone? (s : List Char) : Option (Option (Option (Bool × Nat × Nat))) :=
  match s.dropWhile isSpacing with
  | [] => if s.isEmpty then some none else none
  | ['Z'] => some (some none)
  | sign :: rest =>
    if sign == '+' || sign == '-' then
      (zoneSize? rest).map fun size => some (some (sign == '-', size))
    else none

/-- Reads a time of day up to the end. -/
def time? (s : List Char) : Option ClockTime := do
  let (hour, s) ← digits? 1 2 s
  let (minute, s) ← (char? ':' s).bind (digits? 2 2)
  let (second, s) ← (char? ':' s).bind (digits? 2 2)
  let (fraction, s) := match s with
    | '.' :: r => (r.takeWhile Decimal.isDigit, r.dropWhile Decimal.isDigit)
    | r => ([], r)
  let zone ← zone? s
  return ⟨Decimal.valueOf hour, Decimal.valueOf minute, Decimal.valueOf second, fraction, zone⟩

/-- Reads a text with the form of a timestamp. -/
def ofChars? (s : List Char) : Option Timestamp := do
  let (year, s) ← digits? 4 4 s
  let (month, s) ← (char? '-' s).bind (digits? 1 2)
  let (day, s) ← (char? '-' s).bind (digits? 1 2)
  let time ← if s.isEmpty then some none else ((separator? s).bind time?).map some
  return ⟨Decimal.valueOf year, month, day, time⟩

/-- Whether a plain scalar is a timestamp: a date alone has two digits for month and day. -/
def isPlain (s : List Char) : Bool :=
  match ofChars? s with
  | some t => t.time.isSome || (t.month.length == 2 && t.day.length == 2)
  | none => false

/-- Whether a year has a leap day. -/
def isLeap (year : Nat) : Bool := (year % 4 == 0 && year % 100 != 0) || year % 400 == 0

/-- The number of days of a month. -/
def daysIn (year month : Nat) : Nat :=
  if month == 2 then (if isLeap year then 29 else 28)
  else if month == 4 || month == 6 || month == 9 || month == 11 then 30
  else 31

/-- Fails with a part that is out of range. -/
def inCalendar (condition : Bool) (part : CalendarPart) : Except Misfit Unit :=
  if condition then .ok () else .error (.calendar part)

/-- Accepts a date of the calendar. -/
def checkDate (year month day : Nat) : Except Misfit Unit := do
  inCalendar (1 ≤ year) (.year year)
  inCalendar (1 ≤ month && month ≤ 12) .month
  inCalendar (1 ≤ day && day ≤ daysIn year month) .day

/-- The offset from universal time in seconds, less than a day either way. -/
def offsetOf : Option (Bool × Nat × Nat) → Except Misfit Int
  | none => .ok 0
  | some (negative, hours, minutes) => do
    let size : Int := ((hours * 60 + minutes) * 60 : Nat)
    let offset := if negative then -size else size
    inCalendar (-86400 < offset && offset < 86400) (.offset offset)
    return offset

/-- The date or the moment of a timestamp. -/
def value (t : Timestamp) : Except Misfit Value := do
  let month := Decimal.valueOf t.month
  let day := Decimal.valueOf t.day
  match t.time with
  | none =>
    checkDate t.year month day
    return .date t.year month day
  | some time =>
    let offset ← time.zone.mapM offsetOf
    checkDate t.year month day
    inCalendar (time.hour ≤ 23) .hour
    inCalendar (time.minute ≤ 59) .minute
    inCalendar (time.second ≤ 59) .second
    let digits := time.fraction.take 6
    let micro := Decimal.valueOf (digits ++ List.replicate (6 - digits.length) '0')
    return .moment ⟨t.year, month, day, time.hour, time.minute, time.second, micro, offset⟩

end Timestamp
end Yaml
end LogBalancer
