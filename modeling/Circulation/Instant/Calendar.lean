/-!
# The calendar

Days of the proleptic Gregorian calendar, counted from 1970-01-01. `Calendar.dayNumber` counts the days up to a date
and `Calendar.dateOf` finds the date of a day number, so a date and its number stand for each other.
-/

namespace Circulation

/-- A day of the Gregorian calendar, which is carried back before its introduction and has a year zero. -/
structure Date where
  year : Int
  month : Nat
  day : Nat
  deriving DecidableEq, Repr

namespace Calendar

/-- Every fourth year is a leap year, save the centuries that 400 does not divide. -/
def isLeapYear (y : Int) : Bool :=
  y % 4 = 0 && (y % 100 ≠ 0 || y % 400 = 0)

/-- The number of days of a month, zero for a month there is not. -/
def daysInMonth (y : Int) : Nat → Nat
  | 1 | 3 | 5 | 7 | 8 | 10 | 12 => 31
  | 4 | 6 | 9 | 11 => 30
  | 2 => if isLeapYear y then 29 else 28
  | _ => 0

/-- Whether a date is a day of the calendar. -/
def isValid (d : Date) : Bool :=
  1 ≤ d.day && d.day ≤ daysInMonth d.year d.month

/-- The days from 1970-01-01 to a date. Years are counted from March, so that a leap day ends its year. -/
def dayNumber (d : Date) : Int :=
  let y := if d.month ≤ 2 then d.year - 1 else d.year
  let month : Int := (d.month + 9) % 12
  let dayOfYear := (153 * month + 2) / 5 + d.day - 1
  y * 365 + y / 4 - y / 100 + y / 400 + dayOfYear - 719_468

/-- The date of a day number. -/
def dateOf (n : Int) : Date :=
  let z := n + 719_468
  let era := z / 146_097
  let dayOfEra := z % 146_097
  let yearOfEra := (dayOfEra - dayOfEra / 1_460 + dayOfEra / 36_524 - dayOfEra / 146_096) / 365
  let dayOfYear := dayOfEra - (365 * yearOfEra + yearOfEra / 4 - yearOfEra / 100)
  let month := (5 * dayOfYear + 2) / 153
  let day := dayOfYear - (153 * month + 2) / 5 + 1
  let year := yearOfEra + era * 400
  if month < 10 then
    ⟨year, (month + 3).toNat, day.toNat⟩
  else
    ⟨year + 1, (month - 9).toNat, day.toNat⟩

end Calendar

end Circulation
