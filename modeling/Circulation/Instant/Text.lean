import Circulation.Instant
import Circulation.Instant.Calendar
import Circulation.Scan

/-!
# Instants as text

Instants are read in the form of RFC 3339, with any offset from UTC, and written in UTC. Reading is lenient where that
form is: blanks between the parts, one-digit months and days, a blank or a small `t` between date and time. Writing
uses the fewest of no, three, six or nine fraction digits that hold the fraction.
-/

namespace Circulation

namespace Instant

open Scan

/-- A year: up to four digits, or a sign and any number of them. -/
def readYear (cs : List Char) : Option (Int × List Char) :=
  let signed (sign : Int) (cs : List Char) : Option (Int × List Char) :=
    let (run, rest) := digits cs
    if run.isEmpty then none else some (sign * valueOf run, rest)
  match cs with
  | '-' :: cs => signed (-1) cs
  | '+' :: cs => signed 1 cs
  | cs => (number 4 cs).map fun (n, rest) => ((n : Int), rest)

/-- A date: year, month and day with hyphens, blanks allowed around them. -/
def readDate (cs : List Char) : Option (Date × List Char) := do
  let (year, cs) ← readYear (skipBlanks cs)
  let cs ← skip '-' (skipBlanks cs)
  let (month, cs) ← number 2 (skipBlanks cs)
  let cs ← skip '-' (skipBlanks cs)
  let (day, cs) ← number 2 (skipBlanks cs)
  return (⟨year, month, day⟩, cs)

/-- A fraction of a second in nanoseconds; digits after the ninth are cut. Without a point the fraction is zero. -/
def readFraction : List Char → Option (Nat × List Char)
  | '.' :: cs =>
    let (run, rest) := digits cs
    let kept := run.take 9
    if run.isEmpty then none else some (valueOf kept * 10 ^ (9 - kept.length), rest)
  | cs => some (0, cs)

/-- A time of day as its second and nanosecond. Second 60 is the leap second that follows second 59. -/
def readTime (cs : List Char) : Option ((Nat × Nat) × List Char) := do
  let (hour, cs) ← number 2 (skipBlanks cs)
  let cs ← skip ':' (skipBlanks cs)
  let (minute, cs) ← number 2 (skipBlanks cs)
  let cs ← skip ':' (skipBlanks cs)
  let (second, cs) ← number 2 (skipBlanks cs)
  let (fraction, cs) ← readFraction cs
  if 23 < hour ∨ 59 < minute ∨ 60 < second then
    none
  else
    let leap := if second = 60 then 1 else 0
    return ((hour * 3600 + minute * 60 + second - leap, leap * 1_000_000_000 + fraction), cs)

/-- The sign of an offset: plus, hyphen or minus. -/
def readSign : List Char → Option (Int × List Char)
  | '+' :: cs => some (1, cs)
  | '-' :: cs => some (-1, cs)
  | '\u2212' :: cs => some (-1, cs)
  | _ => none

/-- Exactly two digits. -/
def readPair : List Char → Option (Nat × List Char)
  | a :: b :: cs => do return (10 * (← digit? a) + (← digit? b), cs)
  | _ => none

/-- An offset from UTC in seconds: `Z`, `UTC`, or a sign, hours and minutes. -/
def readOffset (cs : List Char) : Option (Int × List Char) :=
  if (cs.take 3).map Char.toUpper = ['U', 'T', 'C'] then
    some (0, cs.drop 3)
  else
    match cs with
    | 'Z' :: cs => some (0, cs)
    | 'z' :: cs => some (0, cs)
    | cs => do
      let (sign, cs) ← readSign cs
      let (hours, cs) ← readPair cs
      let (minutes, cs) ← readPair (cs.dropWhile fun c => c = ':' || isBlank c)
      if 23 < hours ∨ 59 < minutes then none else return (sign * (hours * 3600 + minutes * 60), cs)

/-- The instant that a text of the form of RFC 3339 names. -/
def ofText? (s : String) : Option Instant := do
  let (date, cs) ← readDate s.toList
  let cs ← match cs with
    | c :: cs => if c = 'T' ∨ c = 't' ∨ c = ' ' then some cs else none
    | [] => none
  let ((second, nano), cs) ← readTime cs
  let (offset, cs) ← readOffset (skipBlanks cs)
  if !(skipBlanks cs).isEmpty || !Calendar.isValid date then
    none
  else
    let here ← ofParts? (Calendar.dayNumber date * 86_400 + second) nano
    ofParts? (here.second - offset) nano

/-- A number in decimal digits, led by zeros up to a width. -/
def padded (width n : Nat) : String :=
  let s := toString n
  "".pushn '0' (width - s.length) ++ s

/-- A year in four digits or, outside the years 0 to 9999, with a sign and at least four. -/
def yearText (y : Int) : String :=
  if 0 ≤ y ∧ y ≤ 9999 then padded 4 y.toNat
  else (if y < 0 then "-" else "+") ++ padded 4 y.natAbs

/-- A fraction of a second in the fewest of no, three, six or nine digits. -/
def fractionText (nano : Nat) : String :=
  if nano = 0 then ""
  else if nano % 1_000_000 = 0 then "." ++ padded 3 (nano / 1_000_000)
  else if nano % 1_000 = 0 then "." ++ padded 6 (nano / 1_000)
  else "." ++ padded 9 nano

/-- The text of an instant, in UTC. -/
def toText (t : Instant) : String :=
  let date := Calendar.dateOf (t.second / 86_400)
  let second := t.secondOfDay.toNat
  let leap := if t.isLeap then 1 else 0
  yearText date.year ++ "-" ++ padded 2 date.month ++ "-" ++ padded 2 date.day ++ "T" ++
    padded 2 (second / 3600) ++ ":" ++ padded 2 (second / 60 % 60) ++ ":" ++ padded 2 (second % 60 + leap) ++
    fractionText (t.nano % 1_000_000_000) ++ "Z"

end Instant

end Circulation
