import Circulation.Decimal
import Circulation.Scan

/-!
# Decimals as text

A decimal is written with its sign, its whole part and as many fraction digits as its scale says. It is read from that
form, where a zero takes no sign, with underscores between the digits and with an exponent too. Fraction digits that do
not fit are rounded half up by the first of them; the others have to be digits and do not count.
-/

namespace Circulation.Decimal

open Scan

/-- The text of a number with a sign, a magnitude and a scale. -/
def textOf (negative : Bool) (magnitude scale : Nat) : String :=
  let s := toString magnitude
  let cs := ("".pushn '0' (scale + 1 - s.length) ++ s).toList
  let (whole, fraction) := cs.splitAt (cs.length - scale)
  (if negative then "-" else "") ++ String.ofList whole ++
    (if scale = 0 then "" else "." ++ String.ofList fraction)

/-- The text of a decimal. -/
def toText (a : Decimal) : String :=
  textOf a.negative a.magnitude a.scale

/-- Whether the text of a decimal is short enough to be written. At a scale of at most 28 it always is. -/
def isWritable (a : Decimal) : Bool :=
  a.toText.length ≤ 32

/-- What has been read of a plain decimal: the digits so far, how many of them are fraction digits, and whether a
point and a digit have been seen. -/
structure Reading where
  value : Nat
  scale : Nat
  pointed : Bool
  begun : Bool

namespace Reading

/-- The decimal read, once there is a digit. -/
def finish (r : Reading) (negative : Bool) : Option Decimal :=
  if r.begun then ofParts? (signed negative r.value) r.scale else none

/-- Whether a character may stand among the digits after the one that decides the rounding. -/
def isIdle (c : Char) : Bool :=
  c.isDigit || c = '_'

/-- Ends the reading at a digit that no longer fits, with what follows it: five or more rounds up, and a mantissa that
overflows by it gives up its last fraction digit. -/
def roundAt (r : Reading) (negative : Bool) (digit : Nat) (rest : List Char) : Option Decimal :=
  if !rest.all isIdle then none
  else if digit < 5 then r.finish negative
  else if r.value + 1 < 2 ^ 96 then ofParts? (signed negative (r.value + 1)) r.scale
  else if r.scale = 0 then none
  else ofParts? (signed negative ((r.value + 5) / 10)) (r.scale - 1)

/-- Whether the digits but the last one stay well within 64 bits. -/
def isShort (r : Reading) : Bool :=
  r.value / 10 < (2 ^ 64 - 1) / 10 - 255

/-- Reads on through the characters of a plain decimal. An underscore right after the last fraction digit that fits
counts as a zero if the digits are few, and as nothing otherwise. -/
def readOn (negative : Bool) (r : Reading) : List Char → Option Decimal
  | [] => r.finish negative
  | c :: cs =>
    if r.pointed && 28 ≤ r.scale then
      match digit? c with
      | some d => r.roundAt negative d cs
      | none =>
        if c = '_' then
          if r.isShort then r.roundAt negative 0 cs else readOn negative r cs
        else none
    else
      match digit? c with
      | some d =>
        let value := 10 * r.value + d
        if value < 2 ^ 96 then
          readOn negative ⟨value, if r.pointed then r.scale + 1 else 0, r.pointed, true⟩ cs
        else if r.pointed then r.roundAt negative d cs
        else none
      | none =>
        if c = '.' ∧ !r.pointed then readOn negative ⟨r.value, r.scale, true, r.begun⟩ cs
        else if c = '_' ∧ r.begun then readOn negative r cs
        else none

end Reading

/-- Reads a decimal without an exponent. -/
def ofPlain? (cs : List Char) : Option Decimal :=
  let start : Reading := ⟨0, 0, false, false⟩
  match cs with
  | '-' :: cs => start.readOn true cs
  | '+' :: cs => start.readOn false cs
  | [] => none
  | cs => start.readOn false cs

/-- An exponent without its minus sign: digits after an optional plus, below two to the 32. -/
def readExponent? (cs : List Char) : Option Nat :=
  let run := match cs with
    | '+' :: run => run
    | run => run
  if run.isEmpty ∨ !run.all Char.isDigit ∨ 2 ^ 32 ≤ valueOf run then none else some (valueOf run)

/-- Moves the point of a decimal by an exponent of at most 28. A negative exponent adds to the scale, and fraction
digits beyond the 28th are rounded half up; a positive one takes from it and then adds zeros to a whole number. -/
def shift? (a : Decimal) (down : Bool) (exponent : Nat) : Option Decimal :=
  if 28 < exponent then none
  else if down then
    if a.scale + exponent ≤ 28 then a.atScale? (a.scale + exponent) else (a.rescale (28 - exponent)).atScale? 28
  else if exponent ≤ a.scale then a.atScale? (a.scale - exponent)
  else ofInt? (a.mantissa * 10 ^ (exponent - a.scale))

/-- Reads a decimal with an exponent. -/
def ofScientific? (cs : List Char) : Option Decimal :=
  let isMark (c : Char) : Bool := c = 'e' || c = 'E'
  match cs.dropWhile (!isMark ·) with
  | _ :: exponent => do
    let base ← ofPlain? (cs.takeWhile (!isMark ·))
    match exponent with
    | '-' :: exponent => shift? base true (← readExponent? exponent)
    | exponent => shift? base false (← readExponent? exponent)
  | [] => none

/-- The decimal that a text writes, plainly or with an exponent. -/
def ofText? (s : String) : Option Decimal :=
  ofPlain? s.toList <|> ofScientific? s.toList

end Circulation.Decimal
