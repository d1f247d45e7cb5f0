import Circulation.Decimal.Binary
import Circulation.Decimal.Text

/-!
# The shortest text of a binary fraction

A binary floating-point number stands for every decimal in an interval around it. Its text is the shortest decimal of
that interval, the nearest one if there are several, the larger one of two that are equally near. It is written without
an exponent. Settings and documents carry such numbers, and a decimal or a text is made of them through this form.
-/

namespace Circulation.Shortest

/-- A fraction of two naturals that a power of ten divides or multiplies. -/
def scaled (n d : Nat) (exponent : Int) : Nat × Nat :=
  if 0 ≤ exponent then (n, d * 10 ^ exponent.toNat) else (n * 10 ^ (-exponent).toNat, d)

/-- The point of the grid of a power of ten that is nearest to the number and stands for it, if one of its two
neighbours on that grid does; of two that are equally near, the larger one. -/
def onGrid? (b : Binary) (grid : Int) : Option Nat :=
  let (n, d) := if 0 ≤ b.exponent then (2 ^ b.exponent.toNat, 4) else (1, 4 * 2 ^ (-b.exponent).toNat)
  let (n, d) := scaled n d grid
  let value := 4 * b.mantissa * n
  let low := (4 * b.mantissa - (if b.narrow then 1 else 2)) * n
  let high := (4 * b.mantissa + 2) * n
  let within (k : Nat) : Bool :=
    if b.mantissa % 2 = 0 then low ≤ k * d && k * d ≤ high else low < k * d && k * d < high
  let below := value / d
  match within below, within (below + 1) with
  | true, true => some (if 2 * (value - below * d) < d then below else below + 1)
  | true, false => some below
  | false, true => some (below + 1)
  | false, false => none

/-- The power of ten of the leading digit of a positive binary fraction. -/
def leading (b : Binary) : Int :=
  if 0 ≤ b.exponent then
    (toString (b.mantissa * 2 ^ b.exponent.toNat)).length - 1
  else
    let tens : Nat := 340
    (toString (b.mantissa * 10 ^ tens / 2 ^ (-b.exponent).toNat)).length - 1 - tens

/-- The shortest digits of a positive binary fraction and the power of ten of the last of them. -/
def digits (b : Binary) : Nat × Int :=
  let top := leading b
  ((List.range 17).findSome? fun (n : Nat) => (onGrid? b (top - n)).map fun k => (k, top - n)).getD (0, 0)

/-- Digits and a power of ten, written without an exponent. -/
def positional (digits : Nat) (exponent : Int) : String :=
  let s := toString digits
  if 0 ≤ exponent then s.pushn '0' exponent.toNat
  else
    let places := (-exponent).toNat
    let cs := ("".pushn '0' (places + 1 - s.length) ++ s).toList
    String.ofList (cs.take (cs.length - places)) ++ "." ++ String.ofList (cs.drop (cs.length - places))

/-- The digits without trailing zeros, the power of ten raised accordingly. -/
def trimmed : Nat → Nat → Int → Nat × Int
  | 0, digits, exponent => (digits, exponent)
  | fuel + 1, digits, exponent =>
    if digits ≠ 0 ∧ digits % 10 = 0 then trimmed fuel (digits / 10) (exponent + 1) else (digits, exponent)

/-- The shortest text of a binary floating-point number. -/
def text (x : Float) : String :=
  if x.isNaN then "NaN"
  else
    let sign := if Binary.isNegative x then "-" else ""
    if x.isInf then sign ++ "inf"
    else
      let b := Binary.ofFloat x
      if b.mantissa = 0 then sign ++ "0"
      else
        let (d, e) := digits b
        let (d, e) := trimmed 17 d e
        sign ++ positional d e

end Circulation.Shortest
