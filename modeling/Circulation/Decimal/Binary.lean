import Circulation.Decimal

/-!
# Binary fractions

A finite binary floating-point number is a mantissa below two to the 53 times a power of two, with a sign.
`Binary.ofFloat` takes the magnitude of a number apart, and `Binary.nearest` finds the number nearest to a fraction of
naturals.
-/

namespace Circulation

/-- A fraction `mantissa · 2 ^ exponent`; `narrow` when its lower neighbour is only half as far as the upper. -/
structure Binary where
  mantissa : Nat
  exponent : Int
  narrow : Bool
  deriving DecidableEq, Repr

namespace Binary

/-- The magnitude of a finite number, from its bits. -/
def ofFloat (x : Float) : Binary :=
  let bits := x.toBits.toNat
  let field : Nat := bits / 2 ^ 52 % 2 ^ 11
  let fraction := bits % 2 ^ 52
  if field = 0 then ⟨fraction, -1074, false⟩ else ⟨2 ^ 52 + fraction, (field : Int) - 1075, fraction = 0 && 1 < field⟩

/-- Whether a number has its sign bit set. -/
def isNegative (x : Float) : Bool :=
  2 ^ 63 ≤ x.toBits.toNat

/-- A fraction of two naturals divided by a power of two. -/
def overPowerOfTwo (n d : Nat) (exponent : Int) : Nat × Nat :=
  if 0 ≤ exponent then (n, d * 2 ^ exponent.toNat) else (n * 2 ^ (-exponent).toNat, d)

/-- The power of two that the mantissa of a fraction counts: 53 bits above it the fraction is no longer, and no
smaller one than the least there is. -/
def unit (n d : Nat) : Int :=
  let low : Int := (n.log2 : Int) - d.log2 - 53
  let (a, b) := overPowerOfTwo n d low
  max (-1074) (if a / b < 2 ^ 53 then low else low + 1)

/-- The number nearest to a fraction of two naturals, a tie going to the even mantissa; infinite when out of range. -/
def nearest (n d : Nat) : Float :=
  if n = 0 then 0
  else
    let exponent := unit n d
    let (a, b) := overPowerOfTwo n d exponent
    let bits := (exponent + 1074).toNat * 2 ^ 52 + roundHalfEven a b
    Float.ofBits (UInt64.ofNat (min bits (2047 * 2 ^ 52)))

/-- A power of ten. -/
def powerOfTen (k : Nat) : Float :=
  nearest (10 ^ k) 1

/-- The number nearest to digits times a power of ten. Beyond four hundred places on either side it is infinite or
zero. -/
def ofDigits (digits : Nat) (exponent : Int) : Float :=
  let places : Int := (toString digits).length + exponent
  if digits = 0 ∨ places < -400 then 0
  else if 400 < places then Float.ofBits (UInt64.ofNat (2047 * 2 ^ 52))
  else if 0 ≤ exponent then nearest (digits * 10 ^ exponent.toNat) 1
  else nearest digits (10 ^ (-exponent).toNat)

/-- The whole number nearest to a finite number, a half going away from zero. -/
def round (x : Float) : Int :=
  let b := ofFloat x
  let whole :=
    if 0 ≤ b.exponent then b.mantissa * 2 ^ b.exponent.toNat
    else (2 * b.mantissa + 2 ^ (-b.exponent).toNat) / (2 * 2 ^ (-b.exponent).toNat)
  if isNegative x then -(whole : Int) else whole

end Binary

end Circulation
