/-!
# Decimals

Amounts of money and daily rates are decimals: a sign, a magnitude of at most 96 bits and the number of its digits that
stand after the point. Where one is read from a text or computed that number is at most 28; only the zeros that
`rescale` adds may go beyond. A result that would need more bits gives up its last fraction digits, rounded half to
even, and the operation fails when the whole part alone does not fit. Trailing zeros count: `1.5` and `1.50` have the
same value and different scales. Rounding to fewer places and the operations leave a zero without a sign; moving to
another scale keeps the sign, even that of a number of which nothing but zeros is left.
-/

-- A power of numbers is the one of the core library, also where another library brings a power of its own.
attribute [instance (high)] instPowNat instNatPowNat Int.instNatPow
attribute [default_instance high] instPowNat

namespace Circulation

/-- The quotient of two naturals rounded to the nearest, a tie going to the even neighbour. -/
def roundHalfEven (m d : Nat) : Nat :=
  if d < 2 * (m % d) ∨ (2 * (m % d) = d ∧ m / d % 2 = 1) then m / d + 1 else m / d

/-- Rounding a quotient by two or more never exceeds the dividend. -/
theorem roundHalfEven_le (m d : Nat) (hd : 2 ≤ d) : roundHalfEven m d ≤ m := by
  have h := Nat.div_add_mod m d
  have hle : m / d ≤ m := Nat.div_le_self m d
  unfold roundHalfEven
  split
  · have hr : 0 < m % d := by omega
    have : 2 * (m / d) ≤ d * (m / d) := Nat.mul_le_mul_right _ hd
    omega
  · exact hle

/-- The quotient of two naturals rounded to the nearest, a tie going up. -/
def roundHalfUp (m d : Nat) : Nat :=
  (2 * m + d) / (2 * d)

/-- Rounding a quotient by two or more never exceeds the dividend, a tie going up either. -/
theorem roundHalfUp_le (m d : Nat) (hd : 2 ≤ d) : roundHalfUp m d ≤ m := by
  have h : 2 * m ≤ d * m := Nat.mul_le_mul_right m hd
  have hlt : 2 * m + d < 2 * d * (m + 1) := by
    rw [Nat.mul_add, Nat.mul_one, Nat.mul_assoc]
    omega
  exact Nat.le_of_lt_succ (Nat.div_lt_of_lt_mul hlt)

/-- A decimal number: `magnitude`, below zero if `negative`, divided by the power of ten of `scale`. -/
structure Decimal where
  negative : Bool
  magnitude : Nat
  scale : Nat
  fits : magnitude < 2 ^ 96
  deriving DecidableEq

namespace Decimal

/-- Zero, with no digit after the point. -/
def zero : Decimal := ⟨false, 0, 0, by decide⟩

instance : Inhabited Decimal := ⟨zero⟩

/-- The decimal with a mantissa and a scale of at most 28, if it fits. A zero made so has no sign. -/
def ofParts? (mantissa : Int) (scale : Nat) : Option Decimal :=
  if h : mantissa.natAbs < 2 ^ 96 ∧ scale ≤ 28 then some ⟨mantissa < 0, mantissa.natAbs, scale, h.1⟩ else none

/-- A magnitude with a sign. -/
def signed (negative : Bool) (magnitude : Nat) : Int :=
  if negative then -(magnitude : Int) else magnitude

/-- The integer that the power of ten of the scale divides. -/
def mantissa (a : Decimal) : Int :=
  signed a.negative a.magnitude

/-- A sign does not change the magnitude. -/
theorem natAbs_signed (b : Bool) (m : Nat) : (signed b m).natAbs = m := by
  cases b <;> simp [signed]

/-- A mantissa without its sign is the magnitude. -/
theorem natAbs_mantissa (a : Decimal) : a.mantissa.natAbs = a.magnitude :=
  natAbs_signed a.negative a.magnitude

/-- The decimal nearest to a mantissa and a scale: as few of the last fraction digits are rounded away as it takes to
fit. -/
def nearest? (mantissa : Int) (scale : Nat) : Option Decimal :=
  (List.range (scale + 1)).findSome? fun dropped =>
    ofParts? (signed (mantissa < 0) (roundHalfEven mantissa.natAbs (10 ^ dropped))) (scale - dropped)

/-- A whole number, if it fits. -/
def ofInt? (n : Int) : Option Decimal :=
  ofParts? n 0

/-- The product. Its scale is the sum of the scales, and a product with a factor zero is plain zero. -/
def mul? (a b : Decimal) : Option Decimal :=
  if a.magnitude = 0 ∨ b.magnitude = 0 then some zero
  else nearest? (a.mantissa * b.mantissa) (a.scale + b.scale)

/-- The sum, at the larger of the two scales. A summand zero leaves the other one as it is. -/
def add? (a b : Decimal) : Option Decimal :=
  if a.magnitude = 0 then some b
  else if b.magnitude = 0 then some a
  else
    let scale := max a.scale b.scale
    nearest? (a.mantissa * 10 ^ (scale - a.scale) + b.mantissa * 10 ^ (scale - b.scale)) scale

/-- The sum of a list, taken from the left. -/
def sum? (ds : List Decimal) : Option Decimal :=
  ds.foldlM add? zero

/-- A power of ten with a positive exponent is two or more. -/
theorem two_le_ten_pow (k : Nat) (h : 0 < k) : 2 ≤ 10 ^ k := by
  have : 10 ^ 1 ≤ 10 ^ k := Nat.pow_le_pow_right (by decide) h
  omega

/-- The decimal rounded half to even to at most `places` digits after the point; no digit is ever added, and a zero that
is left has no sign. -/
def round (a : Decimal) (places : Nat) : Decimal :=
  if h : a.scale ≤ places then a
  else
    { negative := a.negative && roundHalfEven a.magnitude (10 ^ (a.scale - places)) ≠ 0
      magnitude := roundHalfEven a.magnitude (10 ^ (a.scale - places))
      scale := places
      fits := Nat.lt_of_le_of_lt (roundHalfEven_le _ _ (two_le_ten_pow _ (by omega))) a.fits }

/-- The decimal with so many more zeros after the point, as far as they fit. -/
def extend (a : Decimal) : Nat → Decimal
  | 0 => a
  | n + 1 =>
    if h : 10 * a.magnitude < 2 ^ 96 then
      extend { a with magnitude := 10 * a.magnitude, scale := a.scale + 1, fits := h } n
    else
      a

/-- The decimal at another scale. Digits that go are rounded, a half away from zero; digits that come are zeros, as many
as the magnitude has room for, and up to the 28th place where it is zero. The sign stays. -/
def rescale (a : Decimal) (places : Nat) : Decimal :=
  if a.magnitude = 0 then { a with scale := min places 28 }
  else if h : a.scale ≤ places then a.extend (places - a.scale)
  else
    { a with
      magnitude := roundHalfUp a.magnitude (10 ^ (a.scale - places))
      scale := places
      fits := Nat.lt_of_le_of_lt (roundHalfUp_le _ _ (two_le_ten_pow _ (by omega))) a.fits }

/-- The same digits at another scale of at most 28. -/
def atScale? (a : Decimal) (scale : Nat) : Option Decimal :=
  if scale ≤ 28 then some { a with scale := scale } else none

/-- Whether the decimal has the sign of those below zero. -/
def isNegative (a : Decimal) : Bool :=
  a.negative

end Decimal

end Circulation
