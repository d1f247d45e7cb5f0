import Circulation.Decimal.Text
import Circulation.Refusal

/-!
# Numbers of a database

A database keeps numbers of any length, with a scale. It sends one as digits of base ten thousand, each with its weight,
and a decimal is read from them by adding up the digits times the powers of their weights. That fails where a power or
a sum is no decimal, and it overflows where a digit times its power is none.
-/

namespace Circulation.Sql

/-- A number of a database: `magnitude`, below zero if `negative`, divided by the power of ten of `scale`. -/
structure Numeric where
  negative : Bool
  magnitude : Nat
  scale : Nat
  deriving DecidableEq, Inhabited

/-- What keeps a value from being read: the value itself, or arithmetic on the way. -/
inductive Misread where
  | unreadable (why : Unreadable)
  | overflowed (what : Overflow)
  deriving DecidableEq, Repr

namespace Numeric

/-- The number that a decimal is. -/
def ofDecimal (d : Decimal) : Numeric :=
  ⟨d.negative, d.magnitude, d.scale⟩

/-- The number that an integer is. -/
def ofInt (n : Int) : Numeric :=
  ⟨n < 0, n.natAbs, 0⟩

/-- Reads a number of any length: digits, with a point between or beside them if there is one. -/
def ofPlain? (cs : List Char) : Option Numeric :=
  let (negative, cs) := match cs with
    | '-' :: cs => (true, cs)
    | '+' :: cs => (false, cs)
    | cs => (false, cs)
  let (whole, cs) := Scan.digits cs
  let (fraction, cs) := match cs with
    | '.' :: cs => Scan.digits cs
    | cs => ([], cs)
  if (whole ++ fraction).isEmpty ∨ !cs.isEmpty then none
  else some ⟨negative, Scan.valueOf (whole ++ fraction), fraction.length⟩

/-- The number that a text writes; a text in another form than digits is read as a decimal. -/
def ofText? (s : String) : Option Numeric :=
  ofPlain? s.toList <|> (Decimal.ofText? s).map ofDecimal

/-- The text of a number. -/
def toText (n : Numeric) : String :=
  Decimal.textOf n.negative n.magnitude n.scale

/-- The number as the database keeps it: a zero has no scale and no sign. -/
def stored (n : Numeric) : Numeric :=
  if n.magnitude = 0 then ⟨false, 0, 0⟩ else n

/-- The digits of a natural in base ten thousand that are not zero, each with its weight, in front of others. The last
digit has the given weight. -/
def digitsFrom (n : Nat) (weight : Int) (after : List (Nat × Int)) : List (Nat × Int) :=
  if n = 0 then after
  else digitsFrom (n / 10000) (weight + 1) (if n % 10000 = 0 then after else (n % 10000, weight) :: after)
termination_by n
decreasing_by omega

/-- The digits of a number in base ten thousand that are not zero, the one of the largest weight first. -/
def digits (n : Numeric) : List (Nat × Int) :=
  let groups := (n.scale + 3) / 4
  digitsFrom (n.magnitude * 10 ^ (4 * groups - n.scale)) (-(groups : Int)) []

/-- The power of ten thousand with a weight, if it is a decimal. -/
def power? (weight : Int) : Option Decimal :=
  if 0 ≤ weight then Decimal.ofParts? (10 ^ (4 * weight.toNat)) 0 else Decimal.ofParts? 1 (4 * (-weight).toNat)

/-- That a number is no decimal. -/
def unrepresentable : Misread :=
  .unreadable .unrepresentable

/-- A sum with one more digit of a weight. -/
def addDigit (sum : Decimal) (digit : Nat × Int) : Except Misread Decimal :=
  match power? digit.2 with
  | none => .error unrepresentable
  | some power =>
    match (Decimal.ofInt? digit.1).bind (Decimal.mul? · power) with
    | none => .error (.overflowed .product)
    | some part =>
      match sum.add? part with
      | none => .error unrepresentable
      | some sum => .ok sum

/-- The decimal that a number is read as, at the number's scale as far as its digits allow. -/
def toDecimal (n : Numeric) : Except Misread Decimal :=
  (n.digits.foldlM addDigit .zero).map fun d =>
    if n.magnitude = 0 then d else ({ d with negative := n.negative } : Decimal).rescale n.scale

end Numeric

end Circulation.Sql
