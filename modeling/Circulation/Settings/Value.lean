import Circulation.Json

/-!
# Values of settings

The value of a setting is read leniently. A number is read from a truth value and from a text too, a truth value from
a number and from a few words, a text from whatever has a plain text. `Setting.ofText` says what the text of an
environment variable stands for.
-/

namespace Circulation.Setting

open Scan

/-- The sign of a number, plus unless a minus says otherwise, and what follows it. -/
def unsigned : List Char → Bool × List Char
  | '-' :: cs => (true, cs)
  | '+' :: cs => (false, cs)
  | cs => (false, cs)

/-- A number in decimal digits. -/
def natural? (cs : List Char) : Option Nat :=
  if cs.isEmpty ∨ !cs.all Char.isDigit then none else some (valueOf cs)

/-- An integer with an optional sign, if it fits 64 bits. -/
def signed64? (s : String) : Option Int := do
  let (negative, cs) := unsigned s.toList
  let n ← natural? cs
  let n : Int := if negative then -(n : Int) else n
  if -2 ^ 63 ≤ n ∧ n < 2 ^ 63 then return n else none

/-- An integer with an optional plus, if it fits 64 bits. -/
def unsigned64? (s : String) : Option Int := do
  let n ← natural? (match s.toList with
    | '+' :: cs => cs
    | cs => cs)
  if n < 2 ^ 64 then return n else none

/-- The exponent of a number, zero if there is none. -/
def exponent? : List Char → Option Int
  | [] => some 0
  | c :: cs =>
    if c = 'e' ∨ c = 'E' then
      let (negative, cs) := unsigned cs
      (natural? cs).map fun n => if negative then -(n : Int) else n
    else none

/-- A binary fraction without its sign: digits with an optional point and an optional exponent, or a name. -/
def magnitude? (cs : List Char) : Option Float :=
  let name := (String.ofList cs).toLower
  if name = "inf" ∨ name = "infinity" then some (1 / 0)
  else if name = "nan" then some (0 / 0)
  else do
    let (whole, cs) := digits cs
    let (fraction, cs) := match cs with
      | '.' :: cs => digits cs
      | cs => ([], cs)
    if (whole ++ fraction).isEmpty then none
    return Binary.ofDigits (valueOf (whole ++ fraction)) ((← exponent? cs) - fraction.length)

/-- A binary fraction. -/
def real? (s : String) : Option Float :=
  let (negative, cs) := unsigned s.toList
  (magnitude? cs).map fun x => if negative then -x else x

/-- What the text of an environment variable stands for: a truth value, an integer, a binary fraction, or itself. -/
def ofText (s : String) : Json :=
  match s.toLower with
  | "true" => .bool true
  | "false" => .bool false
  | _ =>
    match signed64? s, real? s with
    | some n, _ => .int n
    | none, some x => .real x
    | none, none => .str s

/-- A value with the integers that do not fit 64 bits with a sign as binary fractions. -/
def plain : Json → Json
  | .int n => if -2 ^ 63 ≤ n ∧ n < 2 ^ 63 then .int n else .real (Binary.nearest n.toNat 1)
  | j => j

/-- The whole number nearest to a binary fraction, drawn into a range; a number that is none counts as zero. -/
def roundInto (low high : Int) (x : Float) : Int :=
  if x.isNaN then 0 else max low (min high (Binary.round x))

/-- The truth value that one of the words for it stands for. -/
def ofWord? : String → Option Bool
  | "true" => some true
  | "on" => some true
  | "yes" => some true
  | "false" => some false
  | "off" => some false
  | "no" => some false
  | _ => none

/-- One for true and zero for false. -/
def bit (b : Bool) : Int :=
  if b then 1 else 0

/-- An integer of 64 bits with a sign. -/
def toInt64? (j : Json) : Option Int :=
  match plain j with
  | .int n => some n
  | .bool b => some (bit b)
  | .real x => some (roundInto (-2 ^ 63) (2 ^ 63 - 1) x)
  | .str s => (ofWord? s.toLower).map bit <|> signed64? s
  | _ => none

/-- An integer of 64 bits without a sign. -/
def toUInt64? (j : Json) : Option Int :=
  match plain j with
  | .int n => if 0 ≤ n then some n else none
  | .bool b => some (bit b)
  | .real x => some (roundInto 0 (2 ^ 64 - 1) x)
  | .str s => (ofWord? s.toLower).map bit <|> unsigned64? s
  | _ => none

/-- An integer of 32 bits with a sign. -/
def toInt32? (j : Json) : Option Int :=
  (toInt64? j).filter fun n => -2 ^ 31 ≤ n && n < 2 ^ 31

/-- An integer of 32 bits without a sign. -/
def toUInt32? (j : Json) : Option Int :=
  (toUInt64? j).filter (· < 2 ^ 32)

/-- A truth value. -/
def toBool? (j : Json) : Option Bool :=
  match plain j with
  | .bool b => some b
  | .int n => some (n ≠ 0)
  | .real x => some (x != 0)
  | .str s =>
    match s.toLower with
    | "1" => some true
    | "0" => some false
    | w => ofWord? w
  | _ => none

/-- A text. -/
def toStr? (j : Json) : Option String :=
  match plain j with
  | .str s => some s
  | .bool b => some (if b then "true" else "false")
  | .int n => some (toString n)
  | .real x => some (Shortest.text x)
  | _ => none

/-- A decimal, from a text or a number. -/
def toDecimal? (j : Json) : Option Decimal :=
  (plain j).toDecimal?

end Circulation.Setting
