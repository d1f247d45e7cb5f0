import Circulation.Json

/-!
# JSON as text

`Json.ofText?` reads a document and `Json.toText` writes one on a single line. Arrays and objects may be nested 127
deep. An object that has a field twice keeps the later one. A number that is not kept as an integer is made of its
leading digits, as far as they stay below two to the 64, and a power of ten: one conversion, then one product or
quotient of binary fractions.
-/

namespace Circulation.Json

open Scan

/-- Whether a character may stand between the parts of a document. -/
def isSpace (c : Char) : Bool :=
  c = ' ' || c = '\n' || c = '\t' || c = '\r'

/-- The text after its leading spaces. -/
def skipSpaces (cs : List Char) : List Char :=
  cs.dropWhile isSpace

/-- Goes on with the digits of a number while the value stays below two to the 64; answers the value and how many
digits were taken. -/
def leadingDigits (value : Nat) : List Char → Nat × Nat
  | [] => (value, 0)
  | c :: cs =>
    let next := 10 * value + (c.toNat - '0'.toNat)
    if next < 2 ^ 64 then
      let (value, taken) := leadingDigits next cs
      (value, taken + 1)
    else
      (value, 0)

/-- A binary fraction divided by a power of ten, in steps of at most 308 zeros. -/
def overPowerOfTen (x : Float) (zeros : Nat) : Float :=
  if zeros ≤ 308 then x / Binary.powerOfTen zeros
  else if x == 0 then x
  else overPowerOfTen (x / Binary.powerOfTen 308) (zeros - 308)
termination_by zeros

/-- The binary fraction of digits and a power of ten, unless it is out of range. -/
def realOf? (negative : Bool) (digits : Nat) (exponent : Int) : Option Json :=
  let x := (UInt64.ofNat digits).toFloat
  let x :=
    if exponent < 0 then overPowerOfTen x (-exponent).toNat
    else if exponent ≤ 308 then x * Binary.powerOfTen exponent.toNat
    else if digits = 0 then x
    else x / 0
  if x.isInf then none else some (.real (if negative then -x else x))

/-- The exponent of a number, after its mark. -/
def readExponent : List Char → Option (Int × List Char)
  | '-' :: cs => let (run, rest) := digits cs; if run.isEmpty then none else some (-(valueOf run : Int), rest)
  | '+' :: cs => let (run, rest) := digits cs; if run.isEmpty then none else some (valueOf run, rest)
  | cs => let (run, rest) := digits cs; if run.isEmpty then none else some (valueOf run, rest)

/-- The fraction of a number, if it has one: its digits. -/
def readFraction : List Char → Option (Option (List Char) × List Char)
  | '.' :: cs => let (run, rest) := digits cs; if run.isEmpty then none else some (some run, rest)
  | cs => some (none, cs)

/-- A number. An integer has no leading zero, and minus zero is a binary fraction. -/
def readNumber (cs : List Char) : Option (Json × List Char) := do
  let (negative, cs) := match cs with
    | '-' :: cs => (true, cs)
    | cs => (false, cs)
  let (whole, cs) := digits cs
  if whole.isEmpty || (whole.head? = some '0' && 1 < whole.length) then none
  let (value, taken) := leadingDigits 0 whole
  let exponent : Int := whole.length - taken
  let (fraction, cs) ← readFraction cs
  let (value, exponent) := match fraction with
    | some run => let (value, taken) := leadingDigits value run; (value, exponent - taken)
    | none => (value, exponent)
  let real (shift : Int) (rest : List Char) : Option (Json × List Char) :=
    (realOf? negative value (exponent + shift)).map (·, rest)
  match cs with
  | 'e' :: cs => let (shift, cs) ← readExponent cs; real shift cs
  | 'E' :: cs => let (shift, cs) ← readExponent cs; real shift cs
  | cs =>
    if fraction.isSome || 0 < exponent || (negative && (value = 0 || 2 ^ 63 < value)) then real 0 cs
    else some (.int (if negative then -(value : Int) else value), cs)

/-- The value of a hexadecimal digit. -/
def hexDigit? (c : Char) : Option Nat :=
  if c.isDigit then some (c.toNat - '0'.toNat)
  else if 'a' ≤ c ∧ c ≤ 'f' then some (c.toNat - 'a'.toNat + 10)
  else if 'A' ≤ c ∧ c ≤ 'F' then some (c.toNat - 'A'.toNat + 10)
  else none

/-- Four hexadecimal digits. -/
def readUnit : List Char → Option (Nat × List Char)
  | a :: b :: c :: d :: cs => do
    return ((((← hexDigit? a) * 16 + (← hexDigit? b)) * 16 + (← hexDigit? c)) * 16 + (← hexDigit? d), cs)
  | _ => none

/-- The character of an escape by number, which takes two units above 65535. -/
def readCodePoint (cs : List Char) : Option (Char × List Char) := do
  let (high, cs) ← readUnit cs
  if 0xD800 ≤ high ∧ high < 0xDC00 then
    match cs with
    | '\\' :: 'u' :: cs =>
      let (low, cs) ← readUnit cs
      if 0xDC00 ≤ low ∧ low < 0xE000 then
        return (Char.ofNat (0x10000 + (high - 0xD800) * 0x400 + (low - 0xDC00)), cs)
      else none
    | _ => none
  else if 0xDC00 ≤ high ∧ high < 0xE000 then none
  else return (Char.ofNat high, cs)

/-- The character of an escape, after the backslash. -/
def readEscape : List Char → Option (Char × List Char)
  | '"' :: cs => some ('"', cs)
  | '\\' :: cs => some ('\\', cs)
  | '/' :: cs => some ('/', cs)
  | 'b' :: cs => some ('\x08', cs)
  | 'f' :: cs => some ('\x0c', cs)
  | 'n' :: cs => some ('\n', cs)
  | 'r' :: cs => some ('\r', cs)
  | 't' :: cs => some ('\t', cs)
  | 'u' :: cs => readCodePoint cs
  | _ => none

/-- The rest of a text up to its closing quote, in at most so many steps; `done` holds what was read, last first. -/
def readString (fuel : Nat) (done : List Char) (cs : List Char) : Option (String × List Char) :=
  match fuel, cs with
  | _, '"' :: cs => some (String.ofList done.reverse, cs)
  | fuel + 1, '\\' :: cs => do
    let (c, cs) ← readEscape cs
    readString fuel (c :: done) cs
  | fuel + 1, c :: cs => if c.toNat < 0x20 then none else readString fuel (c :: done) cs
  | _, _ => none

/-- Puts a field into an object, in place of any field of its name. -/
def putField (fields : List (String × Json)) (name : String) (value : Json) : List (String × Json) :=
  fields.filter (·.1 ≠ name) ++ [(name, value)]

mutual

/-- A value, nested at most `depth` deep, read in at most `fuel` steps. -/
def readValue (depth : Nat) : (fuel : Nat) → List Char → Option (Json × List Char)
  | 0, _ => none
  | fuel + 1, cs =>
    match skipSpaces cs with
    | 'n' :: 'u' :: 'l' :: 'l' :: cs => some (.null, cs)
    | 't' :: 'r' :: 'u' :: 'e' :: cs => some (.bool true, cs)
    | 'f' :: 'a' :: 'l' :: 's' :: 'e' :: cs => some (.bool false, cs)
    | '"' :: cs => (readString cs.length [] cs).map fun (s, cs) => (.str s, cs)
    | '[' :: cs =>
      if depth = 0 then none
      else
        match skipSpaces cs with
        | ']' :: cs => some (.arr [], cs)
        | cs => readItems (depth - 1) fuel [] cs
    | '{' :: cs =>
      if depth = 0 then none
      else
        match skipSpaces cs with
        | '}' :: cs => some (.obj [], cs)
        | cs => readFields (depth - 1) fuel [] cs
    | cs => readNumber cs

/-- The items of an array that is not empty, up to its closing bracket. -/
def readItems (depth : Nat) : (fuel : Nat) → List Json → List Char → Option (Json × List Char)
  | 0, _, _ => none
  | fuel + 1, done, cs => do
    let (item, cs) ← readValue depth fuel cs
    match skipSpaces cs with
    | ',' :: cs => readItems depth fuel (item :: done) cs
    | ']' :: cs => some (.arr (item :: done).reverse, cs)
    | _ => none

/-- The fields of an object that is not empty, up to its closing brace. -/
def readFields (depth : Nat) : (fuel : Nat) → List (String × Json) → List Char → Option (Json × List Char)
  | 0, _, _ => none
  | fuel + 1, done, cs => do
    let cs ← skip '"' (skipSpaces cs)
    let (name, cs) ← readString cs.length [] cs
    let cs ← skip ':' (skipSpaces cs)
    let (value, cs) ← readValue depth fuel cs
    match skipSpaces cs with
    | ',' :: cs => readFields depth fuel (putField done name value) cs
    | '}' :: cs => some (.obj (putField done name value), cs)
    | _ => none

end

/-- The value that a text writes. -/
def ofText? (s : String) : Option Json := do
  let (value, cs) ← readValue 127 (2 * s.length + 1) s.toList
  if (skipSpaces cs).isEmpty then return value else none

/-- A hexadecimal digit. -/
def hexDigit (n : Nat) : Char :=
  Char.ofNat (if n < 10 then '0'.toNat + n else 'a'.toNat + (n - 10))

/-- A character as it stands in a quoted text. -/
def escaped (c : Char) : String :=
  if c = '"' then "\\\""
  else if c = '\\' then "\\\\"
  else if c.toNat < 0x20 then "\\u00" ++ String.ofList [hexDigit (c.toNat / 16), hexDigit (c.toNat % 16)]
  else c.toString

/-- A quoted text. -/
def quoted (s : String) : String :=
  s.toList.foldl (fun done c => done ++ escaped c) "\"" ++ "\""

mutual

/-- The text of a value, on one line. -/
def toText : Json → String
  | .null => "null"
  | .bool b => if b then "true" else "false"
  | .int n => toString n
  | .real x => Shortest.text x
  | .str s => quoted s
  | .arr items => "[" ++ itemsText items ++ "]"
  | .obj fields => "\x7b" ++ fieldsText fields ++ "\x7d"

/-- The items of an array with commas between them. -/
def itemsText : List Json → String
  | [] => ""
  | [item] => item.toText
  | item :: items => item.toText ++ "," ++ itemsText items

/-- The fields of an object with commas between them. -/
def fieldsText : List (String × Json) → String
  | [] => ""
  | [(name, value)] => quoted name ++ ":" ++ value.toText
  | (name, value) :: fields => quoted name ++ ":" ++ value.toText ++ "," ++ fieldsText fields

end

end Circulation.Json
