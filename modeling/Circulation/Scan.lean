/-!
# Reading characters

The small readers that instants, decimals, documents and settings share: blanks, single characters and runs of digits.
A reader takes a list of characters and answers what it read with the characters that are left.
-/

namespace Circulation

namespace Scan

/-- The characters of the Unicode class White_Space. -/
def isBlank (c : Char) : Bool :=
  let n := c.toNat
  (9 ≤ n && n ≤ 13) || n = 0x20 || n = 0x85 || n = 0xA0 || n = 0x1680 || (0x2000 ≤ n && n ≤ 0x200A) ||
    n = 0x2028 || n = 0x2029 || n = 0x202F || n = 0x205F || n = 0x3000

/-- The text after its leading blanks. -/
def skipBlanks (cs : List Char) : List Char :=
  cs.dropWhile isBlank

/-- The text after a given first character. -/
def skip (c : Char) : List Char → Option (List Char)
  | d :: cs => if c = d then some cs else none
  | [] => none

/-- The value of a digit. -/
def digit? (c : Char) : Option Nat :=
  if c.isDigit then some (c.toNat - '0'.toNat) else none

/-- The number that a run of decimal digits writes. -/
def valueOf (cs : List Char) : Nat :=
  cs.foldl (fun n c => 10 * n + (c.toNat - '0'.toNat)) 0

/-- The longest run of decimal digits at the start of a text, and what follows it. -/
def digits (cs : List Char) : List Char × List Char :=
  (cs.takeWhile Char.isDigit, cs.dropWhile Char.isDigit)

/-- A number of one to `width` digits at the start of a text. -/
def number (width : Nat) (cs : List Char) : Option (Nat × List Char) :=
  let run := (digits cs).1.take width
  if run.isEmpty then none else some (valueOf run, cs.drop run.length)

end Scan

end Circulation
