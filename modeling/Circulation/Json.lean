import Circulation.Coded
import Circulation.Decimal.Shortest
import Circulation.Instant.Text

/-!
# JSON values

Documents and answers are JSON values. A number without a point and an exponent that fits 64 bits, signed or not, is
kept as an integer, every other number as a binary fraction. The readers below take a value apart strictly: an integer
is never read from a fraction, nor a text from a number.
-/

namespace Circulation

/-- A JSON value. -/
inductive Json where
  | null
  | bool (b : Bool)
  | int (n : Int)
  | real (x : Float)
  | str (s : String)
  | arr (items : List Json)
  | obj (fields : List (String × Json))
  deriving Inhabited

namespace Json

/-- Whether a value is null. -/
def isNull : Json → Bool
  | .null => true
  | _ => false

/-- A truth value. -/
def toBool? : Json → Option Bool
  | .bool b => some b
  | _ => none

/-- A text. -/
def toStr? : Json → Option String
  | .str s => some s
  | _ => none

/-- The items of an array. -/
def toItems? : Json → Option (List Json)
  | .arr items => some items
  | _ => none

/-- An integer from `low` up to and without `high`. -/
def toIntIn? (low high : Int) : Json → Option Int
  | .int n => if low ≤ n ∧ n < high then some n else none
  | _ => none

/-- An integer that fits 64 bits with a sign. -/
def toInt64? : Json → Option Int :=
  toIntIn? (-2 ^ 63) (2 ^ 63)

/-- An integer that fits 32 bits with a sign. -/
def toInt32? : Json → Option Int :=
  toIntIn? (-2 ^ 31) (2 ^ 31)

/-- An integer that fits 32 bits without a sign. -/
def toUInt32? : Json → Option Int :=
  toIntIn? 0 (2 ^ 32)

/-- An instant, from its text. -/
def toInstant? : Json → Option Instant
  | .str s => Instant.ofText? s
  | _ => none

/-- A decimal, from its text or from a number, which a binary fraction gives by its shortest text. -/
def toDecimal? : Json → Option Decimal
  | .str s => Decimal.ofText? s
  | .int n => Decimal.ofInt? n
  | .real x => Decimal.ofPlain? (Shortest.text x).toList
  | _ => none

/-- A word that stands for one of a few values: a text, or an object with the word as its only field, which is null. -/
def toWord? : Json → Option String
  | .str w => some w
  | .obj [(w, .null)] => some w
  | _ => none

/-- A coded value, from its word. -/
def toCoded? {α : Type} [Coded α] (j : Json) : Option α :=
  j.toWord?.bind Coded.ofWord?

/-- A value that may be null. -/
def orNull? {α : Type} (read : Json → Option α) (j : Json) : Option (Option α) :=
  if j.isNull then some none else (read j).map some

/-- A field of an object. -/
def field? (j : Json) (name : String) : Option Json :=
  match j with
  | .obj fields => fields.lookup name
  | _ => none

/-- The fields of a record by their names. -/
structure Fields where
  get? : String → Option Json

/-- The fields of a record with the given names, in their order: an object has them by name and may have others, an
array has them in this order and may lack so many of the last ones. -/
def fieldsOf? (names : List String) (lacking : Nat) : Json → Option Fields
  | .obj fields => some ⟨fun name => fields.lookup name⟩
  | .arr items =>
    if names.length ≤ items.length + lacking ∧ items.length ≤ names.length then
      some ⟨fun name => (names.zip items).lookup name⟩
    else
      none
  | _ => none

namespace Fields

variable {α : Type}

/-- Reads a field that must be there. -/
def required? (f : Fields) (name : String) (read : Json → Option α) : Option α :=
  (f.get? name).bind read

/-- Reads a field that may be missing or null. -/
def optional? (f : Fields) (name : String) (read : Json → Option α) : Option (Option α) :=
  match f.get? name with
  | some j => orNull? read j
  | none => some none

/-- Reads a field that may be missing but not null. -/
def default? (f : Fields) (name : String) (default : α) (read : Json → Option α) : Option α :=
  match f.get? name with
  | some j => read j
  | none => some default

end Fields

/-- The JSON value of something that may be missing. -/
def ofOption {α : Type} (write : α → Json) : Option α → Json
  | some a => write a
  | none => .null

/-- An instant as JSON. -/
def ofInstant (t : Instant) : Json :=
  .str t.toText

/-- A decimal as JSON, a text that keeps its scale. -/
def ofDecimal (d : Decimal) : Json :=
  .str d.toText

/-- A coded value as JSON. -/
def ofCoded {α : Type} [Coded α] (a : α) : Json :=
  .str (Coded.word a)

/-- A list as JSON. -/
def ofList {α : Type} (write : α → Json) (as : List α) : Json :=
  .arr (as.map write)

end Json

end Circulation
