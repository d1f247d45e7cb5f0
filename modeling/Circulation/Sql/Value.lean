import Circulation.Record
import Circulation.Sql.Numeric

/-!
# Values and rows of a database

What is bound to the placeholders of a statement and what comes back in rows. The database keeps instants to the
microsecond and gives zero without a scale. A row is read column by column, in the order of a record's fields, and the
first column that cannot be read is the one reported. Arithmetic that overflows on the way stops the reading for good.
-/

namespace Circulation.Sql

/-- A value of a database. -/
inductive Value where
  | null
  | int (n : Int)
  | bool (b : Bool)
  | text (s : String)
  | numeric (n : Numeric)
  | instant (t : Instant)
  deriving DecidableEq

namespace Value

/-- The value as the database keeps it. -/
def stored : Value → Value
  | .numeric n => .numeric n.stored
  | .instant t => .instant t.cutToMicros
  | v => v

/-- A value that may be missing. -/
def ofOption {α : Type} (write : α → Value) : Option α → Value
  | some a => write a
  | none => .null

/-- A decimal, kept as a number of its scale. -/
def decimal (d : Decimal) : Value :=
  .numeric (.ofDecimal d)

/-- A coded value, kept as its number. -/
def coded {α : Type} [Coded α] (a : α) : Value :=
  .int (Coded.number a)

end Value

/-- A row: its columns by name. A column that it lacks is null. -/
structure Row where
  columns : List (String × Value)
  deriving DecidableEq, Inhabited

/-- A failure to read a value, or the value. -/
abbrev Read (α : Type) := Except Misread α

namespace Read

/-- A value of another kind than the column has. -/
def mismatch : Misread :=
  .unreadable (.stated "mismatched types")

/-- Null where there has to be a value. -/
def lacking : Misread :=
  .unreadable .null

/-- Reads an integer. -/
def int : Value → Read Int
  | .int n => .ok n
  | .null => .error lacking
  | _ => .error mismatch

/-- Reads a truth value. -/
def bool : Value → Read Bool
  | .bool b => .ok b
  | .null => .error lacking
  | _ => .error mismatch

/-- Reads a text. -/
def text : Value → Read String
  | .text s => .ok s
  | .null => .error lacking
  | _ => .error mismatch

/-- Reads a decimal. -/
def decimal (v : Value) : Read Decimal :=
  match v with
  | .numeric n => n.toDecimal
  | .null => .error lacking
  | _ => .error mismatch

/-- Reads an instant. -/
def instant (v : Value) : Read Instant :=
  match v.stored with
  | .instant t => .ok t
  | .null => .error lacking
  | _ => .error mismatch

/-- Reads a coded value from its number. -/
def coded {α : Type} [Coded α] (v : Value) : Read α := do
  let n ← int v
  match Coded.ofNumber? n with
  | some a => .ok a
  | none => .error (.unreadable (.noStatus n (Coded.typeName α)))

/-- Reads a value that may be null. -/
def orNull {α : Type} (read : Value → Read α) : Value → Read (Option α)
  | .null => .ok none
  | v => (read v).map some

end Read

namespace Row

variable {α : Type}

/-- The value of a column. -/
def get (r : Row) (column : String) : Value :=
  (r.columns.lookup column).getD .null

/-- What a value that was not read stops: the failure is located, an overflow is passed on. -/
def stopAt (locate : Unreadable → DatabaseFailure) : Misread → Stop
  | .unreadable why => .refused (.database (locate why))
  | .overflowed what => .overflowed what

/-- Reads a column. -/
def read (r : Row) (column : String) (read : Value → Read α) : Except Stop α :=
  (read (r.get column)).mapError (stopAt (.column column))

/-- Reads the only column of a row. -/
def only (r : Row) (column : String) (read : Value → Read α) : Except Stop α :=
  (read (r.get column)).mapError (stopAt (.position 0))

/-- Reads a title. -/
def book (r : Row) : Except Stop Book := do
  return { id := ← r.read "id" Read.int, title := ← r.read "title" Read.text }

/-- Reads a user. -/
def user (r : Row) : Except Stop User := do
  return { id := ← r.read "id" Read.int, username := ← r.read "username" Read.text }

/-- Reads a copy. -/
def copy (r : Row) : Except Stop Copy := do
  return {
    id := ← r.read "id" Read.int
    bookId := ← r.read "book_id" Read.int
    status := ← r.read "status" Read.coded
    createdAt := ← r.read "created_at" Read.instant
    updatedAt := ← r.read "updated_at" Read.instant
    deletedAt := ← r.read "deleted_at" (Read.orNull Read.instant) }

/-- Reads a loan. -/
def loan (r : Row) : Except Stop Loan := do
  return {
    id := ← r.read "id" Read.int
    copyId := ← r.read "book_copy_id" Read.int
    bookId := ← r.read "book_id" Read.int
    userId := ← r.read "user_id" Read.int
    status := ← r.read "status" Read.coded
    borrowDate := ← r.read "borrow_date" Read.instant
    dueDate := ← r.read "due_date" Read.instant
    returnDate := ← r.read "return_date" (Read.orNull Read.instant)
    renewCount := ← r.read "renew_count" Read.int
    createdAt := ← r.read "created_at" Read.instant
    updatedAt := ← r.read "updated_at" Read.instant }

/-- Reads a history entry. -/
def entry (r : Row) : Except Stop LoanEntry := do
  return {
    id := ← r.read "id" Read.int
    loanId := ← r.read "loan_id" Read.int
    event := ← r.read "action" Read.coded
    dueDate := ← r.read "due_date" Read.instant
    previousDueDate := ← r.read "previous_due_date" (Read.orNull Read.instant)
    createdAt := ← r.read "created_at" Read.instant }

/-- Reads a reservation. -/
def reservation (r : Row) : Except Stop Reservation := do
  return {
    id := ← r.read "id" Read.int
    copyId := ← r.read "book_copy_id" Read.int
    bookId := ← r.read "book_id" Read.int
    userId := ← r.read "user_id" Read.int
    status := ← r.read "status" Read.coded
    reservationDate := ← r.read "reservation_date" Read.instant
    createdAt := ← r.read "created_at" Read.instant
    updatedAt := ← r.read "updated_at" Read.instant }

/-- Reads a fine. -/
def fine (r : Row) : Except Stop Fine := do
  return {
    id := ← r.read "id" Read.int
    loanId := ← r.read "loan_id" Read.int
    amount := ← r.read "amount" Read.decimal
    settled := ← r.read "settled" Read.bool
    createdAt := ← r.read "created_at" Read.instant
    updatedAt := ← r.read "updated_at" Read.instant }

end Row

end Circulation.Sql
