import Circulation.Request
import Circulation.Sql.Value

/-!
# Replies

The server answers a statement with rows, with the number of rows it changed, or with an error. `Reply.answer` reads
the answer to a request out of it. Where one row must come back and none does, that is a failure of its own; a
collision with a uniqueness rule of the schema is a clash, and any other error is a failure of the database.
-/

namespace Circulation.Sql

/-- An error that the server reports. -/
structure ServerError where
  code : Option String
  message : String
  constraint : Option String := none
  deriving DecidableEq, Repr

namespace ServerError

/-- Whether a uniqueness rule was broken. -/
def isCollision (e : ServerError) : Bool :=
  e.code = some "23505"

/-- The failure that an error is in general. -/
def failure (e : ServerError) : DatabaseFailure :=
  .server e.message

/-- What a collision of a new row means. -/
def clash? (e : ServerError) : Request → Option Clash
  | .insertLoan loan => some (.copyOnLoan loan.copyId)
  | .insertReservation r =>
    if e.constraint = some "reservations_one_pending_per_user_title" then some (.titleReserved r.userId r.bookId)
    else some (.copyReserved r.copyId)
  | _ => none

/-- The refusal that an error is in answer to a request. -/
def refusal (e : ServerError) (q : Request) : Refusal :=
  match if e.isCollision then e.clash? q else none with
  | some why => .conflict why
  | none => .database e.failure

end ServerError

/-- What the server answers to a statement. -/
inductive Reply where
  | found (rows : List Row)
  | changed (count : Int)
  | failed (error : ServerError)
  deriving DecidableEq

namespace Reply

/-- The answer to a statement for which the server has nothing. -/
def nothing : Reply :=
  .found []

/-- The rows of a reply. -/
def toRows : Reply → List Row
  | .found rows => rows
  | _ => []

/-- How many rows were changed. -/
def toChanged : Reply → Int
  | .changed n => n
  | _ => 0

variable {α : Type}

/-- Reads the first row, if there is one. -/
def first? (r : Reply) (read : Row → Except Stop α) : Except Stop (Option α) :=
  match r.toRows with
  | [] => .ok none
  | row :: _ => (read row).map some

/-- Reads the first row, which must be there. -/
def one (r : Reply) (read : Row → Except Stop α) : Except Stop α :=
  match r.toRows with
  | [] => .error (.refused (.database .noRow))
  | row :: _ => read row

/-- Reads all rows. -/
def all (r : Reply) (read : Row → Except Stop α) : Except Stop (List α) :=
  r.toRows.mapM read

/-- Reads a count. -/
def count : Row → Except Stop Int :=
  fun row => row.only "count" Read.int

/-- Reads a sum. -/
def sum : Row → Except Stop Decimal :=
  fun row => row.only "coalesce" Read.decimal

/-- Reads the answer to a request from a reply that is no error. -/
def read (r : Reply) : (q : Request) → Except Stop q.Answer
  | .getBook _ => r.first? Row.book
  | .getUser _ => r.first? Row.user
  | .getCopy _ => r.first? Row.copy
  | .lockCopy _ => r.first? Row.copy
  | .insertCopy _ _ => r.one Row.copy
  | .moveCopy _ _ _ _ => .ok (r.toChanged = 1)
  | .withdrawCopy _ _ => .ok (r.toChanged = 1)
  | .listCopies _ _ => r.all Row.copy
  | .countCopies _ => r.one count
  | .getLoan _ => r.first? Row.loan
  | .activeLoan _ => r.first? Row.loan
  | .insertLoan _ => r.one Row.loan
  | .updateLoan _ _ => .ok (0 < r.toChanged)
  | .countBorrowed _ => r.one count
  | .countBorrowedTitle _ _ => r.one count
  | .insertEntry _ => r.one Row.entry
  | .listEntries _ => r.all Row.entry
  | .listLoans _ _ => r.all Row.loan
  | .countLoans _ => r.one count
  | .getReservation _ => r.first? Row.reservation
  | .pendingReservation _ => r.first? Row.reservation
  | .insertReservation _ => r.one Row.reservation
  | .moveReservation _ _ _ _ => .ok (r.toChanged = 1)
  | .countPending _ => r.one count
  | .countPendingTitle _ _ => r.one count
  | .listReservations _ _ => r.all Row.reservation
  | .countReservations _ => r.one count
  | .getFine _ => r.first? Row.fine
  | .insertFine _ => r.one Row.fine
  | .settleFine _ _ => .ok (r.toChanged = 1)
  | .listFines _ _ => r.all Row.fine
  | .countFines _ => r.one count
  | .outstandingTotal _ => r.one sum

/-- The answer to a request that a reply gives. -/
def answer (r : Reply) (q : Request) : Except Stop q.Answer :=
  match r with
  | .failed e => .error (.refused (e.refusal q))
  | r => r.read q

end Reply

end Circulation.Sql
