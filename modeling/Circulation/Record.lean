import Circulation.Coded
import Circulation.Decimal
import Circulation.Instant

/-!
# Records

What the desk keeps: titles and users, the copies of a title, loans with their history, reservations and fines. A copy
is available, on loan or on reserve; a loan is borrowed until it is returned; a reservation is pending until a loan or
a cancellation fulfils it. A `New…` record is what is known of a row before it has an id; `toRow` completes it.
-/

namespace Circulation

/-- Where a copy is. -/
inductive CopyStatus where
  | available
  | onLoan
  | onReserve
  deriving DecidableEq, Repr, Inhabited

/-- Whether a loan is still out. -/
inductive LoanStatus where
  | borrowed
  | returned
  deriving DecidableEq, Repr

/-- Whether a reservation still holds its copy. -/
inductive ReservationStatus where
  | pending
  | fulfilled
  deriving DecidableEq, Repr

/-- What happened to a loan. -/
inductive LoanEvent where
  | borrowed
  | renewed
  | returned
  deriving DecidableEq, Repr

instance : Coded CopyStatus where
  typeName := "CopyStatus"
  all := [.available, .onLoan, .onReserve]
  number
    | .available => 0
    | .onLoan => 1
    | .onReserve => 2
  word
    | .available => "available"
    | .onLoan => "on_loan"
    | .onReserve => "on_reserve"
  mem_all a := by cases a <;> decide
  number_inj a b := by cases a <;> cases b <;> decide
  word_inj a b := by cases a <;> cases b <;> decide

instance : Coded LoanStatus where
  typeName := "LoanStatus"
  all := [.borrowed, .returned]
  number
    | .borrowed => 0
    | .returned => 1
  word
    | .borrowed => "borrowed"
    | .returned => "returned"
  mem_all a := by cases a <;> decide
  number_inj a b := by cases a <;> cases b <;> decide
  word_inj a b := by cases a <;> cases b <;> decide

instance : Coded ReservationStatus where
  typeName := "ReservationStatus"
  all := [.pending, .fulfilled]
  number
    | .pending => 0
    | .fulfilled => 1
  word
    | .pending => "pending"
    | .fulfilled => "fulfilled"
  mem_all a := by cases a <;> decide
  number_inj a b := by cases a <;> cases b <;> decide
  word_inj a b := by cases a <;> cases b <;> decide

instance : Coded LoanEvent where
  typeName := "LoanAction"
  all := [.borrowed, .renewed, .returned]
  number
    | .borrowed => 0
    | .renewed => 1
    | .returned => 2
  word
    | .borrowed => "borrow"
    | .renewed => "renew"
    | .returned => "return"
  mem_all a := by cases a <;> decide
  number_inj a b := by cases a <;> cases b <;> decide
  word_inj a b := by cases a <;> cases b <;> decide

/-- How a copy's status reads to people. -/
def CopyStatus.display : CopyStatus → String
  | .available => "available"
  | .onLoan => "on loan"
  | .onReserve => "on reserve"

/-- A title of the catalogue. -/
structure Book where
  id : Int
  title : String
  deriving DecidableEq

/-- Someone who borrows. -/
structure User where
  id : Int
  username : String
  deriving DecidableEq

/-- One physical copy of a title. A withdrawn copy keeps its row, dated with its withdrawal. -/
structure Copy where
  id : Int
  bookId : Int
  status : CopyStatus
  createdAt : Instant
  updatedAt : Instant
  deletedAt : Option Instant
  deriving DecidableEq

/-- Whether the copy has been withdrawn. -/
def Copy.isDeleted (c : Copy) : Bool :=
  c.deletedAt.isSome

/-- One lending of a copy to a user. -/
structure Loan where
  id : Int
  copyId : Int
  bookId : Int
  userId : Int
  status : LoanStatus
  borrowDate : Instant
  dueDate : Instant
  returnDate : Option Instant
  renewCount : Int
  createdAt : Instant
  updatedAt : Instant
  deriving DecidableEq

namespace Loan

/-- Whether the copy is still out. -/
def isBorrowed (l : Loan) : Bool :=
  l.status = .borrowed

/-- Whether the copy is still out after its due date. -/
def isOverdue (l : Loan) (now : Instant) : Bool :=
  l.isBorrowed && l.dueDate < now

/-- The renewal count after one more renewal, a 32-bit count that wraps. -/
def nextRenewCount (l : Loan) : Int :=
  (l.renewCount + 1).bmod (2 ^ 32)

end Loan

/-- One entry of a loan's history. -/
structure LoanEntry where
  id : Int
  loanId : Int
  event : LoanEvent
  dueDate : Instant
  previousDueDate : Option Instant
  createdAt : Instant
  deriving DecidableEq

/-- A hold on a copy for a user, which expires. -/
structure Reservation where
  id : Int
  copyId : Int
  bookId : Int
  userId : Int
  status : ReservationStatus
  reservationDate : Instant
  createdAt : Instant
  updatedAt : Instant
  deriving DecidableEq

namespace Reservation

/-- Whether the hold stands. -/
def isPending (r : Reservation) : Bool :=
  r.status = .pending

/-- Whether the hold stands after its expiry. -/
def isExpired (r : Reservation) (now : Instant) : Bool :=
  r.isPending && r.reservationDate < now

end Reservation

/-- What a user owes for a late return. -/
structure Fine where
  id : Int
  loanId : Int
  amount : Decimal
  settled : Bool
  createdAt : Instant
  updatedAt : Instant
  deriving DecidableEq

/-- A copy to be added. -/
structure NewCopy where
  bookId : Int
  createdAt : Instant
  deriving DecidableEq

/-- The row of a new copy, on the shelf. -/
def NewCopy.toRow (c : NewCopy) (id : Int) : Copy where
  id := id
  bookId := c.bookId
  status := .available
  createdAt := c.createdAt
  updatedAt := c.createdAt
  deletedAt := none

/-- A loan to be opened. -/
structure NewLoan where
  copyId : Int
  bookId : Int
  userId : Int
  borrowDate : Instant
  dueDate : Instant
  deriving DecidableEq

/-- The row of a new loan, borrowed and never renewed. -/
def NewLoan.toRow (l : NewLoan) (id : Int) : Loan where
  id := id
  copyId := l.copyId
  bookId := l.bookId
  userId := l.userId
  status := .borrowed
  borrowDate := l.borrowDate
  dueDate := l.dueDate
  returnDate := none
  renewCount := 0
  createdAt := l.borrowDate
  updatedAt := l.borrowDate

/-- A history entry to be written. -/
structure NewLoanEntry where
  loanId : Int
  event : LoanEvent
  dueDate : Instant
  previousDueDate : Option Instant
  createdAt : Instant
  deriving DecidableEq

/-- The row of a new history entry. -/
def NewLoanEntry.toRow (e : NewLoanEntry) (id : Int) : LoanEntry where
  id := id
  loanId := e.loanId
  event := e.event
  dueDate := e.dueDate
  previousDueDate := e.previousDueDate
  createdAt := e.createdAt

/-- A reservation to be placed. -/
structure NewReservation where
  copyId : Int
  bookId : Int
  userId : Int
  reservationDate : Instant
  createdAt : Instant
  deriving DecidableEq

/-- The row of a new reservation, pending. -/
def NewReservation.toRow (r : NewReservation) (id : Int) : Reservation where
  id := id
  copyId := r.copyId
  bookId := r.bookId
  userId := r.userId
  status := .pending
  reservationDate := r.reservationDate
  createdAt := r.createdAt
  updatedAt := r.createdAt

/-- A fine to be charged. -/
structure NewFine where
  loanId : Int
  amount : Decimal
  createdAt : Instant
  deriving DecidableEq

/-- The row of a new fine, outstanding. -/
def NewFine.toRow (f : NewFine) (id : Int) : Fine where
  id := id
  loanId := f.loanId
  amount := f.amount
  settled := false
  createdAt := f.createdAt
  updatedAt := f.createdAt

/-- A loan with its history and its fines. -/
structure LoanRecord where
  loan : Loan
  entries : List LoanEntry
  fines : List Fine
  deriving DecidableEq

/-- A copy with its title, its loans and its reservations. -/
structure CopyDetails where
  copy : Copy
  book : Book
  loans : List LoanRecord
  reservations : List Reservation
  deriving DecidableEq

/-- A loan with all it refers to. -/
structure LoanDetails where
  loan : Loan
  copy : Copy
  book : Book
  borrower : Option User
  entries : List LoanEntry
  fines : List Fine
  isOverdue : Bool
  deriving DecidableEq

/-- A reservation with all it refers to. -/
structure ReservationDetails where
  reservation : Reservation
  copy : Copy
  book : Book
  user : Option User
  deriving DecidableEq

/-- A fine with its loan. -/
structure FineDetails where
  fine : Fine
  loan : Loan
  deriving DecidableEq

end Circulation
