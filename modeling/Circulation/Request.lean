import Circulation.Listing
import Circulation.Refusal

/-!
# Requests

A procedure of the desk reads and writes rows by requests to the transaction it runs in. `Request` lists them all and
`Request.Answer` is the type of answer to each. A conditional write answers whether its condition held and the row was
written; an insertion answers the row with its new id.
-/

namespace Circulation

/-- A request to the open transaction. -/
inductive Request where
  /-- The title with an id. -/
  | getBook (id : Int)
  /-- The user with an id. -/
  | getUser (id : Int)
  /-- The copy with an id, withdrawn or not. -/
  | getCopy (id : Int)
  /-- The copy with an id unless it is withdrawn, held against other transactions until this one ends. -/
  | lockCopy (id : Int)
  /-- Adds a copy of a title. -/
  | insertCopy (bookId : Int) (now : Instant)
  /-- Moves a copy that is not withdrawn from an expected status to another. -/
  | moveCopy (id : Int) (expected status : CopyStatus) (now : Instant)
  /-- Withdraws an available copy. -/
  | withdrawCopy (id : Int) (now : Instant)
  /-- The copies a filter admits, as a window gives them. -/
  | listCopies (filter : CopyFilter) (window : Window)
  /-- How many copies a filter admits. -/
  | countCopies (filter : CopyFilter)
  /-- The loan with an id. -/
  | getLoan (id : Int)
  /-- The borrowed loan of a copy. -/
  | activeLoan (copyId : Int)
  /-- Opens a loan. -/
  | insertLoan (loan : NewLoan)
  /-- Writes status, dates and renewal count of a loan that is still borrowed with the expected renewal count. -/
  | updateLoan (loan : Loan) (expected : Int)
  /-- How many loans a user has out. -/
  | countBorrowed (userId : Int)
  /-- How many loans of a title a user has out. -/
  | countBorrowedTitle (userId bookId : Int)
  /-- Adds an entry to a loan's history. -/
  | insertEntry (entry : NewLoanEntry)
  /-- The history of a loan, oldest entry first. -/
  | listEntries (loanId : Int)
  /-- The loans a filter admits, as a window gives them. -/
  | listLoans (filter : LoanFilter) (window : Window)
  /-- How many loans a filter admits. -/
  | countLoans (filter : LoanFilter)
  /-- The reservation with an id. -/
  | getReservation (id : Int)
  /-- The pending reservation of a copy. -/
  | pendingReservation (copyId : Int)
  /-- Places a reservation. -/
  | insertReservation (reservation : NewReservation)
  /-- Moves a reservation from an expected status to another. -/
  | moveReservation (id : Int) (expected status : ReservationStatus) (now : Instant)
  /-- How many reservations of a user are pending. -/
  | countPending (userId : Int)
  /-- How many reservations of a user on a title are pending. -/
  | countPendingTitle (userId bookId : Int)
  /-- The reservations a filter admits, as a window gives them. -/
  | listReservations (filter : ReservationFilter) (window : Window)
  /-- How many reservations a filter admits. -/
  | countReservations (filter : ReservationFilter)
  /-- The fine with an id. -/
  | getFine (id : Int)
  /-- Charges a fine. -/
  | insertFine (fine : NewFine)
  /-- Settles an outstanding fine. -/
  | settleFine (id : Int) (now : Instant)
  /-- The fines a filter admits, as a window gives them. -/
  | listFines (filter : FineFilter) (window : Window)
  /-- How many fines a filter admits. -/
  | countFines (filter : FineFilter)
  /-- What a user owes in all. -/
  | outstandingTotal (userId : Int)
  deriving DecidableEq

namespace Request

/-- The type of the answer to a request. -/
@[reducible]
def Answer : Request → Type
  | .getBook _ => Option Book
  | .getUser _ => Option User
  | .getCopy _ => Option Copy
  | .lockCopy _ => Option Copy
  | .insertCopy _ _ => Copy
  | .moveCopy _ _ _ _ => Bool
  | .withdrawCopy _ _ => Bool
  | .listCopies _ _ => List Copy
  | .countCopies _ => Int
  | .getLoan _ => Option Loan
  | .activeLoan _ => Option Loan
  | .insertLoan _ => Loan
  | .updateLoan _ _ => Bool
  | .countBorrowed _ => Int
  | .countBorrowedTitle _ _ => Int
  | .insertEntry _ => LoanEntry
  | .listEntries _ => List LoanEntry
  | .listLoans _ _ => List Loan
  | .countLoans _ => Int
  | .getReservation _ => Option Reservation
  | .pendingReservation _ => Option Reservation
  | .insertReservation _ => Reservation
  | .moveReservation _ _ _ _ => Bool
  | .countPending _ => Int
  | .countPendingTitle _ _ => Int
  | .listReservations _ _ => List Reservation
  | .countReservations _ => Int
  | .getFine _ => Option Fine
  | .insertFine _ => Fine
  | .settleFine _ _ => Bool
  | .listFines _ _ => List Fine
  | .countFines _ => Int
  | .outstandingTotal _ => Decimal

end Request

end Circulation
