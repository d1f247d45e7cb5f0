import Circulation.Record

/-!
# Listings

A list of rows is asked for with a filter, which says which rows it admits, and a window, which says in which
direction to list them and which part of the list to give. Rows are listed by their time of creation and, within one
instant, by id.
-/

namespace Circulation

/-- Oldest first or newest first. -/
inductive Direction where
  | ascending
  | descending
  deriving DecidableEq, Repr, Inhabited

/-- The direction as statements write it. -/
def Direction.keyword : Direction → String
  | .ascending => "ASC"
  | .descending => "DESC"

/-- The rows to give of a list: how many to pass over, and how many to give at most. Negative numbers count as none. -/
structure Window where
  offset : Int := 0
  limit : Option Int := none
  direction : Direction := .descending
  deriving DecidableEq, Repr, Inhabited

namespace Window

/-- The whole list, oldest first. -/
def ascending : Window where
  direction := .ascending

/-- One page, newest first. -/
def page (offset limit : Int) : Window where
  offset := offset
  limit := some limit

/-- The rows of a list, oldest first, that the window gives. -/
def apply {α : Type} (w : Window) (rows : List α) : List α :=
  let rows := match w.direction with
    | .ascending => rows
    | .descending => rows.reverse
  let rows := rows.drop w.offset.toNat
  match w.limit with
  | some n => rows.take n.toNat
  | none => rows

end Window

/-- A row that lists can order. -/
class Listed (α : Type) where
  createdAt : α → Instant
  id : α → Int

namespace Listed

instance : Listed Copy := ⟨Copy.createdAt, Copy.id⟩

instance : Listed Loan := ⟨Loan.createdAt, Loan.id⟩

instance : Listed LoanEntry := ⟨LoanEntry.createdAt, LoanEntry.id⟩

instance : Listed Reservation := ⟨Reservation.createdAt, Reservation.id⟩

instance : Listed Fine := ⟨Fine.createdAt, Fine.id⟩

variable {α : Type} [Listed α]

/-- Whether a row is listed before another or is the same: earlier created, or at the same instant with an id no
larger. -/
def notAfter (a b : α) : Bool :=
  createdAt a < createdAt b || (createdAt a = createdAt b && id a ≤ id b)

/-- The rows in listing order, oldest first. -/
def sort (rows : List α) : List α :=
  rows.mergeSort notAfter

end Listed

/-- Whether a filter leaves a field open or names its value. -/
def leaves {β : Type} [DecidableEq β] (wanted : Option β) (value : β) : Bool :=
  wanted.all (· = value)

/-- Which copies to list. Withdrawn copies are never listed. -/
structure CopyFilter where
  bookId : Option Int := none
  status : Option CopyStatus := none
  deriving DecidableEq, Inhabited

/-- Whether the filter admits a copy. -/
def CopyFilter.admits (f : CopyFilter) (c : Copy) : Bool :=
  !c.isDeleted && leaves f.bookId c.bookId && leaves f.status c.status

/-- Which loans to list; `overdueAt` asks for the loans overdue at an instant. -/
structure LoanFilter where
  userId : Option Int := none
  copyId : Option Int := none
  bookId : Option Int := none
  status : Option LoanStatus := none
  overdueAt : Option Instant := none
  deriving DecidableEq, Inhabited

/-- Whether the filter admits a loan. -/
def LoanFilter.admits (f : LoanFilter) (l : Loan) : Bool :=
  leaves f.userId l.userId && leaves f.copyId l.copyId && leaves f.bookId l.bookId && leaves f.status l.status &&
    f.overdueAt.all l.isOverdue

/-- Which reservations to list; `expiredAt` asks for the holds that have expired at an instant. -/
structure ReservationFilter where
  userId : Option Int := none
  copyId : Option Int := none
  bookId : Option Int := none
  status : Option ReservationStatus := none
  expiredAt : Option Instant := none
  deriving DecidableEq, Inhabited

/-- Whether the filter admits a reservation. -/
def ReservationFilter.admits (f : ReservationFilter) (r : Reservation) : Bool :=
  leaves f.userId r.userId && leaves f.copyId r.copyId && leaves f.bookId r.bookId && leaves f.status r.status &&
    f.expiredAt.all r.isExpired

/-- Which fines to list; `userId` is the borrower of the fined loan. -/
structure FineFilter where
  loanId : Option Int := none
  userId : Option Int := none
  settled : Option Bool := none
  deriving DecidableEq, Inhabited

/-- Whether the filter admits a fine, given who borrowed each loan. -/
def FineFilter.admits (f : FineFilter) (borrower : Int → Option Int) (x : Fine) : Bool :=
  f.userId.all (fun user => borrower x.loanId = some user) && leaves f.loanId x.loanId && leaves f.settled x.settled

end Circulation
