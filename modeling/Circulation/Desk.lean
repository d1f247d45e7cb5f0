import Circulation.Desk.Limits
import Circulation.Desk.Lending
import Circulation.Desk.Holds

/-!
# The desk

The operations on copies: lending them out, taking them back, renewing, holding and releasing them, and adding and
withdrawing them. Each runs inside one transaction. It locks the copy, checks the limits of the user, sees to loans,
reservations and fines, and then moves the copy from the status it was found in.

* available → on loan by `borrow`, and back by `returnLoan` and `returnCopy`,
* available → on reserve by `reserve`, and back by `cancelReservation`,
* on reserve → on loan by `borrow`, for the user who holds the reservation,
* on loan → on loan by `renew`.
-/

namespace Circulation.Desk

/-- The most copies that one call may add. -/
def maxCopiesPerCall : Int := 1000

/-- Locks a copy that is not withdrawn. -/
def lockCopy (copyId : Int) : Procedure Copy := do
  Procedure.require (← Procedure.request (.lockCopy copyId)) (.notFound (.copy copyId))

/-- Moves a locked copy from the status it was found in. -/
def moveCopy (copy : Copy) (status : CopyStatus) : Procedure Unit := do
  let now ← Procedure.now
  let moved ← Procedure.request (.moveCopy copy.id copy.status status now)
  Procedure.ensure moved (.conflict (.copyChanged copy.id))

/-- Refuses a copy that is out or held. -/
def ensureAvailable (copy : Copy) : Procedure Unit :=
  match copy.status with
  | .onLoan => Procedure.refuse (.invalidState .onLoan)
  | .onReserve => Procedure.refuse (.invalidState .onReserve)
  | .available => pure ()

/-- Makes a copy ready to be lent to a user: a copy that is out is refused, and a hold on it must be the user's own,
which is fulfilled. -/
def releaseTo (userId : Int) (copy : Copy) : Procedure Unit := do
  match copy.status with
  | .onLoan => Procedure.refuse (.invalidState .alreadyOnLoan)
  | .onReserve =>
    let pending ← Holds.pendingOfCopy copy.id
    let own ← Procedure.require (pending.filter (·.userId = userId)) (.invalidState .reservedForAnother)
    let _ ← Holds.fulfil own
  | .available => pure ()

/-- Lends a copy to a user. -/
def borrow (policy : Policy) (copyId userId : Int) : Procedure Loan := do
  let copy ← lockCopy copyId
  Limits.ensureMayBorrow policy userId copy.bookId
  releaseTo userId copy
  let loan ← Lending.lend policy copy userId
  moveCopy copy .onLoan
  return loan

/-- Closes the loan of a copy that is out and puts the copy back on the shelf. -/
def closeLoan (policy : Policy) (copy : Copy) (loan : Loan) : Procedure Loan := do
  Procedure.ensure (copy.status = .onLoan) (.invalidState .notOnLoan)
  let loan ← Lending.takeBack policy loan
  moveCopy copy .available
  return loan

/-- Locks the copy of a loan, then reads the loan again under the lock. -/
def lockLoan (loanId : Int) : Procedure (Copy × Loan) := do
  let loan ← Lending.get loanId
  let copy ← lockCopy loan.copyId
  let loan ← Lending.get loanId
  return (copy, loan)

/-- Takes back the copy of a loan. -/
def returnLoan (policy : Policy) (loanId : Int) : Procedure Loan := do
  let (copy, loan) ← lockLoan loanId
  closeLoan policy copy loan

/-- Takes back a copy. -/
def returnCopy (policy : Policy) (copyId : Int) : Procedure Loan := do
  let copy ← lockCopy copyId
  let loan ← Procedure.require (← Lending.active copy.id) (.invalidState .notOnLoan)
  closeLoan policy copy loan

/-- Extends a loan by one renewal period. -/
def renew (policy : Policy) (loanId : Int) : Procedure Loan := do
  let (copy, loan) ← lockLoan loanId
  Procedure.ensure (copy.status = .onLoan) (.invalidState .notOnLoan)
  Lending.renew policy loan

/-- Holds an available copy for a user. -/
def reserve (policy : Policy) (copyId userId : Int) : Procedure Reservation := do
  let copy ← lockCopy copyId
  ensureAvailable copy
  Limits.ensureMayReserve policy userId copy.bookId
  let reservation ← Holds.place policy copy userId
  moveCopy copy .onReserve
  return reservation

/-- Fulfils a pending reservation without a loan and releases its copy. -/
def cancelReservation (reservationId : Int) : Procedure Reservation := do
  let reservation ← Holds.get reservationId
  let copy ← lockCopy reservation.copyId
  Procedure.ensure (copy.status = .onReserve) (.invalidState .notOnReserve)
  let fulfilled ← Holds.fulfil reservation
  moveCopy copy .available
  return fulfilled

/-- Refuses a title that is not in the catalogue. -/
def ensureBook (bookId : Int) : Procedure Unit := do
  let book ← Procedure.request (.getBook bookId)
  Procedure.ensure book.isSome (.notFound (.book bookId))

/-- Adds a copy of a title. -/
def addCopy (bookId : Int) : Procedure Copy := do
  ensureBook bookId
  let now ← Procedure.now
  Procedure.request (.insertCopy bookId now)

/-- Inserts a number of copies of a title at one instant. -/
def insertCopies (bookId : Int) (now : Instant) : Nat → Procedure (List Copy)
  | 0 => pure []
  | n + 1 => do
    let copy ← Procedure.request (.insertCopy bookId now)
    let copies ← insertCopies bookId now n
    return copy :: copies

/-- Adds a number of copies of a title. -/
def addCopies (bookId : Int) (count : Int) : Procedure (List Copy) := do
  Procedure.ensure (1 ≤ count ∧ count ≤ maxCopiesPerCall) (.validation (.copyCount maxCopiesPerCall count))
  ensureBook bookId
  let now ← Procedure.now
  insertCopies bookId now count.toNat

/-- Withdraws an available copy. -/
def removeCopy (copyId : Int) : Procedure Copy := do
  let copy ← lockCopy copyId
  ensureAvailable copy
  let now ← Procedure.now
  let withdrawn ← Procedure.request (.withdrawCopy copyId now)
  Procedure.ensure withdrawn (.conflict (.copyChanged copyId))
  return { copy with deletedAt := some now, updatedAt := now }

/-- Settles an outstanding fine. -/
def settleFine (fineId : Int) : Procedure Fine :=
  Charges.settle fineId

/-- The copy with an id, unless it is withdrawn. -/
def getCopy (copyId : Int) : Procedure Copy := do
  let copy ← Procedure.request (.getCopy copyId)
  Procedure.require (copy.filter (!·.isDeleted)) (.notFound (.copy copyId))

/-- Each of some loans with its history and its fines. -/
def loanRecords : List Loan → Procedure (List LoanRecord)
  | [] => pure []
  | loan :: loans => do
    let entries ← Lending.entries loan.id
    let fines ← Charges.ofLoan loan.id
    let records ← loanRecords loans
    return ⟨loan, entries, fines⟩ :: records

/-- A copy with its title, its loans and its reservations, oldest first. -/
def copyDetails (copyId : Int) : Procedure CopyDetails := do
  let copy ← getCopy copyId
  let book ← Procedure.require (← Procedure.request (.getBook copy.bookId))
    (.inconsistent (.copyBook copy.id copy.bookId))
  let loans ← Lending.list { copyId := some copy.id } .ascending
  let records ← loanRecords loans
  let reservations ← Holds.list { copyId := some copy.id } .ascending
  return ⟨copy, book, records, reservations⟩

/-- The copies a filter admits. -/
def listCopies (filter : CopyFilter) (window : Window) : Procedure (List Copy) :=
  Procedure.request (.listCopies filter window)

/-- How many copies a filter admits. -/
def countCopies (filter : CopyFilter) : Procedure Int :=
  Procedure.request (.countCopies filter)

end Circulation.Desk
