import Circulation.Desk.Charges

/-!
# Lending

A loan is opened for one loan period, extended by renewal periods, and closed when its copy comes back, with the fine
that is due by then. Every step leaves an entry in the loan's history. These procedures see to the loan alone; what
becomes of the copy is the desk's affair.
-/

namespace Circulation.Lending

/-- Opens a loan of a copy to a user, due one loan period from now. -/
def lend (policy : Policy) (copy : Copy) (userId : Int) : Procedure Loan := do
  let now ← Procedure.now
  let period ← Procedure.checked policy.loanPeriod
  let due ← Procedure.checked (now.after period)
  let loan ← Procedure.request (.insertLoan ⟨copy.id, copy.bookId, userId, now, due⟩)
  let _ ← Procedure.request (.insertEntry ⟨loan.id, .borrowed, due, none, now⟩)
  return loan

/-- Writes a loan that is still borrowed with the expected renewal count, or refuses because it is not. -/
def write (loan : Loan) (expected : Int) : Procedure Unit := do
  let written ← Procedure.request (.updateLoan loan expected)
  Procedure.ensure written (.conflict (.loanChanged loan.id))

/-- Closes a borrowed loan now and charges the fine that is due. -/
def takeBack (policy : Policy) (loan : Loan) : Procedure Loan := do
  Procedure.ensure loan.isBorrowed (.invalidState .notOnLoan)
  let now ← Procedure.now
  let _ ← Charges.charge policy loan now
  let closed := { loan with status := .returned, returnDate := some now, updatedAt := now }
  write closed loan.renewCount
  let _ ← Procedure.request (.insertEntry ⟨loan.id, .returned, loan.dueDate, none, now⟩)
  return closed

/-- Refuses a renewal of a loan that has been renewed as often as the policy allows. -/
def ensureRenewable (policy : Policy) (loan : Loan) : Procedure Unit :=
  match policy.maxRenewals with
  | none => pure ()
  | some max => Procedure.ensure (loan.renewCount < max) (.ineligible (.maxRenewals loan.renewCount max))

/-- Moves the due date of a borrowed loan by one renewal period. -/
def renew (policy : Policy) (loan : Loan) : Procedure Loan := do
  Procedure.ensure loan.isBorrowed (.invalidState .notOnLoan)
  ensureRenewable policy loan
  let now ← Procedure.now
  let period ← Procedure.checked policy.renewalPeriod
  let due ← Procedure.checked (loan.dueDate.after period)
  let renewed := { loan with dueDate := due, renewCount := loan.nextRenewCount, updatedAt := now }
  write renewed loan.renewCount
  let _ ← Procedure.request (.insertEntry ⟨loan.id, .renewed, due, some loan.dueDate, now⟩)
  return renewed

/-- The loan with an id. -/
def get (loanId : Int) : Procedure Loan := do
  Procedure.require (← Procedure.request (.getLoan loanId)) (.notFound (.loan loanId))

/-- The borrowed loan of a copy. -/
def active (copyId : Int) : Procedure (Option Loan) :=
  Procedure.request (.activeLoan copyId)

/-- The history of a loan, oldest entry first. -/
def entries (loanId : Int) : Procedure (List LoanEntry) :=
  Procedure.request (.listEntries loanId)

/-- A loan with all it refers to. -/
def details (loanId : Int) : Procedure LoanDetails := do
  let loan ← get loanId
  let copy ← Procedure.require (← Procedure.request (.getCopy loan.copyId))
    (.inconsistent (.loanCopy loan.id loan.copyId))
  let book ← Procedure.require (← Procedure.request (.getBook loan.bookId))
    (.inconsistent (.loanBook loan.id loan.bookId))
  let borrower ← Procedure.request (.getUser loan.userId)
  let entries ← entries loan.id
  let fines ← Charges.ofLoan loan.id
  let now ← Procedure.now
  return ⟨loan, copy, book, borrower, entries, fines, loan.isOverdue now⟩

/-- How many loans a user has out. -/
def countOutstanding (userId : Int) : Procedure Int :=
  Procedure.request (.countBorrowed userId)

/-- The loans a filter admits. -/
def list (filter : LoanFilter) (window : Window) : Procedure (List Loan) :=
  Procedure.request (.listLoans filter window)

/-- How many loans a filter admits. -/
def count (filter : LoanFilter) : Procedure Int :=
  Procedure.request (.countLoans filter)

end Circulation.Lending
