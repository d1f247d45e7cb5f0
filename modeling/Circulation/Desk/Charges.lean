import Circulation.Overdue
import Circulation.Procedure

/-!
# Charges

The fine for a late return is recorded when the copy comes back and is outstanding until it is settled.
-/

namespace Circulation.Charges

/-- Charges the fine for returning a loan at an instant, if there is one to charge. -/
def charge (policy : Policy) (loan : Loan) (returned : Instant) : Procedure (Option Fine) := do
  match ← Procedure.checked (Overdue.charge loan.dueDate returned policy.dailyFineRate) with
  | none => return none
  | some amount => return some (← Procedure.request (.insertFine ⟨loan.id, amount, returned⟩))

/-- The fine with an id. -/
def get (fineId : Int) : Procedure Fine := do
  Procedure.require (← Procedure.request (.getFine fineId)) (.notFound (.fine fineId))

/-- Settles an outstanding fine. -/
def settle (fineId : Int) : Procedure Fine := do
  let fine ← get fineId
  Procedure.ensure (!fine.settled) (.invalidState .notOutstanding)
  let now ← Procedure.now
  let settled ← Procedure.request (.settleFine fineId now)
  Procedure.ensure settled (.invalidState .notOutstanding)
  return { fine with settled := true, updatedAt := now }

/-- A fine with its loan. -/
def details (fineId : Int) : Procedure FineDetails := do
  let fine ← get fineId
  let loan ← Procedure.require (← Procedure.request (.getLoan fine.loanId))
    (.inconsistent (.fineLoan fine.id fine.loanId))
  return ⟨fine, loan⟩

/-- The fines of a loan, oldest first. -/
def ofLoan (loanId : Int) : Procedure (List Fine) :=
  Procedure.request (.listFines { loanId := some loanId } .ascending)

/-- The fines a filter admits. -/
def list (filter : FineFilter) (window : Window) : Procedure (List Fine) :=
  Procedure.request (.listFines filter window)

/-- How many fines a filter admits. -/
def count (filter : FineFilter) : Procedure Int :=
  Procedure.request (.countFines filter)

/-- What a user owes in all. -/
def outstandingTotal (userId : Int) : Procedure Decimal :=
  Procedure.request (.outstandingTotal userId)

end Circulation.Charges
