import Circulation.Policy
import Circulation.Procedure

/-!
# Limits per user

A user may have only so many loans and reservations, and only one loan and one reservation on a title. The cap on
loans is reached at `maxLoans`; the cap on reservations is passed above `maxReservations`.
-/

namespace Circulation.Limits

variable (policy : Policy)

/-- Whether a number of loans is at the cap. -/
def atLoanCap (count : Int) : Bool :=
  policy.maxLoans ≤ count

/-- Whether a number of reservations is above the cap. -/
def aboveReservationCap (count : Int) : Bool :=
  policy.maxReservations < count

/-- Whether a user has as many loans as the policy allows. -/
def loansExhausted (userId : Int) : Procedure Bool := do
  return atLoanCap policy (← Procedure.request (.countBorrowed userId))

/-- Whether a user has more reservations than the policy allows. -/
def reservationsExceeded (userId : Int) : Procedure Bool := do
  return aboveReservationCap policy (← Procedure.request (.countPending userId))

/-- Whether a user has a copy of a title out. -/
def hasLoanOnTitle (userId bookId : Int) : Procedure Bool := do
  let count ← Procedure.request (.countBorrowedTitle userId bookId)
  return 0 < count

/-- Whether a user has a pending reservation on a title. -/
def hasReservationOnTitle (userId bookId : Int) : Procedure Bool := do
  let count ← Procedure.request (.countPendingTitle userId bookId)
  return 0 < count

/-- Refuses a loan at the cap on loans, then one on a title the user has out. -/
def ensureMayBorrow (userId bookId : Int) : Procedure Unit := do
  let count ← Procedure.request (.countBorrowed userId)
  Procedure.ensure (!atLoanCap policy count) (.ineligible (.maxLoans count policy.maxLoans))
  Procedure.ensure (!(← hasLoanOnTitle userId bookId)) (.ineligible .titleBorrowed)

/-- Refuses a reservation above the cap on reservations, then one on a title the user has out, then one on a title the
user has reserved. -/
def ensureMayReserve (userId bookId : Int) : Procedure Unit := do
  let count ← Procedure.request (.countPending userId)
  Procedure.ensure (!aboveReservationCap policy count) (.ineligible (.maxReservations count policy.maxReservations))
  Procedure.ensure (!(← hasLoanOnTitle userId bookId)) (.ineligible .titleBorrowed)
  Procedure.ensure (!(← hasReservationOnTitle userId bookId)) (.ineligible .titleReserved)

end Circulation.Limits
