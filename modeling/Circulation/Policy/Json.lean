import Circulation.Json
import Circulation.Policy

/-!
# Policies as JSON

A policy is read whole, when only `max_renewals` may be missing, or as changes to another one.
-/

namespace Circulation.Policy

/-- A policy as JSON. -/
def toJson (p : Policy) : Json :=
  .obj [ ("max_loans", .int p.maxLoans), ("max_reservations", .int p.maxReservations),
    ("loan_period_days", .int p.loanPeriodDays), ("renewal_period_days", .int p.renewalPeriodDays),
    ("reservation_hold_days", .int p.reservationHoldDays), ("daily_fine_rate", .ofDecimal p.dailyFineRate),
    ("max_renewals", .ofOption .int p.maxRenewals) ]

/-- Reads a policy. -/
def ofJson? (j : Json) : Option Policy := do
  let f ← j.fieldsOf?
    [ "max_loans", "max_reservations", "loan_period_days", "renewal_period_days", "reservation_hold_days",
      "daily_fine_rate", "max_renewals" ] 1
  return {
    maxLoans := ← f.required? "max_loans" Json.toInt64?
    maxReservations := ← f.required? "max_reservations" Json.toInt64?
    loanPeriodDays := ← f.required? "loan_period_days" Json.toInt64?
    renewalPeriodDays := ← f.required? "renewal_period_days" Json.toInt64?
    reservationHoldDays := ← f.required? "reservation_hold_days" Json.toInt64?
    dailyFineRate := ← f.required? "daily_fine_rate" Json.toDecimal?
    maxRenewals := ← f.optional? "max_renewals" Json.toInt32? }

/-- The policy with the fields that an object names replaced. -/
def changedBy? (p : Policy) : Json → Option Policy
  | .obj fields => do
    let f : Json.Fields := ⟨fun name => fields.lookup name⟩
    return {
      maxLoans := ← f.default? "max_loans" p.maxLoans Json.toInt64?
      maxReservations := ← f.default? "max_reservations" p.maxReservations Json.toInt64?
      loanPeriodDays := ← f.default? "loan_period_days" p.loanPeriodDays Json.toInt64?
      renewalPeriodDays := ← f.default? "renewal_period_days" p.renewalPeriodDays Json.toInt64?
      reservationHoldDays := ← f.default? "reservation_hold_days" p.reservationHoldDays Json.toInt64?
      dailyFineRate := ← f.default? "daily_fine_rate" p.dailyFineRate Json.toDecimal?
      maxRenewals := ← f.default? "max_renewals" p.maxRenewals (Json.orNull? Json.toInt32?) }
  | _ => none

end Circulation.Policy
