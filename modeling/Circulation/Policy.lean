import Circulation.Decimal
import Circulation.Instant
import Circulation.Refusal

/-!
# The lending policy

The numbers the desk lends by: how many loans and reservations a user may have, for how long copies are lent, renewed
and held, what a day of delay costs and how often a loan may be renewed. `Policy.violations` lists the fields that no
desk could work with.
-/

namespace Circulation

/-- What a day of delay costs when nothing else is said. -/
def Policy.usualFineRate : Decimal :=
  ⟨false, 50, 2, by decide⟩

/-- The numbers the desk lends by. Without `maxRenewals` loans may be renewed without end. -/
structure Policy where
  maxLoans : Int := 3
  maxReservations : Int := 3
  loanPeriodDays : Int := 14
  renewalPeriodDays : Int := 14
  reservationHoldDays : Int := 7
  dailyFineRate : Decimal := Policy.usualFineRate
  maxRenewals : Option Int := none
  deriving DecidableEq, Inhabited

/-- A field of a policy that breaks its rule. -/
inductive Violation where
  | maxLoans
  | maxReservations
  | loanPeriodDays
  | renewalPeriodDays
  | reservationHoldDays
  | dailyFineRate
  | maxRenewals
  deriving DecidableEq, Repr

namespace Violation

/-- Every field that has a rule. -/
def all : List Violation :=
  [ .maxLoans, .maxReservations, .loanPeriodDays, .renewalPeriodDays, .reservationHoldDays, .dailyFineRate,
    .maxRenewals ]

/-- The written name of the field. -/
def field : Violation → String
  | .maxLoans => "max_loans"
  | .maxReservations => "max_reservations"
  | .loanPeriodDays => "loan_period_days"
  | .renewalPeriodDays => "renewal_period_days"
  | .reservationHoldDays => "reservation_hold_days"
  | .dailyFineRate => "daily_fine_rate"
  | .maxRenewals => "max_renewals"

/-- The code of the rule: a rate below zero, or a number out of its range. -/
def code : Violation → String
  | .dailyFineRate => "negative_fine_rate"
  | _ => "range"

end Violation

namespace Policy

/-- Whether a field breaks its rule: at least one loan and one day per period, and no negative number elsewhere. -/
def breaks (p : Policy) : Violation → Bool
  | .maxLoans => p.maxLoans < 1
  | .maxReservations => p.maxReservations < 0
  | .loanPeriodDays => p.loanPeriodDays < 1
  | .renewalPeriodDays => p.renewalPeriodDays < 1
  | .reservationHoldDays => p.reservationHoldDays < 1
  | .dailyFineRate => p.dailyFineRate.isNegative
  | .maxRenewals => p.maxRenewals.any (· < 0)

/-- The fields that break their rule. -/
def violations (p : Policy) : List Violation :=
  Violation.all.filter p.breaks

/-- Whether every field keeps its rule. -/
def isValid (p : Policy) : Bool :=
  p.violations.isEmpty

/-- A number of days as a span. -/
def days (n : Int) : Except Overflow Span :=
  match Span.ofDays? n with
  | some d => .ok d
  | none => .error .dayCount

/-- How long a copy is lent. -/
def loanPeriod (p : Policy) : Except Overflow Span :=
  days p.loanPeriodDays

/-- By how much a renewal moves the due date. -/
def renewalPeriod (p : Policy) : Except Overflow Span :=
  days p.renewalPeriodDays

/-- How long a copy is held. -/
def reservationHold (p : Policy) : Except Overflow Span :=
  days p.reservationHoldDays

end Policy

/-- An instant a span later, as arithmetic that may go out of range. -/
def Instant.after (t : Instant) (d : Span) : Except Overflow Instant :=
  match t.add? d with
  | some t => .ok t
  | none => .error .instant

end Circulation
