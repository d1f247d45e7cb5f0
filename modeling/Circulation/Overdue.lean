import Circulation.Policy

/-!
# Late returns

A copy that comes back after its due date costs the daily rate for every day begun, rounded to two places.
`Overdue.days` counts the days and `Overdue.charge` prices them.
-/

namespace Circulation.Overdue

/-- The days from `due` to `returned`, a day begun counting whole; none when the copy is on time. -/
def days (due returned : Instant) : Int :=
  if returned ≤ due then 0
  else
    let elapsed := (returned.since due).nanos
    let whole := elapsed.tdiv Span.day
    if whole * Span.day < elapsed then whole + 1 else whole

/-- The charge for a return at `returned`, rounded to two places; nothing is charged for a return on time. -/
def charge (due returned : Instant) (rate : Decimal) : Except Overflow (Option Decimal) :=
  let late := days due returned
  if late = 0 then .ok none
  else
    match (Decimal.ofInt? late).bind (Decimal.mul? · rate) with
    | some charge => .ok (some (charge.round 2))
    | none => .error .product

end Circulation.Overdue
