import Circulation.Proofs.Charges
import Circulation.Proofs.Decisions
import Circulation.Proofs.Terms

/-!
# Where arithmetic ends

A valid policy is bounded from below only: a period may end after the last instant there is, and a rate may be too high for
its product with the days of a late return. One lemma for each operation of the desk that counts days says when it goes out
of range; main statement: from clocks of the years 1970 to 9999, exactly then and never for periods of a quarter of a
million years and rates that leave room for three million days (`overflows_beyond_range`).
-/

namespace Circulation

/-- Whether a procedure ends because arithmetic went out of range. -/
def Procedure.Overflows {α : Type} (timeline : Nat → Instant) (p : Procedure α) (w : Work) : Prop :=
  ∃ what, p.result timeline w = .error (.overflowed what)

/-- Whether a stop is the refusal that a decision names, or an overflow where the decision names none and `excess` holds. -/
def Stop.Exceeds (refusal? : Option Refusal) (excess : Prop) : Stop → Prop
  | .refused why => refusal? = some why
  | .overflowed _ => refusal? = none ∧ excess

/-- A procedure that obeys a decision, and has a result only without excess, goes out of range exactly when it is not refused
and there is an excess. -/
theorem Procedure.Concludes.overflows_iff {α : Type} {timeline : Nat → Instant} {p : Procedure α} {w : Work}
    {refusal? : Option Refusal} {excess : Prop}
    (h : p.Concludes timeline (fun _ _ => ¬excess) (fun why _ => why.Exceeds refusal? excess) w) :
    p.Overflows timeline w ↔ refusal? = none ∧ excess := by
  constructor
  · rintro ⟨what, hr⟩
    obtain ⟨-, hexceeds⟩ := h.result_error hr
    exact hexceeds
  · rintro ⟨hnone, hexcess⟩
    rcases hr : p.result timeline w with why | a
    · obtain ⟨-, hexceeds⟩ := h.result_error hr
      cases why with
      | refused why => exact absurd (hnone.symm.trans hexceeds) (by simp)
      | overflowed what => exact ⟨what, hr⟩
    · obtain ⟨-, hnot⟩ := h.result_ok hr
      exact absurd hexcess hnot

/-- A valid policy has no negative rate. -/
theorem Policy.dailyFineRate_nonneg {policy : Policy} (h : policy.isValid = true) : 0 ≤ policy.dailyFineRate.value :=
  Decimal.value_nonneg (Policy.not_breaks h .dailyFineRate)

/-- The days of a period cannot be counted from an instant exactly if they end after the last one. -/
theorem Instant.after_error_iff {t : Instant} {n : Int} (hn : 1 ≤ n) :
    (∃ what, (Policy.days n).bind t.after = .error what) ↔ 8_210_266_876_799 < t.second + 86_400 * n := by
  rw [← Int.not_le, ← Instant.exists_after_iff hn]
  cases (Policy.days n).bind t.after with
  | error what => simp
  | ok t' => simp

/-! ## Operations -/

section

variable {policy : Policy} {timeline : Nat → Instant} {base : Ledger} {d : Draft} {n : Int} {i : Nat}

/-- What is charged is in reach. -/
theorem Charged.not_large {l : Loan} {t : Instant} {d' : Draft} {n' : Int} (h : Charged policy d n l t d' n') :
    ¬2 ^ 96 - 1 / 2 ≤ |Overdue.days l.dueDate t * policy.dailyFineRate.value| := by
  intro hlarge
  have herror := Overdue.charge_eq_error_iff.2 ⟨rfl, hlarge⟩
  cases h with
  | none hnone => nomatch hnone.symm.trans herror
  | fine hsome => nomatch hsome.symm.trans herror

namespace Desk

/-- A copy is not lent for want of a due date exactly if the loan would pass all tests and its period ends after the last
instant. -/
theorem borrow_overflows_iff (hvalid : policy.isValid = true) (hs : d.Stands base n) (copyId userId : Int) :
    (borrow policy copyId userId).Overflows timeline ⟨d, n, i⟩ ↔
      (Operation.borrow copyId userId).refusal? policy d.tables = none ∧ ∃ c, d.tables.liveCopy? copyId = some c ∧
        8_210_266_876_799 < (timeline (i + c.releaseReadings)).second + 86_400 * policy.loanPeriodDays := by
  have hday := Policy.one_le_loanPeriodDays hvalid
  refine Procedure.Concludes.overflows_iff (borrow_concludes_at hs (fun _ _ hwhy => hwhy) ?excess ?lent)
  case excess =>
    intro what w c hpass hc hover
    exact ⟨hpass, c, hc, (Instant.after_error_iff hday).1 ⟨what, hover⟩⟩
  case lent =>
    rintro c - due - - - - hc - - - hdue - - - ⟨c', hc', hlast⟩
    cases hc.symm.trans hc'
    have hreach := (Instant.exists_after_iff hday).1 ⟨due, hdue⟩
    omega

/-- A copy is not held for want of an expiry exactly if the hold would pass all tests and ends after the last instant. -/
theorem reserve_overflows_iff (hvalid : policy.isValid = true) (hs : d.Stands base n) (copyId userId : Int) :
    (reserve policy copyId userId).Overflows timeline ⟨d, n, i⟩ ↔
      (Operation.reserve copyId userId).refusal? policy d.tables = none ∧
        8_210_266_876_799 < (timeline i).second + 86_400 * policy.reservationHoldDays := by
  have hday := Policy.one_le_reservationHoldDays hvalid
  refine Procedure.Concludes.overflows_iff (reserve_concludes hs (fun _ _ hwhy => hwhy) ?excess ?placed)
  case excess => exact fun what w hpass hover => ⟨hpass, (Instant.after_error_iff hday).1 ⟨what, hover⟩⟩
  case placed =>
    intro c expiry k m hpass hid hc hshelf hexpiry hk hm hlast
    have hreach := (Instant.exists_after_iff hday).1 ⟨expiry, hexpiry⟩
    omega

/-- A loan cannot be taken back for want of a fine exactly if the return would pass all tests and the price of its delay is
out of reach. -/
theorem returnLoan_overflows_iff (hs : d.Stands base n) (loanId : Int) :
    (returnLoan policy loanId).Overflows timeline ⟨d, n, i⟩ ↔
      (Operation.returnLoan loanId).refusal? policy d.tables = none ∧ ∃ l, d.tables.loans.get? loanId = some l ∧
        2 ^ 96 - 1 / 2 ≤ |Overdue.days l.dueDate (timeline i) * policy.dailyFineRate.value| := by
  refine Procedure.Concludes.overflows_iff (returnLoan_concludes hs (fun _ _ hwhy => hwhy) ?excess ?returned)
  case excess =>
    intro what w l hpass hl hover
    exact ⟨hpass, l, hl, (Overdue.charge_eq_error_iff.1 hover).2⟩
  case returned =>
    rintro c l d₁ k₀ k j m - rfl hl - - - - - hcharged - - ⟨l', hl', hlarge⟩
    cases hl.symm.trans hl'
    exact hcharged.not_large hlarge

/-- Bringing a copy back overflows exactly when nothing refuses it and the price of the delay of its loan is beyond what a
decimal holds. -/
theorem returnCopy_overflows_iff (hs : d.Stands base n) (copyId : Int) :
    (returnCopy policy copyId).Overflows timeline ⟨d, n, i⟩ ↔
      (Operation.returnCopy copyId).refusal? policy d.tables = none ∧ ∃ l, d.tables.loanOf? copyId = some l ∧
        2 ^ 96 - 1 / 2 ≤ |Overdue.days l.dueDate (timeline i) * policy.dailyFineRate.value| := by
  refine Procedure.Concludes.overflows_iff (returnCopy_concludes hs (fun _ _ hwhy => hwhy) ?excess ?returned)
  case excess =>
    intro what w l hpass hl hover
    exact ⟨hpass, l, hl, (Overdue.charge_eq_error_iff.1 hover).2⟩
  case returned =>
    rintro c l d₁ k₀ k j m - - hl - - - - - - hcharged - - ⟨l', hl', hlarge⟩
    cases hl.symm.trans hl'
    exact hcharged.not_large hlarge

end Desk

end

/-! ## Clocks in use -/

/-- Whether an instant lies in the years 1970 to 9999. -/
def Instant.InUse (t : Instant) : Prop :=
  0 ≤ t.second ∧ t.second ≤ 253_402_300_799

instance : DecidablePred Instant.InUse := fun t =>
  inferInstanceAs (Decidable (0 ≤ t.second ∧ t.second ≤ 253_402_300_799))

section

variable {policy : Policy} {strict steady : Prop} {s : Traffic} {k : Nat} {x : Transaction} {timeline : Nat → Instant}
  {n : Int} {i : Nat} {t : Instant} {l : Loan} {id : Int}

/-- No loan was due before the second day of 1970, so none comes back three million days late. -/
theorem Reachable.days_le (hvalid : policy.isValid = true)
    (h : Reachable (Rules.service policy strict steady Instant.InUse) s) (hx : s.opened k = some x)
    (hl : x.draft.tables.loans.get? id = some l) (ht : t.InUse) : Overdue.days l.dueDate t ≤ 2_932_897 := by
  have hterms : l.WithinTerms 0 :=
    ((h.withinTerms hvalid (by decide) fun t ht => ht.1).opened k x hx).draft id l hl
  have hcount := hterms.count
  have hdue := hterms.days
  have hlast := ht.2
  obtain ⟨-, hdays⟩ := Overdue.days_bounds l.dueDate t
  by_cases hzero : Overdue.days l.dueDate t = 0
  · omega
  · have hbegun := hdays hzero
    omega

/-- In years of four digits a moderate rate makes no price too large for a decimal. -/
theorem Reachable.price_small (hvalid : policy.isValid = true)
    (h : Reachable (Rules.service policy strict steady Instant.InUse) s) (hx : s.opened k = some x)
    (hl : x.draft.tables.loans.get? id = some l) (ht : t.InUse)
    (hrate : 2_932_897 * policy.dailyFineRate.value < 2 ^ 96 - 1 / 2) :
    |Overdue.days l.dueDate t * policy.dailyFineRate.value| < 2 ^ 96 - 1 / 2 := by
  have hnonneg := Policy.dailyFineRate_nonneg hvalid
  have hdays : (0 : Rat) ≤ Overdue.days l.dueDate t := by
    exact_mod_cast (Overdue.days_bounds l.dueDate t).1
  have hfew : (Overdue.days l.dueDate t : Rat) ≤ 2_932_897 := by
    exact_mod_cast h.days_le hvalid hx hl ht
  rw [abs_of_nonneg (mul_nonneg hdays hnonneg)]
  exact (mul_le_mul_of_nonneg_right hfew hnonneg).trans_lt hrate

/-- By clocks of the years 1970 to 9999, and under a valid policy, lending and holding go out of range exactly when all tests
are passed and the period ends after the last instant there is, and taking back exactly when all tests are passed and the
price of the delay takes more than 96 bits. So periods of up to 92093340 days and a rate that leaves room for 2932897 days
are never out of range. -/
theorem overflows_beyond_range (hvalid : policy.isValid = true)
    (h : Reachable (Rules.service policy strict steady Instant.InUse) s) (hx : s.opened k = some x)
    (htime : ∀ i, (timeline i).InUse) (hn : s.ledger.lastId ≤ n) :
    (∀ copyId userId, (Desk.borrow policy copyId userId).Overflows timeline ⟨x.draft, n, i⟩ ↔
      (Operation.borrow copyId userId).refusal? policy x.draft.tables = none ∧
        ∃ c, x.draft.tables.liveCopy? copyId = some c ∧
          8_210_266_876_799 < (timeline (i + c.releaseReadings)).second + 86_400 * policy.loanPeriodDays) ∧
    (∀ copyId userId, (Desk.reserve policy copyId userId).Overflows timeline ⟨x.draft, n, i⟩ ↔
      (Operation.reserve copyId userId).refusal? policy x.draft.tables = none ∧
        8_210_266_876_799 < (timeline i).second + 86_400 * policy.reservationHoldDays) ∧
    (∀ loanId, (Desk.returnLoan policy loanId).Overflows timeline ⟨x.draft, n, i⟩ ↔
      (Operation.returnLoan loanId).refusal? policy x.draft.tables = none ∧
        ∃ l, x.draft.tables.loans.get? loanId = some l ∧
          2 ^ 96 - 1 / 2 ≤ |Overdue.days l.dueDate (timeline i) * policy.dailyFineRate.value|) ∧
    (∀ copyId, (Desk.returnCopy policy copyId).Overflows timeline ⟨x.draft, n, i⟩ ↔
      (Operation.returnCopy copyId).refusal? policy x.draft.tables = none ∧
        ∃ l, x.draft.tables.loanOf? copyId = some l ∧
          2 ^ 96 - 1 / 2 ≤ |Overdue.days l.dueDate (timeline i) * policy.dailyFineRate.value|) ∧
    (policy.loanPeriodDays ≤ 92_093_340 →
      ∀ copyId userId, ¬(Desk.borrow policy copyId userId).Overflows timeline ⟨x.draft, n, i⟩) ∧
    (policy.reservationHoldDays ≤ 92_093_340 →
      ∀ copyId userId, ¬(Desk.reserve policy copyId userId).Overflows timeline ⟨x.draft, n, i⟩) ∧
    (2_932_897 * policy.dailyFineRate.value < 2 ^ 96 - 1 / 2 →
      (∀ loanId, ¬(Desk.returnLoan policy loanId).Overflows timeline ⟨x.draft, n, i⟩) ∧
        ∀ copyId, ¬(Desk.returnCopy policy copyId).Overflows timeline ⟨x.draft, n, i⟩) := by
  have hs : x.draft.Stands x.base n := (h.sound.opened k x hx).stands.mono hn
  refine ⟨Desk.borrow_overflows_iff hvalid hs, Desk.reserve_overflows_iff hvalid hs, Desk.returnLoan_overflows_iff hs,
    Desk.returnCopy_overflows_iff hs, fun hperiod copyId userId hover => ?lent, fun hperiod copyId userId hover => ?held,
    fun hrate => ⟨fun loanId hover => ?returned, fun copyId hover => ?copyReturned⟩⟩
  case lent =>
    obtain ⟨-, c, -, hlast⟩ := (Desk.borrow_overflows_iff hvalid hs copyId userId).1 hover
    have hclock := (htime (i + c.releaseReadings)).2
    omega
  case held =>
    obtain ⟨-, hlast⟩ := (Desk.reserve_overflows_iff hvalid hs copyId userId).1 hover
    have hclock := (htime i).2
    omega
  case returned =>
    obtain ⟨-, l, hl, hlarge⟩ := (Desk.returnLoan_overflows_iff hs loanId).1 hover
    exact hlarge.not_gt (h.price_small hvalid hx hl (htime i) hrate)
  case copyReturned =>
    obtain ⟨-, l, hl, hlarge⟩ := (Desk.returnCopy_overflows_iff hs copyId).1 hover
    obtain ⟨⟨id, hrow⟩, -⟩ := Table.get?_of_find?_rows hl
    exact hlarge.not_gt (h.price_small hvalid hx hrow (htime i) hrate)

end

/-- A desk at the start of 1970 where a transaction has just added a copy. -/
def justAdded : Traffic :=
  let s : Traffic := { clock := .epoch }
  let s := ((s.act (.addBook "Emma")).act (.addUser "ann")).act (.begin 0)
  s.serve 0 (Operation.procedure {} (.addCopy 1))

theorem justAdded_reachable (policy : Policy) : Reachable (Rules.service policy True True Instant.InUse) justAdded := by
  have start : Reachable (Rules.service policy True True Instant.InUse) { clock := .epoch } := .start .epoch ⟨by decide, by decide⟩
  have opened := ((start.act (.addBook "Emma") trivial).act (.addUser "ann") trivial).act (.begin 0) trivial
  exact opened.serve (fun _ _ => .inl ⟨.addCopy 1, rfl⟩) fun _ => by decide +kernel

/-- The same desk after the transaction has lent the copy. -/
def justLent (policy : Policy) : Traffic :=
  justAdded.serve 0 (Operation.procedure policy (.borrow 3 2))

theorem justLent_reachable (policy : Policy) :
    Reachable (Rules.service policy True True Instant.InUse) (justLent policy) :=
  (justAdded_reachable policy).serve (fun _ _ => .inl ⟨.borrow 3 2, rfl⟩) fun _ => by decide +kernel

/-- The start of 17 January 1970. -/
def sixteenDaysOn : Instant :=
  (Instant.epoch.add? ⟨16 * Span.day⟩).getD .epoch

/-- Loans for as many days as a count may say. -/
def endlessLoans : Policy :=
  { loanPeriodDays := 9_223_372_036_854_775_807 }

/-- Holds for a hundred million days. -/
def endlessHolds : Policy :=
  { reservationHoldDays := 100_000_000 }

/-- The highest rate there is. -/
def highestRate : Policy :=
  { dailyFineRate := ⟨false, 79_228_162_514_264_337_593_543_950_335, 0, by decide⟩ }

/-- The work of a transaction that is on its own. -/
def Traffic.workOf (s : Traffic) (k : Nat) : Option Work :=
  (s.opened k).map fun x => ⟨x.draft, s.ledger.lastId, 0⟩

/-- Valid policies by which lending, holding and taking back go out of range, each on the first copy ever added. -/
theorem valid_policies_overflow :
    (endlessLoans.isValid = true ∧ Reachable (Rules.service endlessLoans True True Instant.InUse) justAdded ∧
      ∃ w, justAdded.workOf 0 = some w ∧
        (Desk.borrow endlessLoans 3 2).result (fun _ => .epoch) w = .error (.overflowed .dayCount)) ∧
    (endlessHolds.isValid = true ∧ Reachable (Rules.service endlessHolds True True Instant.InUse) justAdded ∧
      ∃ w, justAdded.workOf 0 = some w ∧
        (Desk.reserve endlessHolds 3 2).result (fun _ => .epoch) w = .error (.overflowed .instant)) ∧
    highestRate.isValid = true ∧ Reachable (Rules.service highestRate True True Instant.InUse) (justLent highestRate) ∧
      Instant.epoch.InUse ∧ sixteenDaysOn.InUse ∧ ∃ w, (justLent highestRate).workOf 0 = some w ∧
        (Desk.returnLoan highestRate 4).result (fun _ => sixteenDaysOn) w = .error (.overflowed .product) ∧
        (Desk.returnCopy highestRate 3).result (fun _ => sixteenDaysOn) w = .error (.overflowed .product) := by
  refine ⟨⟨by decide, justAdded_reachable _, _, rfl, ?_⟩, ⟨by decide, justAdded_reachable _, _, rfl, ?_⟩, by decide,
    justLent_reachable _, by decide, by decide, _, rfl, ?_, ?_⟩
  all_goals rfl

/-- By usual terms nothing goes out of range sixteen days after a copy was lent. -/
theorem justLent_in_range : ∃ x, (justLent {}).opened 0 = some x ∧
    (∀ copyId userId, ¬(Desk.borrow {} copyId userId).Overflows (fun _ => sixteenDaysOn) ⟨x.draft, 5, 0⟩) ∧
    (∀ copyId userId, ¬(Desk.reserve {} copyId userId).Overflows (fun _ => sixteenDaysOn) ⟨x.draft, 5, 0⟩) ∧
    (∀ loanId, ¬(Desk.returnLoan {} loanId).Overflows (fun _ => sixteenDaysOn) ⟨x.draft, 5, 0⟩) ∧
    ∀ copyId, ¬(Desk.returnCopy {} copyId).Overflows (fun _ => sixteenDaysOn) ⟨x.draft, 5, 0⟩ := by
  have hrate : 2_932_897 * ({} : Policy).dailyFineRate.value < 2 ^ 96 - 1 / 2 := by
    norm_num [Policy.usualFineRate, Decimal.value, Decimal.mantissa, Decimal.signed]
  obtain ⟨x, hx⟩ := Option.isSome_iff_exists.1 (show ((justLent {}).opened 0).isSome = true by decide +kernel)
  obtain ⟨-, -, -, -, hborrow, hreserve, hreturn⟩ :=
    @overflows_beyond_range {} True True (justLent {}) 0 x (fun _ => sixteenDaysOn) 5 0 (by decide) (justLent_reachable {}) hx
      (fun _ => by decide) (by decide +kernel)
  exact ⟨x, hx, hborrow (by decide), hreserve (by decide), hreturn hrate⟩

end Circulation
