import Circulation.Proofs.Concludes
import Circulation.Proofs.Moves

/-!
# What the desk tests

The desk puts a request to tests, one after the other, and refuses it with the first that is failed (`firstFailed`). What a test
asks is decided by rows and counts in the tables of the draft. One lemma for each part of an operation says what it concludes:
which tests it puts, the draft it leaves and the row it answers. Each conditional write of it is done, since the row it names
was read in the same draft.
-/

namespace Circulation

/-- A test that a request is put to, and the refusal of one that fails it. -/
structure Test where
  passes : Bool
  refusal : Refusal

/-- The refusal of the first test that is failed. -/
def firstFailed (tests : List Test) : Option Refusal :=
  (tests.find? (!·.passes)).map (·.refusal)

section

variable {tests more : List Test} {why : Refusal}

@[simp]
theorem firstFailed_nil : firstFailed [] = none := rfl

/-- Of some tests the first that is failed decides. -/
@[simp]
theorem firstFailed_cons (passes : Bool) :
    firstFailed (⟨passes, why⟩ :: tests) = if passes then firstFailed tests else some why := by
  cases passes <;> simp [firstFailed]

/-- Of two lists of tests the first decides, unless all of it is passed. -/
theorem firstFailed_append : firstFailed (tests ++ more) = (firstFailed tests).or (firstFailed more) := by
  simp only [firstFailed, List.find?_append]
  cases tests.find? (!·.passes) <;> rfl

/-- Nothing is refused exactly when all tests are passed. -/
theorem firstFailed_eq_none_iff : firstFailed tests = none ↔ ∀ test ∈ tests, test.passes = true := by
  simp only [firstFailed, Option.map_eq_none_iff, List.find?_eq_none, Bool.not_eq_true', Bool.not_eq_false]

/-- What no test is failed with is not what is refused. -/
theorem firstFailed_ne (h : ∀ test ∈ tests, test.refusal ≠ why) : firstFailed tests ≠ some why := by
  intro hfailed
  obtain ⟨test, hfind, hwhy⟩ := Option.map_eq_some_iff.1 hfailed
  exact h test (List.mem_of_find?_eq_some hfind) hwhy

/-- A test that is failed is failed before those that come after it. -/
theorem firstFailed_of_left (h : firstFailed tests = some why) : firstFailed (tests ++ more) = some why := by
  rw [firstFailed_append, h]
  rfl

/-- Where some tests are passed those that come after them decide. -/
theorem firstFailed_of_right (h : firstFailed tests = none) : firstFailed (tests ++ more) = firstFailed more := by
  rw [firstFailed_append, h]
  rfl

end

namespace Tables

/-- The copy with an id, unless it is withdrawn. -/
def liveCopy? (t : Tables) (id : Int) : Option Copy :=
  (t.copies.get? id).filter (!·.isDeleted)

/-- The first borrowed loan of a copy. -/
def loanOf? (t : Tables) (copyId : Int) : Option Loan :=
  t.loans.rows.find? fun l => l.copyId = copyId && l.isBorrowed

/-- The first pending reservation on a copy. -/
def holdOn? (t : Tables) (copyId : Int) : Option Reservation :=
  t.reservations.rows.find? fun r => r.copyId = copyId && r.isPending

end Tables

/-- The tests of a copy that has to be on the shelf. -/
def Copy.shelfTests (c : Copy) : List Test :=
  [ ⟨c.status ≠ .onLoan, .invalidState .onLoan⟩,
    ⟨c.status ≠ .onReserve, .invalidState .onReserve⟩ ]

/-- The tests of a copy that is to be made ready for a user. -/
def Copy.releaseTests (c : Copy) (t : Tables) (userId : Int) : List Test :=
  [ ⟨c.status ≠ .onLoan, .invalidState .alreadyOnLoan⟩,
    ⟨c.status ≠ .onReserve || (t.holdOn? c.id).any (·.userId = userId), .invalidState .reservedForAnother⟩ ]

/-- How often the clock is read to make a copy ready for a user: once, to fulfil the hold on it. -/
def Copy.releaseReadings (c : Copy) : Nat :=
  if c.status = .onReserve then 1 else 0

/-- The tests of a loan that is to be closed, with its copy. -/
def Loan.closingTests (l : Loan) (c : Copy) : List Test :=
  [ ⟨c.status = .onLoan, .invalidState .notOnLoan⟩,
    ⟨l.isBorrowed, .invalidState .notOnLoan⟩ ]

/-- The tests of a hold that is to be released, with its copy. -/
def Reservation.releaseTests (r : Reservation) (c : Copy) : List Test :=
  [ ⟨c.status = .onReserve, .invalidState .notOnReserve⟩,
    ⟨r.isPending, .invalidState .notPending⟩ ]

namespace Policy

variable (policy : Policy) (t : Tables)

/-- The tests of a user who is to borrow a title. -/
def borrowTests (userId bookId : Int) : List Test :=
  [ ⟨(t.borrowedBy userId).length < policy.maxLoans,
      .ineligible (.maxLoans (t.borrowedBy userId).length policy.maxLoans)⟩,
    ⟨(t.borrowedOnTitle userId bookId).length = 0, .ineligible .titleBorrowed⟩ ]

/-- The tests of a user who is to reserve a title. -/
def reserveTests (userId bookId : Int) : List Test :=
  [ ⟨(t.pendingOf userId).length ≤ policy.maxReservations,
      .ineligible (.maxReservations (t.pendingOf userId).length policy.maxReservations)⟩,
    ⟨(t.borrowedOnTitle userId bookId).length = 0, .ineligible .titleBorrowed⟩,
    ⟨(t.pendingOnTitle userId bookId).length = 0, .ineligible .titleReserved⟩ ]

/-- The tests of a loan that is to be renewed once more. -/
def renewalTests (l : Loan) : List Test :=
  policy.maxRenewals.toList.map fun max => ⟨l.renewCount < max, .ineligible (.maxRenewals l.renewCount max)⟩

end Policy

open Procedure

variable {policy : Policy} {base : Ledger} {d : Draft} {n : Int} {i : Nat} {timeline : Nat → Instant}
  {R : Stop → Work → Prop}

/-! ## Loans -/

namespace Lending

/-- A loan is got if it is there, and is refused as not found if it is not. -/
theorem get_concludes {loanId : Int} {Q : Loan → Work → Prop}
    (found : ∀ l m, n ≤ m → d.tables.loans.get? loanId = some l → Q l ⟨d, m, i⟩)
    (missing : d.tables.loans.get? loanId = none → ∀ w, R (.refused (.notFound (.loan loanId))) w) :
    (get loanId).Concludes timeline Q R ⟨d, n, i⟩ := by
  simp only [get, bind_eq, concludes_bind]
  refine concludes_answer (d.tables.loans.get? loanId) d (fun _ => rfl) rfl fun m hm => ?_
  exact concludes_require.2 ⟨fun l hl => found l m hm hl, fun hnone => missing hnone _⟩

/-- A loan is opened for one period from now, with the first entry of its history. -/
theorem lend_concludes {c : Copy} {userId : Int} {Q : Loan → Work → Prop}
    (overflowed : ∀ what w, policy.loanPeriod.bind (timeline i).after = .error what → R (.overflowed what) w)
    (opened : ∀ due k j, policy.loanPeriod.bind (timeline i).after = .ok due → n < k → k < j →
      Q (NewLoan.toRow ⟨c.id, c.bookId, userId, timeline i, due⟩ k)
        ⟨d.record (NewLoan.toRow ⟨c.id, c.bookId, userId, timeline i, due⟩ k)
          (NewLoanEntry.toRow ⟨k, .borrowed, due, none, timeline i⟩ j), j, i + 1⟩) :
    (lend policy c userId).Concludes timeline Q R ⟨d, n, i⟩ := by
  simp only [lend, bind_eq, pure_eq, concludes_bind]
  refine concludes_now.2 (concludes_checked.2 ⟨fun period hp => ?_, fun what hp => overflowed what _ (by rw [hp]; rfl)⟩)
  rw [hp] at overflowed opened
  refine concludes_checked.2 ⟨fun due hd => ?_, fun what hd => overflowed what _ hd⟩
  refine concludes_insert (NewLoan.toRow ⟨c.id, c.bookId, userId, timeline i, due⟩) Draft.putLoan (fun _ => rfl)
    (fun _ => rfl) fun k hk => ?_
  refine concludes_insert (NewLoanEntry.toRow ⟨k, .borrowed, due, none, timeline i⟩) Draft.putEntry (fun _ => rfl)
    (fun _ => rfl) fun j hj => ?_
  exact opened due k j hd hk hj

/-- A loan is written whose row is borrowed with the count expected. -/
theorem write_concludes {l l' : Loan} {Q : Unit → Work → Prop} (hid : l'.id = l.id)
    (hrow : d.tables.loans.get? l.id = some l) (hborrowed : l.isBorrowed = true)
    (written : ∀ m, n ≤ m → Q () ⟨(d.guard l.id l.renewCount).putLoan { l with
      status := l'.status, dueDate := l'.dueDate, returnDate := l'.returnDate, renewCount := l'.renewCount,
      updatedAt := l'.updatedAt } l.id, m, i⟩) :
    (write l' l.renewCount).Concludes timeline Q R ⟨d, n, i⟩ := by
  simp only [write, bind_eq, concludes_bind]
  have hw : d.updateLoan l' l.renewCount = (true, (d.guard l.id l.renewCount).putLoan { l with
      status := l'.status, dueDate := l'.dueDate, returnDate := l'.returnDate, renewCount := l'.renewCount,
      updatedAt := l'.updatedAt } l.id) := by
    simp [Draft.updateLoan, hid, hrow, hborrowed]
  refine concludes_answer true (d.updateLoan l' l.renewCount).2 (fun m => ?_) rfl fun m hm => ?_
  · simp only [Work.answer, Work.write, hw]
  · rw [hw]
    exact concludes_ensure.2 ⟨fun _ => written m hm, fun hnot => absurd hnot.symm Bool.false_ne_true⟩

/-- A return is charged as the charge says, or overflows with it. -/
theorem charge_concludes {l : Loan} {t : Instant} {Q : Option Fine → Work → Prop}
    (overflowed : ∀ what w, Overdue.charge l.dueDate t policy.dailyFineRate = .error what → R (.overflowed what) w)
    (charged : ∀ f d' m k, n ≤ m → Charged policy d m l t d' k → Q f ⟨d', k, i⟩) :
    (Charges.charge policy l t).Concludes timeline Q R ⟨d, n, i⟩ := by
  simp only [Charges.charge, bind_eq, pure_eq, concludes_bind]
  refine concludes_checked.2 ⟨fun charge hc => ?_, fun what hc => overflowed what _ hc⟩
  cases charge with
  | none => exact charged none d n n (Int.le_refl _) (.none hc)
  | some amount =>
    simp only [concludes_bind]
    refine concludes_insert (NewFine.toRow ⟨l.id, amount, t⟩) Draft.putFine (fun _ => rfl) (fun _ => rfl) fun k hk => ?_
    exact charged _ _ n k (Int.le_refl _) (.fine hc hk)

/-- A borrowed loan is closed now, with its fine and the last entry of its history. -/
theorem takeBack_concludes {l : Loan} {Q : Loan → Work → Prop} (hrow : d.tables.loans.get? l.id = some l)
    (refused : l.isBorrowed = false → ∀ w, R (.refused (.invalidState .notOnLoan)) w)
    (overflowed : ∀ what w, l.isBorrowed = true →
      Overdue.charge l.dueDate (timeline i) policy.dailyFineRate = .error what → R (.overflowed what) w)
    (returned : ∀ d₁ m k j, l.isBorrowed = true → n ≤ m → Charged policy d m l (timeline i) d₁ k → k < j →
      Q (l.closed (timeline i)) ⟨(d₁.guard l.id l.renewCount).record (l.closed (timeline i))
        (NewLoanEntry.toRow ⟨l.id, .returned, l.dueDate, none, timeline i⟩ j), j, i + 1⟩) :
    (takeBack policy l).Concludes timeline Q R ⟨d, n, i⟩ := by
  simp only [takeBack, bind_eq, pure_eq, concludes_bind]
  refine concludes_ensure.2 ⟨fun hb => concludes_now.2 ?_, fun hb => refused hb _⟩
  refine charge_concludes (fun what w hc => overflowed what w hb hc) fun f d₁ m k hm hf => ?_
  have hrow₁ : d₁.tables.loans.get? l.id = some l := by rw [hf.frame.2.loans]; exact hrow
  refine write_concludes rfl hrow₁ hb fun m' hm' => ?_
  refine concludes_insert (NewLoanEntry.toRow ⟨l.id, .returned, l.dueDate, none, timeline i⟩) Draft.putEntry
    (fun _ => rfl) (fun _ => rfl) fun j hj => ?_
  exact returned d₁ m k j hb hm hf (Int.lt_of_le_of_lt hm' hj)

/-- A loan may be renewed as often as the policy allows. -/
theorem ensureRenewable_concludes {l : Loan} {w : Work} {Q : Unit → Work → Prop}
    (refused : ∀ why, firstFailed (policy.renewalTests l) = some why → R (.refused why) w)
    (renewable : firstFailed (policy.renewalTests l) = none → Q () w) :
    (ensureRenewable policy l).Concludes timeline Q R w := by
  unfold ensureRenewable
  unfold Policy.renewalTests at refused renewable
  split
  · rename_i hnone
    exact renewable (by simp [hnone])
  · rename_i max hmax
    refine concludes_ensure.2 ⟨fun hlt => renewable ?_, fun hnot => refused _ ?_⟩
    · simpa [hmax] using hlt
    · simpa [hmax] using hnot

/-- A borrowed loan that may be renewed is extended by one period, with an entry of its history. -/
theorem renew_concludes {l : Loan} {Q : Loan → Work → Prop} (hrow : d.tables.loans.get? l.id = some l)
    (returned : l.isBorrowed = false → ∀ w, R (.refused (.invalidState .notOnLoan)) w)
    (refused : ∀ why w, l.isBorrowed = true → firstFailed (policy.renewalTests l) = some why → R (.refused why) w)
    (overflowed : ∀ what w, l.isBorrowed = true → firstFailed (policy.renewalTests l) = none →
      policy.renewalPeriod.bind l.dueDate.after = .error what → R (.overflowed what) w)
    (renewed : ∀ due j, l.isBorrowed = true → firstFailed (policy.renewalTests l) = none →
      policy.renewalPeriod.bind l.dueDate.after = .ok due → n < j →
      Q (l.extended due (timeline i)) ⟨(d.guard l.id l.renewCount).record (l.extended due (timeline i))
        (NewLoanEntry.toRow ⟨l.id, .renewed, due, some l.dueDate, timeline i⟩ j), j, i + 1⟩) :
    (renew policy l).Concludes timeline Q R ⟨d, n, i⟩ := by
  simp only [renew, bind_eq, pure_eq, concludes_bind]
  refine concludes_ensure.2 ⟨fun hb => ?_, fun hb => returned hb _⟩
  refine ensureRenewable_concludes (fun why hwhy => refused why _ hb hwhy) fun hpass => ?_
  refine concludes_now.2 (concludes_checked.2 ⟨fun period hp => ?_, fun what hp => ?_⟩)
  · rw [hp] at overflowed renewed
    refine concludes_checked.2 ⟨fun due hd => ?_, fun what hd => overflowed what _ hb hpass hd⟩
    refine write_concludes rfl hrow hb fun m hm => ?_
    refine concludes_insert (NewLoanEntry.toRow ⟨l.id, .renewed, due, some l.dueDate, timeline i⟩) Draft.putEntry
      (fun _ => rfl) (fun _ => rfl) fun j hj => ?_
    exact renewed due j hb hpass hd (Int.lt_of_le_of_lt hm hj)
  · exact overflowed what _ hb hpass (by rw [hp]; rfl)

end Lending

/-! ## Reservations and limits -/

namespace Holds

/-- A pending reservation is fulfilled now. -/
theorem fulfil_concludes {r : Reservation} {Q : Reservation → Work → Prop} (hr : d.tables.reservations.get? r.id = some r)
    (refused : r.isPending = false → ∀ w, R (.refused (.invalidState .notPending)) w)
    (fulfilled : r.isPending = true → ∀ m, n ≤ m →
      Q { r with status := .fulfilled, updatedAt := timeline i } ⟨d.fulfilled r (timeline i), m, i + 1⟩) :
    (fulfil r).Concludes timeline Q R ⟨d, n, i⟩ := by
  simp only [fulfil, bind_eq, pure_eq, concludes_bind]
  refine concludes_ensure.2 ⟨fun hp => concludes_now.2 ?_, fun hp => refused hp _⟩
  have hpending : r.status = .pending := by simpa [Reservation.isPending] using hp
  have hw : d.moveReservation r.id .pending .fulfilled (timeline i) = (true, d.fulfilled r (timeline i)) := by
    simp [Draft.moveReservation, hr, hpending, Draft.fulfilled]
  refine concludes_answer true (d.fulfilled r (timeline i)) (fun m => ?_) rfl fun m hm => ?_
  · simp only [Work.answer, Work.write, hw]
  · exact concludes_ensure.2 ⟨fun _ => fulfilled hp m hm, fun hnot => absurd hnot.symm Bool.false_ne_true⟩

/-- A hold is placed for one period from now. -/
theorem place_concludes {c : Copy} {userId : Int} {Q : Reservation → Work → Prop}
    (overflowed : ∀ what w, policy.reservationHold.bind (timeline i).after = .error what → R (.overflowed what) w)
    (placed : ∀ expiry k, policy.reservationHold.bind (timeline i).after = .ok expiry → n < k →
      Q (NewReservation.toRow ⟨c.id, c.bookId, userId, expiry, timeline i⟩ k)
        ⟨d.putReservation (NewReservation.toRow ⟨c.id, c.bookId, userId, expiry, timeline i⟩ k) k, k, i + 1⟩) :
    (place policy c userId).Concludes timeline Q R ⟨d, n, i⟩ := by
  simp only [place, bind_eq, concludes_bind]
  refine concludes_now.2 (concludes_checked.2 ⟨fun period hp => ?_, fun what hp => overflowed what _ (by rw [hp]; rfl)⟩)
  rw [hp] at overflowed placed
  refine concludes_checked.2 ⟨fun expiry he => ?_, fun what he => overflowed what _ he⟩
  refine @concludes_insert _ R _ _ _ (.insertReservation ⟨c.id, c.bookId, userId, expiry, timeline i⟩) Q
    (NewReservation.toRow ⟨c.id, c.bookId, userId, expiry, timeline i⟩) Draft.putReservation (fun _ => rfl)
    (fun _ => rfl) fun k hk => ?_
  exact placed expiry k he hk

end Holds

namespace Limits

variable {userId bookId : Int} {Q : Unit → Work → Prop}

/-- Whether a user may borrow a title is refused by the first test that the user fails. -/
theorem ensureMayBorrow_concludes
    (refused : ∀ why w, firstFailed (policy.borrowTests d.tables userId bookId) = some why → R (.refused why) w)
    (may : ∀ m, n ≤ m → firstFailed (policy.borrowTests d.tables userId bookId) = none → Q () ⟨d, m, i⟩) :
    (ensureMayBorrow policy userId bookId).Concludes timeline Q R ⟨d, n, i⟩ := by
  simp only [ensureMayBorrow, hasLoanOnTitle, bind_eq, pure_eq, concludes_bind]
  simp only [Policy.borrowTests, firstFailed_cons] at refused may
  refine concludes_answer ((d.tables.borrowedBy userId).length : Int) d (fun _ => rfl) rfl fun m₁ h₁ => ?_
  refine concludes_ensure.2 ⟨fun hcap => ?_, fun hcap => refused _ _ (if_neg (by simpa [atLoanCap] using hcap))⟩
  rw [if_pos (by simpa [atLoanCap] using hcap)] at refused may
  refine concludes_answer ((d.tables.borrowedOnTitle userId bookId).length : Int) d (fun _ => rfl) rfl fun m₂ h₂ => ?_
  refine concludes_ensure.2 ⟨fun hnone => ?_, fun hsome => refused _ _ (if_neg ?_)⟩
  · exact may m₂ (Int.le_trans h₁ h₂) (if_pos (by simpa using hnone))
  · simpa [Nat.pos_iff_ne_zero] using hsome

/-- Whether a user may reserve a title is refused by the first test that the user fails. -/
theorem ensureMayReserve_concludes
    (refused : ∀ why w, firstFailed (policy.reserveTests d.tables userId bookId) = some why → R (.refused why) w)
    (may : ∀ m, n ≤ m → firstFailed (policy.reserveTests d.tables userId bookId) = none → Q () ⟨d, m, i⟩) :
    (ensureMayReserve policy userId bookId).Concludes timeline Q R ⟨d, n, i⟩ := by
  simp only [ensureMayReserve, hasLoanOnTitle, hasReservationOnTitle, bind_eq, pure_eq, concludes_bind]
  simp only [Policy.reserveTests, firstFailed_cons] at refused may
  refine concludes_answer ((d.tables.pendingOf userId).length : Int) d (fun _ => rfl) rfl fun m₁ h₁ => ?_
  refine concludes_ensure.2 ⟨fun hcap => ?_, fun hcap => refused _ _ (if_neg (by simpa [aboveReservationCap] using hcap))⟩
  rw [if_pos (by simpa [aboveReservationCap] using hcap)] at refused may
  refine concludes_answer ((d.tables.borrowedOnTitle userId bookId).length : Int) d (fun _ => rfl) rfl fun m₂ h₂ => ?_
  refine concludes_ensure.2 ⟨fun hlent => ?_, fun hlent => refused _ _ (if_neg (by simpa [Nat.pos_iff_ne_zero] using hlent))⟩
  rw [if_pos (by simpa using hlent)] at refused may
  refine concludes_answer ((d.tables.pendingOnTitle userId bookId).length : Int) d (fun _ => rfl) rfl fun m₃ h₃ => ?_
  refine concludes_ensure.2 ⟨fun hnone => ?_, fun hsome => refused _ _ (if_neg ?_)⟩
  · exact may m₃ (Int.le_trans (Int.le_trans h₁ h₂) h₃) (if_pos (by simpa using hnone))
  · simpa [Nat.pos_iff_ne_zero] using hsome

end Limits

/-! ## Copies -/

namespace Desk

/-- A copy that is locked was found alive, and its draft holds it. -/
theorem lockCopy_concludes {copyId : Int} {Q : Copy → Work → Prop} (hs : d.Stands base n)
    (missing : d.tables.liveCopy? copyId = none → ∀ w, R (.refused (.notFound (.copy copyId))) w)
    (locked : ∀ c m, n ≤ m → c.id = copyId → d.tables.liveCopy? c.id = some c → (d.lock c.id).Holding c →
      Q c ⟨d.lock c.id, m, i⟩) : (lockCopy copyId).Concludes timeline Q R ⟨d, n, i⟩ := by
  simp only [lockCopy, bind_eq, concludes_bind]
  cases hc : d.liveCopy? copyId with
  | none =>
    refine concludes_answer none d (fun m => ?_) rfl fun m _ => ?_
    · simp only [Work.answer, hc]
    · exact concludes_require.2 ⟨fun c hnone => absurd hnone.symm (Option.some_ne_none c), fun _ => missing hc _⟩
  | some c =>
    refine concludes_answer (some c) (d.lock copyId) (fun m => ?_) rfl fun m hm => ?_
    · simp only [Work.answer, hc]
    · obtain ⟨hrow, hlive⟩ := Option.filter_eq_some_iff.1 hc
      obtain rfl := (hs.copies.keyed copyId c hrow).1
      refine concludes_require.2 ⟨fun c' hc' => ?_, fun hnone => absurd hnone (Option.some_ne_none c)⟩
      cases hc'
      refine locked c m hm rfl hc ⟨hrow, by simpa using hlive, ?_⟩
      simp [Draft.lock]

/-- A copy whose row is as it was found moves. -/
theorem moveCopy_concludes {c : Copy} {status : CopyStatus} {Q : Unit → Work → Prop}
    (hrow : d.tables.copies.get? c.id = some c) (hlive : c.isDeleted = false)
    (moved : ∀ m, n ≤ m → Q () ⟨d.moved c status (timeline i), m, i + 1⟩) :
    (moveCopy c status).Concludes timeline Q R ⟨d, n, i⟩ := by
  simp only [moveCopy, bind_eq, concludes_bind]
  refine concludes_now.2 ?_
  have hw : d.moveCopy c.id c.status status (timeline i) = (true, d.moved c status (timeline i)) := by
    simp [Draft.moveCopy, Draft.changeCopy, hrow, hlive, Draft.moved]
  refine concludes_answer true (d.moved c status (timeline i)) (fun m => ?_) rfl fun m hm => ?_
  · simp only [Work.answer, Work.write, hw]
  · exact concludes_ensure.2 ⟨fun _ => moved m hm, fun hnot => absurd hnot.symm Bool.false_ne_true⟩

/-- A copy that has to be on the shelf is refused by the first test that it fails. -/
theorem ensureAvailable_concludes {c : Copy} {w : Work} {Q : Unit → Work → Prop}
    (refused : ∀ why, firstFailed c.shelfTests = some why → R (.refused why) w)
    (available : c.status = .available → firstFailed c.shelfTests = none → Q () w) :
    (ensureAvailable c).Concludes timeline Q R w := by
  unfold ensureAvailable
  unfold Copy.shelfTests at refused available
  split
  · rename_i h
    exact refused _ (by simp [h])
  · rename_i h
    exact refused _ (by simp [h])
  · rename_i h
    exact available h (by simp [h])

/-- A copy is released to a user when it is on the shelf, or when the hold on it is the user's own. -/
theorem releaseTo_concludes {c : Copy} {userId : Int} {Q : Unit → Work → Prop} (hs : d.Stands base n)
    (refused : ∀ why w, firstFailed (c.releaseTests d.tables userId) = some why → R (.refused why) w)
    (released : ∀ d' m, n ≤ m → firstFailed (c.releaseTests d.tables userId) = none → Released d c userId d' →
      Q () ⟨d', m, i + c.releaseReadings⟩) :
    (releaseTo userId c).Concludes timeline Q R ⟨d, n, i⟩ := by
  unfold releaseTo
  unfold Copy.releaseTests at refused released
  unfold Copy.releaseReadings at released
  split
  · rename_i hloan
    exact refused _ _ (by simp [hloan])
  · rename_i hreserve
    rw [if_pos hreserve] at released
    simp only [Holds.pendingOfCopy, bind_eq, pure_eq, concludes_bind]
    refine @concludes_answer _ R _ _ _ (.pendingReservation c.id) _ (d.tables.holdOn? c.id) d (fun _ => rfl) rfl
      fun m₁ h₁ => ?_
    refine concludes_require.2 ⟨fun r hr => ?_, fun hnone => refused _ _ ?_⟩
    · obtain ⟨hfind, huser⟩ := Option.filter_eq_some_iff.1 hr
      obtain ⟨⟨id, hrow⟩, hp⟩ := Table.get?_of_find?_rows hfind
      obtain rfl := (hs.reservations.keyed id r hrow).1
      simp only [Bool.and_eq_true, decide_eq_true_eq] at hp huser
      refine Holds.fulfil_concludes hrow (fun hnot => ?_) fun hpending m₂ h₂ => ?_
      · simp [hp.2] at hnot
      · exact released _ m₂ (Int.le_trans h₁ h₂) (by simp [hreserve, hfind, huser])
          (.hold r (timeline i) hreserve hrow hpending hp.1 huser)
    · have hnot : (d.tables.holdOn? c.id).any (·.userId = userId) = false := by
        cases hhold : d.tables.holdOn? c.id with
        | none => rfl
        | some r =>
          rw [hhold] at hnone
          simpa [Option.filter] using hnone
      simp [hreserve, hnot]
  · rename_i havailable
    rw [if_neg (by simp [havailable])] at released
    exact released d n (Int.le_refl _) (by simp [havailable]) (.shelf havailable)

end Desk

end Circulation
