import Circulation.Proofs.Answers

/-!
# What the desk decides

Whether an operation of the desk is refused, and why, is decided by the tables of the draft it is put to: `Operation.refusal?`
is the first test it fails, in the order in which the desk puts them. An operation is refused with that and nothing else, and
one that passes all tests ends with a result unless arithmetic goes out of range (`Operation.concludes`). One lemma for each
operation says what it concludes, with the draft it leaves and the row it answers.
-/

namespace Circulation

/-- What is refused for want of a row, and otherwise by tests of the row. -/
def wanting {α : Type} (row : Option α) (missing : Missing) (refusal? : α → Option Refusal) : Option Refusal :=
  match row with
  | some a => refusal? a
  | none => some (.notFound missing)

section

variable {α : Type} {row : Option α} {missing : Missing} {refusal? : α → Option Refusal} {why : Refusal}

/-- Nothing is wanting when the row is there and passes its tests. -/
theorem wanting_eq_none_iff : wanting row missing refusal? = none ↔ ∃ a, row = some a ∧ refusal? a = none := by
  cases row <;> simp [wanting]

/-- What neither the want of a row nor a test of it is refused with is never the refusal. -/
theorem wanting_ne (hmissing : .notFound missing ≠ why) (h : ∀ a, refusal? a ≠ some why) :
    wanting row missing refusal? ≠ some why := by
  cases row with
  | none => simpa [wanting] using hmissing
  | some a => exact h a

end

/-- The refusal that an operation meets on some tables, if it meets one. -/
def Operation.refusal? (policy : Policy) (t : Tables) : Operation → Option Refusal
  | .borrow copyId userId =>
    wanting (t.liveCopy? copyId) (.copy copyId) fun c =>
      firstFailed (policy.borrowTests t userId c.bookId ++ c.releaseTests t userId)
  | .returnLoan loanId =>
    wanting (t.loans.get? loanId) (.loan loanId) fun l =>
      wanting (t.liveCopy? l.copyId) (.copy l.copyId) fun c => firstFailed (l.closingTests c)
  | .returnCopy copyId =>
    wanting (t.liveCopy? copyId) (.copy copyId) fun c =>
      match t.loanOf? c.id with
      | some l => firstFailed (l.closingTests c)
      | none => some (.invalidState .notOnLoan)
  | .renew loanId =>
    wanting (t.loans.get? loanId) (.loan loanId) fun l =>
      wanting (t.liveCopy? l.copyId) (.copy l.copyId) fun c => firstFailed (l.closingTests c ++ policy.renewalTests l)
  | .reserve copyId userId =>
    wanting (t.liveCopy? copyId) (.copy copyId) fun c =>
      firstFailed (c.shelfTests ++ policy.reserveTests t userId c.bookId)
  | .cancelReservation reservationId =>
    wanting (t.reservations.get? reservationId) (.reservation reservationId) fun r =>
      wanting (t.liveCopy? r.copyId) (.copy r.copyId) fun c => firstFailed (r.releaseTests c)
  | .addCopy bookId => firstFailed [⟨t.books.contains bookId, .notFound (.book bookId)⟩]
  | .addCopies bookId count =>
    firstFailed
      [ ⟨1 ≤ count ∧ count ≤ Desk.maxCopiesPerCall, .validation (.copyCount Desk.maxCopiesPerCall count)⟩,
        ⟨t.books.contains bookId, .notFound (.book bookId)⟩ ]
  | .removeCopy copyId => wanting (t.liveCopy? copyId) (.copy copyId) fun c => firstFailed c.shelfTests
  | .settleFine fineId =>
    wanting (t.fines.get? fineId) (.fine fineId) fun f => firstFailed [⟨!f.settled, .invalidState .notOutstanding⟩]

namespace Draft

/-- The draft with a copy lent to a user: the loan and its first entry under new ids, and the copy on loan. -/
def lent (d : Draft) (c : Copy) (userId : Int) (t due t' : Instant) (k j : Int) : Draft :=
  (d.record (NewLoan.toRow ⟨c.id, c.bookId, userId, t, due⟩ k) (NewLoanEntry.toRow ⟨k, .borrowed, due, none, t⟩ j)).moved
    c .onLoan t'

/-- The draft with a loan closed, its last entry under a new id, and its copy on the shelf. -/
def broughtBack (d : Draft) (c : Copy) (l : Loan) (t t' : Instant) (j : Int) : Draft :=
  ((d.guard l.id l.renewCount).record (l.closed t) (NewLoanEntry.toRow ⟨l.id, .returned, l.dueDate, none, t⟩ j)).moved
    c .available t'

/-- The draft with a copy held for a user: the reservation under a new id, and the copy on reserve. -/
def heldFor (d : Draft) (c : Copy) (userId : Int) (t expiry t' : Instant) (k : Int) : Draft :=
  (d.putReservation (NewReservation.toRow ⟨c.id, c.bookId, userId, expiry, t⟩ k) k).moved c .onReserve t'

/-- The draft with a hold released: the reservation fulfilled, and its copy on the shelf. -/
def letGo (d : Draft) (c : Copy) (r : Reservation) (t t' : Instant) : Draft :=
  (d.fulfilled r t).moved c .available t'

/-- The draft with a copy withdrawn. -/
def withdrawn (d : Draft) (c : Copy) (t : Instant) : Draft :=
  d.putCopy { c with deletedAt := some t, updatedAt := t } c.id

/-- The draft with new copies put under some ids. -/
def putCopies (d : Draft) (c : NewCopy) (ids : List Int) : Draft :=
  ids.foldl (fun d k => d.putCopy (c.toRow k) k) d

end Draft

open Procedure

variable {policy : Policy} {base : Ledger} {d : Draft} {n : Int} {i : Nat} {timeline : Nat → Instant}
  {R : Stop → Work → Prop}

namespace Desk

/-- A copy is lent that passes the tests, for one period from the reading of the clock that comes when it is ready. -/
theorem borrow_concludes_at {copyId userId : Int} {Q : Loan → Work → Prop} (hs : d.Stands base n)
    (refused : ∀ why w, (Operation.borrow copyId userId).refusal? policy d.tables = some why → R (.refused why) w)
    (overflowed : ∀ what w c, (Operation.borrow copyId userId).refusal? policy d.tables = none →
      d.tables.liveCopy? copyId = some c → policy.loanPeriod.bind (timeline (i + c.releaseReadings)).after = .error what →
      R (.overflowed what) w)
    (lent : ∀ c d₁ due k k' m, (Operation.borrow copyId userId).refusal? policy d.tables = none →
      d.tables.liveCopy? copyId = some c → c.id = copyId → (d.lock c.id).Holding c → Released (d.lock c.id) c userId d₁ →
      policy.loanPeriod.bind (timeline (i + c.releaseReadings)).after = .ok due → n < k → k < k' → k' ≤ m →
      Q (NewLoan.toRow ⟨c.id, c.bookId, userId, timeline (i + c.releaseReadings), due⟩ k)
        ⟨d₁.lent c userId (timeline (i + c.releaseReadings)) due (timeline (i + c.releaseReadings + 1)) k k', m,
          i + c.releaseReadings + 2⟩) :
    (borrow policy copyId userId).Concludes timeline Q R ⟨d, n, i⟩ := by
  simp only [borrow, bind_eq, pure_eq, concludes_bind]
  refine lockCopy_concludes hs (fun hnone w => refused _ w ?_) fun c m₁ h₁ hid hlive hc => ?_
  · simp only [Operation.refusal?, wanting, hnone]
  subst hid
  simp only [Operation.refusal?, wanting, hlive] at refused overflowed lent
  have hs₁ : (d.lock c.id).Stands base m₁ := (hs.lock c.id c hlive).mono h₁
  refine Limits.ensureMayBorrow_concludes (fun why w hwhy => refused why w (firstFailed_of_left hwhy)) fun m₂ h₂ hmay => ?_
  have hrest : ∀ more, firstFailed (policy.borrowTests d.tables userId c.bookId ++ more) = firstFailed more := fun more =>
    firstFailed_of_right hmay
  simp only [hrest] at refused overflowed lent
  refine releaseTo_concludes (hs₁.mono h₂) refused fun d₁ m₃ h₃ hpass hr => ?_
  refine Lending.lend_concludes (fun what w => overflowed what w c hpass rfl) fun due k k' hdue hk hk' => ?_
  have hrow : (d₁.record (NewLoan.toRow ⟨c.id, c.bookId, userId, timeline (i + c.releaseReadings), due⟩ k)
      (NewLoanEntry.toRow ⟨k, .borrowed, due, none, timeline (i + c.releaseReadings)⟩ k')).tables.copies.get? c.id =
        some c := by
    have hcopies : d₁.tables.copies = (d.lock c.id).tables.copies := hr.frame.1
    exact hcopies ▸ hc.row
  refine moveCopy_concludes hrow hc.live fun m₄ h₄ => ?_
  have hnk : n < k := Int.lt_of_le_of_lt (Int.le_trans h₁ (Int.le_trans h₂ h₃)) hk
  exact lent c d₁ due k k' m₄ hpass rfl rfl hc hr hdue hnk hk' h₄

/-- A copy is lent that passes the tests, for one period from a reading of the clock. -/
theorem borrow_concludes {copyId userId : Int} {Q : Loan → Work → Prop} (hs : d.Stands base n)
    (refused : ∀ why w, (Operation.borrow copyId userId).refusal? policy d.tables = some why → R (.refused why) w)
    (overflowed : ∀ what w j, (Operation.borrow copyId userId).refusal? policy d.tables = none → i ≤ j →
      policy.loanPeriod.bind (timeline j).after = .error what → R (.overflowed what) w)
    (lent : ∀ c d₁ due k k' m j, (Operation.borrow copyId userId).refusal? policy d.tables = none → c.id = copyId →
      (d.lock c.id).Holding c → Released (d.lock c.id) c userId d₁ → i ≤ j →
      policy.loanPeriod.bind (timeline j).after = .ok due → n < k → k < k' → k' ≤ m →
      Q (NewLoan.toRow ⟨c.id, c.bookId, userId, timeline j, due⟩ k)
        ⟨d₁.lent c userId (timeline j) due (timeline (j + 1)) k k', m, j + 2⟩) :
    (borrow policy copyId userId).Concludes timeline Q R ⟨d, n, i⟩ := by
  refine borrow_concludes_at hs refused (fun what w c hpass _ => overflowed what w _ hpass (Nat.le_add_right _ _)) ?_
  intro c d₁ due k k' m hpass _ hid hc hr
  exact lent c d₁ due k k' m _ hpass hid hc hr (Nat.le_add_right _ _)

/-- The copy of a loan is locked, and the loan is read again as it was. -/
theorem lockLoan_concludes {loanId : Int} {Q : Copy × Loan → Work → Prop} (hs : d.Stands base n)
    (missing : d.tables.loans.get? loanId = none → ∀ w, R (.refused (.notFound (.loan loanId))) w)
    (withdrawn : ∀ l w, d.tables.loans.get? loanId = some l → d.tables.liveCopy? l.copyId = none →
      R (.refused (.notFound (.copy l.copyId))) w)
    (locked : ∀ c l m, n ≤ m → l.id = loanId → d.tables.loans.get? l.id = some l → l.copyId = c.id →
      d.tables.liveCopy? c.id = some c → (d.lock c.id).Holding c → Q (c, l) ⟨d.lock c.id, m, i⟩) :
    (lockLoan loanId).Concludes timeline Q R ⟨d, n, i⟩ := by
  simp only [lockLoan, bind_eq, pure_eq, concludes_bind]
  refine Lending.get_concludes (fun l m₁ h₁ hl => ?_) missing
  obtain rfl := (hs.loans.keyed loanId l hl).1
  refine lockCopy_concludes (hs.mono h₁) (fun hnone w => withdrawn l w hl hnone) fun c m₂ h₂ hid hlive hc => ?_
  refine Lending.get_concludes (fun l' m₃ h₃ hl' => ?_) fun hnone => ?_
  · cases hl.symm.trans hl'
    exact locked c l m₃ (Int.le_trans h₁ (Int.le_trans h₂ h₃)) rfl hl hid.symm hlive hc
  · cases hl.symm.trans hnone

/-- A loan is closed under the lock on its copy, with the fine that is due now. -/
theorem closeLoan_concludes {c : Copy} {l : Loan} {Q : Loan → Work → Prop} (hc : d.Holding c)
    (hl : d.tables.loans.get? l.id = some l)
    (refused : ∀ why w, firstFailed (l.closingTests c) = some why → R (.refused why) w)
    (overflowed : ∀ what w, firstFailed (l.closingTests c) = none →
      Overdue.charge l.dueDate (timeline i) policy.dailyFineRate = .error what → R (.overflowed what) w)
    (closed : ∀ d₁ k₀ k j m, firstFailed (l.closingTests c) = none → c.status = .onLoan → l.isBorrowed = true → n ≤ k₀ →
      Charged policy d k₀ l (timeline i) d₁ k → k < j → j ≤ m →
      Q (l.closed (timeline i)) ⟨d₁.broughtBack c l (timeline i) (timeline (i + 1)) j, m, i + 2⟩) :
    (closeLoan policy c l).Concludes timeline Q R ⟨d, n, i⟩ := by
  simp only [closeLoan, bind_eq, pure_eq, concludes_bind]
  unfold Loan.closingTests at refused overflowed closed
  refine concludes_ensure.2 ⟨fun hout => ?_, fun hout => refused _ _ ?_⟩
  · have hout : c.status = .onLoan := by simpa using hout
    refine Lending.takeBack_concludes hl (fun hb w => refused _ w ?_) (fun what w hb => overflowed what w ?_)
      fun d₁ k₀ k j hb hk₀ hf hj => ?_
    · simp [hout, hb]
    · simp [hout, hb]
    · have hrow : d₁.tables.copies.get? c.id = some c := by
        rw [hf.frame.1.copies]
        exact hc.row
      refine moveCopy_concludes hrow hc.live fun m hm => ?_
      exact closed d₁ k₀ k j m (by simp [hout, hb]) hout hb hk₀ hf hj hm
  · have hout : c.status ≠ .onLoan := by simpa using hout
    simp [hout]

/-- A loan is returned when no test refuses it and the charge for it stays in range. -/
theorem returnLoan_concludes {loanId : Int} {Q : Loan → Work → Prop} (hs : d.Stands base n)
    (refused : ∀ why w, (Operation.returnLoan loanId).refusal? policy d.tables = some why → R (.refused why) w)
    (overflowed : ∀ what w l, (Operation.returnLoan loanId).refusal? policy d.tables = none →
      d.tables.loans.get? loanId = some l →
      Overdue.charge l.dueDate (timeline i) policy.dailyFineRate = .error what → R (.overflowed what) w)
    (returned : ∀ c l d₁ k₀ k j m, (Operation.returnLoan loanId).refusal? policy d.tables = none → l.id = loanId →
      d.tables.loans.get? l.id = some l → l.isBorrowed = true → l.copyId = c.id → (d.lock c.id).Holding c →
      c.status = .onLoan → n ≤ k₀ → Charged policy (d.lock c.id) k₀ l (timeline i) d₁ k → k < j → j ≤ m →
      Q (l.closed (timeline i)) ⟨d₁.broughtBack c l (timeline i) (timeline (i + 1)) j, m, i + 2⟩) :
    (returnLoan policy loanId).Concludes timeline Q R ⟨d, n, i⟩ := by
  simp only [returnLoan, bind_eq, concludes_bind]
  refine lockLoan_concludes hs (fun hnone w => refused _ w ?_) (fun l w hl hnone => refused _ w ?_)
    fun c l m₁ h₁ hid hl hlc hlive hc => ?_
  · simp only [Operation.refusal?, wanting, hnone]
  · simp only [Operation.refusal?, wanting, hl, hnone]
  subst hid
  simp only [Operation.refusal?, wanting, hl, hlc, hlive] at refused overflowed returned
  refine closeLoan_concludes hc hl refused (fun what w hpass hover => overflowed what w l hpass rfl hover)
    fun d₁ k₀ k j m hpass hout hb hk₀ hf hj hm => ?_
  exact returned c l d₁ k₀ k j m hpass rfl hl hb hlc hc hout (Int.le_trans h₁ hk₀) hf hj hm

/-- A copy is brought back when no test refuses it and the charge for its loan stays in range. -/
theorem returnCopy_concludes {copyId : Int} {Q : Loan → Work → Prop} (hs : d.Stands base n)
    (refused : ∀ why w, (Operation.returnCopy copyId).refusal? policy d.tables = some why → R (.refused why) w)
    (overflowed : ∀ what w l, (Operation.returnCopy copyId).refusal? policy d.tables = none →
      d.tables.loanOf? copyId = some l →
      Overdue.charge l.dueDate (timeline i) policy.dailyFineRate = .error what → R (.overflowed what) w)
    (returned : ∀ c l d₁ k₀ k j m, (Operation.returnCopy copyId).refusal? policy d.tables = none → c.id = copyId →
      d.tables.loanOf? copyId = some l → d.tables.loans.get? l.id = some l → l.isBorrowed = true → l.copyId = c.id →
      (d.lock c.id).Holding c → c.status = .onLoan → n ≤ k₀ → Charged policy (d.lock c.id) k₀ l (timeline i) d₁ k → k < j → j ≤ m →
      Q (l.closed (timeline i)) ⟨d₁.broughtBack c l (timeline i) (timeline (i + 1)) j, m, i + 2⟩) :
    (returnCopy policy copyId).Concludes timeline Q R ⟨d, n, i⟩ := by
  simp only [returnCopy, Lending.active, bind_eq, concludes_bind]
  refine lockCopy_concludes hs (fun hnone w => refused _ w ?_) fun c m₁ h₁ hid hlive hc => ?_
  · simp only [Operation.refusal?, wanting, hnone]
  subst hid
  simp only [Operation.refusal?, wanting, hlive] at refused overflowed returned
  refine @concludes_answer _ R _ _ _ (.activeLoan c.id) _ (d.tables.loanOf? c.id) (d.lock c.id) (fun _ => rfl) rfl
    fun m₂ h₂ => ?_
  refine concludes_require.2 ⟨fun l hfind => ?_, fun hnone => refused _ _ (by rw [hnone])⟩
  obtain ⟨⟨id, hrow⟩, hp⟩ := Table.get?_of_find?_rows hfind
  obtain rfl := (hs.loans.keyed id l hrow).1
  simp only [Bool.and_eq_true, decide_eq_true_eq] at hp
  rw [hfind] at refused overflowed returned
  refine closeLoan_concludes hc hrow refused (fun what w hpass hover => overflowed what w l hpass rfl hover)
    fun d₁ k₀ k j m hpass hout hb hk₀ hf hj hm => ?_
  exact returned c l d₁ k₀ k j m hpass rfl rfl hrow hb hp.1 hc hout (Int.le_trans (Int.le_trans h₁ h₂) hk₀) hf hj hm

/-- A loan is renewed when no test refuses it and the new due date stays in range. -/
theorem renew_concludes {loanId : Int} {Q : Loan → Work → Prop} (hs : d.Stands base n)
    (refused : ∀ why w, (Operation.renew loanId).refusal? policy d.tables = some why → R (.refused why) w)
    (overflowed : ∀ what w l, (Operation.renew loanId).refusal? policy d.tables = none →
      d.tables.loans.get? loanId = some l → policy.renewalPeriod.bind l.dueDate.after = .error what →
      R (.overflowed what) w)
    (renewed : ∀ c l due j, (Operation.renew loanId).refusal? policy d.tables = none → l.id = loanId →
      d.tables.loans.get? l.id = some l → l.isBorrowed = true → l.copyId = c.id → (d.lock c.id).Holding c →
      c.status = .onLoan → policy.renewalPeriod.bind l.dueDate.after = .ok due → n < j →
      Q (l.extended due (timeline i)) ⟨((d.lock c.id).guard l.id l.renewCount).record (l.extended due (timeline i))
        (NewLoanEntry.toRow ⟨l.id, .renewed, due, some l.dueDate, timeline i⟩ j), j, i + 1⟩) :
    (renew policy loanId).Concludes timeline Q R ⟨d, n, i⟩ := by
  simp only [renew, bind_eq, concludes_bind]
  refine lockLoan_concludes hs (fun hnone w => refused _ w ?_) (fun l w hl hnone => refused _ w ?_)
    fun c l m₁ h₁ hid hl hlc hlive hc => ?_
  · simp only [Operation.refusal?, wanting, hnone]
  · simp only [Operation.refusal?, wanting, hl, hnone]
  subst hid
  simp only [Operation.refusal?, wanting, hl, hlc, hlive] at refused overflowed renewed
  refine concludes_ensure.2 ⟨fun hout => ?_, fun hout => refused _ _ ?_⟩
  · have hout : c.status = .onLoan := by simpa using hout
    have hrest (hb : l.isBorrowed = true) :
        firstFailed (l.closingTests c ++ policy.renewalTests l) = firstFailed (policy.renewalTests l) :=
      firstFailed_of_right (by simp [Loan.closingTests, hout, hb])
    refine Lending.renew_concludes hl (fun hb w => refused _ w ?_) (fun why w hb hwhy => refused why w (hrest hb ▸ hwhy))
      (fun what w hb hpass hover => overflowed what w l ((hrest hb).trans hpass) rfl hover) fun due j hb hpass hdue hj => ?_
    · exact firstFailed_of_left (by simp [Loan.closingTests, hout, hb])
    · exact renewed c l due j ((hrest hb).trans hpass) rfl hl hb hlc hc hout hdue (Int.lt_of_le_of_lt h₁ hj)
  · have hout : c.status ≠ .onLoan := by simpa using hout
    exact firstFailed_of_left (by simp [Loan.closingTests, hout])

/-- A copy on the shelf is held for a user who passes the tests, for one period from now. -/
theorem reserve_concludes {copyId userId : Int} {Q : Reservation → Work → Prop} (hs : d.Stands base n)
    (refused : ∀ why w, (Operation.reserve copyId userId).refusal? policy d.tables = some why → R (.refused why) w)
    (overflowed : ∀ what w, (Operation.reserve copyId userId).refusal? policy d.tables = none →
      policy.reservationHold.bind (timeline i).after = .error what → R (.overflowed what) w)
    (placed : ∀ c expiry k m, (Operation.reserve copyId userId).refusal? policy d.tables = none → c.id = copyId →
      (d.lock c.id).Holding c → c.status = .available → policy.reservationHold.bind (timeline i).after = .ok expiry →
      n < k → k ≤ m → Q (NewReservation.toRow ⟨c.id, c.bookId, userId, expiry, timeline i⟩ k)
        ⟨(d.lock c.id).heldFor c userId (timeline i) expiry (timeline (i + 1)) k, m, i + 2⟩) :
    (reserve policy copyId userId).Concludes timeline Q R ⟨d, n, i⟩ := by
  simp only [reserve, bind_eq, pure_eq, concludes_bind]
  refine lockCopy_concludes hs (fun hnone w => refused _ w ?_) fun c m₁ h₁ hid hlive hc => ?_
  · simp only [Operation.refusal?, wanting, hnone]
  subst hid
  simp only [Operation.refusal?, wanting, hlive] at refused overflowed placed
  refine ensureAvailable_concludes (fun why hwhy => refused why _ (firstFailed_of_left hwhy)) fun havailable hshelf => ?_
  simp only [firstFailed_of_right hshelf] at refused overflowed placed
  refine Limits.ensureMayReserve_concludes refused fun m₂ h₂ hmay => ?_
  refine Holds.place_concludes (fun what w => overflowed what w hmay) fun expiry k hexpiry hk => ?_
  refine moveCopy_concludes hc.row hc.live fun m₃ h₃ => ?_
  exact placed c expiry k m₃ hmay rfl hc havailable hexpiry (Int.lt_of_le_of_lt (Int.le_trans h₁ h₂) hk) h₃

/-- A reservation is cancelled when no test refuses it. -/
theorem cancelReservation_concludes {reservationId : Int} {Q : Reservation → Work → Prop} (hs : d.Stands base n)
    (refused : ∀ why w, (Operation.cancelReservation reservationId).refusal? policy d.tables = some why →
      R (.refused why) w)
    (released : ∀ c r m, (Operation.cancelReservation reservationId).refusal? policy d.tables = none →
      r.id = reservationId → d.tables.reservations.get? r.id = some r → r.isPending = true → r.copyId = c.id →
      (d.lock c.id).Holding c → c.status = .onReserve → n ≤ m →
      Q { r with status := .fulfilled, updatedAt := timeline i }
        ⟨(d.lock c.id).letGo c r (timeline i) (timeline (i + 1)), m, i + 2⟩) :
    (cancelReservation reservationId).Concludes timeline Q R ⟨d, n, i⟩ := by
  simp only [cancelReservation, Holds.get, bind_eq, pure_eq, concludes_bind]
  refine concludes_answer (d.tables.reservations.get? reservationId) d (fun _ => rfl) rfl fun m₁ h₁ => ?_
  refine concludes_require.2 ⟨fun r hr => ?_, fun hnone => refused _ _ (by simp only [Operation.refusal?, wanting, hnone])⟩
  obtain rfl := (hs.reservations.keyed _ r hr).1
  refine lockCopy_concludes (hs.mono h₁) (fun hnone w => refused _ w ?_) fun c m₂ h₂ hid hlive hc => ?_
  · simp only [Operation.refusal?, wanting, hr, hnone]
  simp only [Operation.refusal?, wanting, hr, ← hid, hlive, Reservation.releaseTests] at refused released
  refine concludes_ensure.2 ⟨fun hheld => ?_, fun hheld => refused _ _ ?_⟩
  · have hheld : c.status = .onReserve := by simpa using hheld
    refine Holds.fulfil_concludes hr (fun hp w => refused _ w ?_) fun hp m₃ h₃ => ?_
    · simp [hheld, hp]
    · refine moveCopy_concludes hc.row hc.live fun m₄ h₄ => ?_
      exact released c r m₄ (by simp [hheld, hp]) rfl hr hp hid.symm hc hheld
        (Int.le_trans (Int.le_trans h₁ h₂) (Int.le_trans h₃ h₄))
  · have hheld : c.status ≠ .onReserve := by simpa using hheld
    simp [hheld]

/-- A title is found, or refused as not found. -/
theorem ensureBook_concludes {bookId : Int} {Q : Unit → Work → Prop}
    (missing : d.tables.books.contains bookId = false → ∀ w, R (.refused (.notFound (.book bookId))) w)
    (there : ∀ m, n ≤ m → d.tables.books.contains bookId = true → Q () ⟨d, m, i⟩) :
    (ensureBook bookId).Concludes timeline Q R ⟨d, n, i⟩ := by
  simp only [ensureBook, bind_eq, concludes_bind]
  refine concludes_answer (d.tables.books.get? bookId) d (fun _ => rfl) rfl fun m hm => ?_
  exact concludes_ensure.2 ⟨fun hsome => there m hm hsome, fun hnone => missing hnone _⟩

/-- A copy of a title that is there is inserted under a new id. -/
theorem insertCopy_concludes {bookId : Int} {t : Instant} {Q : Copy → Work → Prop}
    (hb : d.tables.books.contains bookId = true)
    (inserted : ∀ k, n < k → Q (NewCopy.toRow ⟨bookId, t⟩ k) ⟨d.putCopy (NewCopy.toRow ⟨bookId, t⟩ k) k, k, i⟩) :
    (Procedure.request (.insertCopy bookId t)).Concludes timeline Q R ⟨d, n, i⟩ := by
  refine @concludes_insert _ R _ _ _ (.insertCopy bookId t) Q (NewCopy.toRow ⟨bookId, t⟩) Draft.putCopy (fun m => ?_)
    (fun _ => rfl) inserted
  simp only [Work.answer, hb, if_true]
  rfl

/-- A copy is added, under a new id, when its title is there. -/
theorem addCopy_concludes {bookId : Int} {Q : Copy → Work → Prop}
    (refused : ∀ why w, (Operation.addCopy bookId).refusal? policy d.tables = some why → R (.refused why) w)
    (added : ∀ k, (Operation.addCopy bookId).refusal? policy d.tables = none → n < k →
      Q (NewCopy.toRow ⟨bookId, timeline i⟩ k) ⟨d.putCopy (NewCopy.toRow ⟨bookId, timeline i⟩ k) k, k, i + 1⟩) :
    (addCopy bookId).Concludes timeline Q R ⟨d, n, i⟩ := by
  simp only [addCopy, bind_eq, concludes_bind]
  simp only [Operation.refusal?, firstFailed_cons] at refused added
  refine ensureBook_concludes (fun hnone w => refused _ w (by simp [hnone])) fun m hm hb => concludes_now.2 ?_
  exact insertCopy_concludes hb fun k hk => added k (by simp [hb]) (Int.lt_of_le_of_lt hm hk)

/-- Copies are inserted one after the other, under new ids in ascending order. -/
theorem insertCopies_concludes {bookId : Int} {t : Instant} {count : Nat} {Q : List Copy → Work → Prop}
    (hb : d.tables.books.contains bookId = true)
    (inserted : ∀ ks m, ks.length = count → ks.Pairwise (· < ·) → (∀ k ∈ ks, n < k ∧ k ≤ m) → n ≤ m →
      Q (ks.map (NewCopy.toRow ⟨bookId, t⟩)) ⟨d.putCopies ⟨bookId, t⟩ ks, m, i⟩) :
    (insertCopies bookId t count).Concludes timeline Q R ⟨d, n, i⟩ := by
  induction count generalizing d n Q with
  | zero => exact inserted [] n rfl .nil (List.forall_mem_nil _) (Int.le_refl n)
  | succ count ih =>
    simp only [insertCopies, bind_eq, pure_eq, concludes_bind]
    refine insertCopy_concludes hb fun k hk => ih hb fun ks m hlength hsorted hks hm => ?_
    refine inserted (k :: ks) m (congrArg (· + 1) hlength) (.cons (fun k' hk' => (hks k' hk').1) hsorted) ?_ ?_
    · refine List.forall_mem_cons.2 ⟨⟨hk, hm⟩, fun k' hk' => ⟨Int.lt_trans hk (hks k' hk').1, (hks k' hk').2⟩⟩
    · exact Int.le_trans (Int.le_of_lt hk) hm

/-- Copies are added, as many as asked for and under new ids in order, when no test refuses them. -/
theorem addCopies_concludes {bookId count : Int} {Q : List Copy → Work → Prop}
    (refused : ∀ why w, (Operation.addCopies bookId count).refusal? policy d.tables = some why → R (.refused why) w)
    (added : ∀ ks m, (Operation.addCopies bookId count).refusal? policy d.tables = none → ks.length = count.toNat →
      ks.Pairwise (· < ·) → (∀ k ∈ ks, n < k ∧ k ≤ m) → n ≤ m →
      Q (ks.map (NewCopy.toRow ⟨bookId, timeline i⟩)) ⟨d.putCopies ⟨bookId, timeline i⟩ ks, m, i + 1⟩) :
    (addCopies bookId count).Concludes timeline Q R ⟨d, n, i⟩ := by
  simp only [addCopies, bind_eq, concludes_bind]
  simp only [Operation.refusal?, firstFailed_cons] at refused added
  refine concludes_ensure.2 ⟨fun hcount => ?_, fun hcount => refused _ _ (if_neg (Bool.not_eq_true _ ▸ hcount))⟩
  rw [if_pos hcount] at refused added
  refine ensureBook_concludes (fun hnone w => refused _ w (by simp [hnone])) fun m₁ h₁ hb => concludes_now.2 ?_
  refine insertCopies_concludes hb fun ks m hlength hsorted hks hm => ?_
  exact added ks m (by simp [hb]) hlength hsorted
    (fun k hk => ⟨Int.lt_of_le_of_lt h₁ (hks k hk).1, (hks k hk).2⟩) (Int.le_trans h₁ hm)

/-- A copy on the shelf is withdrawn. -/
theorem removeCopy_concludes {copyId : Int} {Q : Copy → Work → Prop} (hs : d.Stands base n)
    (refused : ∀ why w, (Operation.removeCopy copyId).refusal? policy d.tables = some why → R (.refused why) w)
    (removed : ∀ c m, (Operation.removeCopy copyId).refusal? policy d.tables = none → c.id = copyId →
      (d.lock c.id).Holding c → c.status = .available → n ≤ m →
      Q { c with deletedAt := some (timeline i), updatedAt := timeline i }
        ⟨(d.lock c.id).withdrawn c (timeline i), m, i + 1⟩) :
    (removeCopy copyId).Concludes timeline Q R ⟨d, n, i⟩ := by
  simp only [removeCopy, bind_eq, pure_eq, concludes_bind]
  refine lockCopy_concludes hs (fun hnone w => refused _ w ?_) fun c m₁ h₁ hid hlive hc => ?_
  · simp only [Operation.refusal?, wanting, hnone]
  subst hid
  simp only [Operation.refusal?, wanting, hlive] at refused removed
  refine ensureAvailable_concludes (fun why => refused why _) fun havailable hshelf => concludes_now.2 ?_
  have hw : (d.lock c.id).withdrawCopy c.id (timeline i) = (true, (d.lock c.id).withdrawn c (timeline i)) := by
    simp [Draft.withdrawCopy, Draft.changeCopy, hc.row, hc.live, havailable, Draft.withdrawn]
  refine concludes_answer true ((d.lock c.id).withdrawn c (timeline i)) (fun m => ?_) rfl fun m₂ h₂ => ?_
  · simp only [Work.answer, Work.write, hw]
  · exact concludes_ensure.2 ⟨fun _ => removed c m₂ hshelf rfl hc havailable (Int.le_trans h₁ h₂),
      fun hnot => absurd hnot.symm Bool.false_ne_true⟩

/-- A fine is settled when it is there and has not been settled. -/
theorem settleFine_concludes {fineId : Int} {Q : Fine → Work → Prop} (hs : d.Stands base n)
    (refused : ∀ why w, (Operation.settleFine fineId).refusal? policy d.tables = some why → R (.refused why) w)
    (settled : ∀ f m, (Operation.settleFine fineId).refusal? policy d.tables = none → f.id = fineId →
      d.tables.fines.get? f.id = some f → f.settled = false → n ≤ m →
      Q { f with settled := true, updatedAt := timeline i } ⟨d.settling f (timeline i), m, i + 1⟩) :
    (settleFine fineId).Concludes timeline Q R ⟨d, n, i⟩ := by
  simp only [settleFine, Charges.settle, Charges.get, bind_eq, pure_eq, concludes_bind]
  refine concludes_answer (d.tables.fines.get? fineId) d (fun _ => rfl) rfl fun m₁ h₁ => ?_
  refine concludes_require.2 ⟨fun f hf => ?_, fun hnone => refused _ _ (by simp only [Operation.refusal?, wanting, hnone])⟩
  have hid : f.id = fineId := (hs.fines.keyed _ f hf).1
  subst hid
  simp only [Operation.refusal?, wanting, hf, firstFailed_cons] at refused settled
  refine concludes_ensure.2 ⟨fun hopen => concludes_now.2 ?_, fun hsettled => refused _ _ (by simp [hsettled])⟩
  have hnot : f.settled = false := by simpa using hopen
  have hw : d.settleFine f.id (timeline i) = (true, d.settling f (timeline i)) := by
    simp [Draft.settleFine, hf, hnot, Draft.settling]
  refine concludes_answer true (d.settling f (timeline i)) (fun m => ?_) rfl fun m₂ h₂ => ?_
  · simp only [Work.answer, Work.write, hw]
  · exact concludes_ensure.2 ⟨fun _ => settled f m₂ (by simp [hnot]) rfl hf hnot (Int.le_trans h₁ h₂),
      fun hnot => absurd hnot.symm Bool.false_ne_true⟩

end Desk

/-! ## Results -/

/-- Whether a stop is the refusal that a decision names, or an overflow where the decision names none. -/
def Stop.Obeys (refusal? : Option Refusal) : Stop → Prop
  | .refused why => refusal? = some why
  | .overflowed _ => refusal? = none

section

variable {α : Type} {p : Procedure α} {w : Work} {refusal? : Option Refusal}

/-- A procedure that obeys a decision is refused with what the decision names and with nothing else. -/
theorem Procedure.Concludes.refused_iff
    (h : p.Concludes timeline (fun _ _ => refusal? = none) (fun why _ => why.Obeys refusal?) w) (why : Refusal) :
    p.result timeline w = .error (.refused why) ↔ refusal? = some why := by
  cases hr : p.result timeline w with
  | ok a =>
    obtain ⟨-, hnone⟩ := h.result_ok hr
    simp [hnone]
  | error stop =>
    obtain ⟨-, hobeys⟩ := h.result_error hr
    cases stop with
    | refused why' =>
      have hsome : refusal? = some why' := hobeys
      simp [hsome]
    | overflowed what =>
      have hnone : refusal? = none := hobeys
      simp [hnone]

/-- Where arithmetic stays in range a procedure that obeys a decision has a result if the decision names no refusal. -/
theorem Procedure.Concludes.granted_iff
    (h : p.Concludes timeline (fun _ _ => refusal? = none) (fun why _ => why.Obeys refusal?) w)
    (hrange : ∀ what, p.result timeline w ≠ .error (.overflowed what)) :
    (∃ a, p.result timeline w = .ok a) ↔ refusal? = none := by
  cases hr : p.result timeline w with
  | ok a =>
    obtain ⟨-, hnone⟩ := h.result_ok hr
    simp [hnone]
  | error stop =>
    cases stop with
    | refused why =>
      have hsome := (h.refused_iff why).1 hr
      simp [hsome]
    | overflowed what => exact absurd hr (hrange what)

end

/-- An operation of the desk is refused as the tables of its draft decide and has every conditional write done, whatever others
do meanwhile. -/
theorem Operation.concludes (o : Operation) (hs : d.Stands base n) : (o.carryOut policy).Concludes timeline
    (fun _ _ => o.refusal? policy d.tables = none) (fun why _ => why.Obeys (o.refusal? policy d.tables)) ⟨d, n, i⟩ := by
  cases o with
  | borrow copyId userId =>
    refine (concludes_bind _ _ _).2 (Desk.borrow_concludes hs (fun _ _ h => h) (fun _ _ _ h _ _ => h) ?_)
    exact fun _ _ _ _ _ _ _ h _ _ _ _ _ _ _ _ => h
  | returnLoan loanId =>
    refine (concludes_bind _ _ _).2 (Desk.returnLoan_concludes hs (fun _ _ h => h) (fun _ _ _ h _ _ => h) ?_)
    exact fun _ _ _ _ _ _ _ h _ _ _ _ _ _ _ _ _ _ => h
  | returnCopy copyId =>
    refine (concludes_bind _ _ _).2 (Desk.returnCopy_concludes hs (fun _ _ h => h) (fun _ _ _ h _ _ => h) ?_)
    exact fun _ _ _ _ _ _ _ h _ _ _ _ _ _ _ _ _ _ _ => h
  | renew loanId =>
    refine (concludes_bind _ _ _).2 (Desk.renew_concludes hs (fun _ _ h => h) (fun _ _ _ h _ _ => h) ?_)
    exact fun _ _ _ _ h _ _ _ _ _ _ _ _ => h
  | reserve copyId userId =>
    refine (concludes_bind _ _ _).2 (Desk.reserve_concludes hs (fun _ _ h => h) (fun _ _ h _ => h) ?_)
    exact fun _ _ _ _ h _ _ _ _ _ _ => h
  | cancelReservation reservationId =>
    refine (concludes_bind _ _ _).2 (Desk.cancelReservation_concludes hs (fun _ _ h => h) ?_)
    exact fun _ _ _ h _ _ _ _ _ _ _ => h
  | addCopy bookId => exact (concludes_bind _ _ _).2 (Desk.addCopy_concludes (fun _ _ h => h) fun _ h _ => h)
  | addCopies bookId count =>
    exact (concludes_bind _ _ _).2 (Desk.addCopies_concludes (fun _ _ h => h) fun _ _ h _ _ _ _ => h)
  | removeCopy copyId =>
    exact (concludes_bind _ _ _).2 (Desk.removeCopy_concludes hs (fun _ _ h => h) fun _ _ h _ _ _ _ => h)
  | settleFine fineId =>
    exact (concludes_bind _ _ _).2 (Desk.settleFine_concludes hs (fun _ _ h => h) fun _ _ h _ _ _ _ => h)

end Circulation
