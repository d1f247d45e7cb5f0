import Circulation.Proofs.Moves

/-!
# What the operations of the desk do

Every operation of the desk, put to a draft that stands to its base, leads to a draft by moves: by a lock and its own
move when it goes through, and by a lock at most when it is refused (`Operation.moves`). A conditional write inside an
operation never fails, since the row it names was read under the lock. Only loans that are extended or closed without the
lock, on a row read before, may find that the row is no longer what was read.
-/

namespace Circulation

open Procedure

variable {rules : Rules} {policy : Policy} {base : Ledger} {d : Draft} {m : Moment} {R : Draft → Moment → Prop}

/-! ## Loans -/

namespace Lending

/-- A loan is got as the draft has it, or the refusal leaves the draft as it is. -/
theorem get_ensures {loanId : Int} {Q : Loan → Draft → Moment → Prop}
    (found : ∀ l m', rules.Later m m' → d.tables.loans.get? loanId = some l → Q l d m')
    (refused : ∀ m', rules.Later m m' → R d m') : (get loanId).Ensures rules Q R d m := by
  simp only [get, bind_eq, ensures_bind]
  refine ensures_answer (d.tables.loans.get? loanId) d (fun _ => rfl) fun m₁ h₁ => ?_
  exact ensures_require.2 ⟨fun l hl => found l m₁ h₁ hl, fun _ => refused m₁ h₁⟩

/-- A copy is lent by opening a loan of it. -/
theorem lend_ensures {c : Copy} {userId : Int} {Q : Loan → Draft → Moment → Prop}
    (opened : ∀ l d' m', Opened rules policy d m c userId l d' m' → Q l d' m') :
    (lend policy c userId).Ensures rules Q R d m := by
  simp only [lend, bind_eq, pure_eq, ensures_bind]
  refine ensures_now.2 fun m₁ h₁ => ensures_checked.2 fun period hp => ensures_checked.2 fun due hd => ?_
  refine ensures_insert (NewLoan.toRow ⟨c.id, c.bookId, userId, m₁.clock, due⟩) Draft.putLoan (fun _ => rfl)
    fun m₂ h₂ hk => ?_
  refine ensures_insert (NewLoanEntry.toRow ⟨m₂.lastId, .borrowed, due, none, m₁.clock⟩) Draft.putEntry (fun _ => rfl)
    fun m₃ h₃ hj => ?_
  exact opened _ _ _ (.intro ⟨m₁, h₁, h₂.trans h₃, rfl⟩ hp hd (Int.lt_of_le_of_lt h₁.lastId hk) hj (Int.le_refl _))

/-- A loan is written when its row is borrowed with the count expected; otherwise the write is refused. -/
theorem write_ensures {l l' row : Loan} {Q : Unit → Draft → Moment → Prop} (hid : l'.id = l.id)
    (hrow : d.tables.loans.get? l.id = some row)
    (written : row.isBorrowed = true → row.renewCount = l.renewCount → ∀ m', rules.Later m m' →
      Q () ((d.guard l.id l.renewCount).putLoan { row with
        status := l'.status, dueDate := l'.dueDate, returnDate := l'.returnDate, renewCount := l'.renewCount,
        updatedAt := l'.updatedAt } l.id) m')
    (stale : ¬(row.isBorrowed = true ∧ row.renewCount = l.renewCount) → ∀ m', rules.Later m m' → R d m') :
    (write l' l.renewCount).Ensures rules Q R d m := by
  simp only [write, bind_eq, ensures_bind]
  by_cases h : row.isBorrowed = true ∧ row.renewCount = l.renewCount
  · have hw : d.updateLoan l' l.renewCount = (true, (d.guard l.id l.renewCount).putLoan { row with
        status := l'.status, dueDate := l'.dueDate, returnDate := l'.returnDate, renewCount := l'.renewCount,
        updatedAt := l'.updatedAt } l.id) := by
      simp [Draft.updateLoan, hid, hrow, h]
    refine ensures_answer true (d.updateLoan l' l.renewCount).2 (fun n => ?_) fun m₁ h₁ => ?_
    · simp only [Work.answer, Work.write, hw]
    · rw [hw]
      exact ensures_ensure_true.2 (written h.1 h.2 m₁ h₁)
  · have hw : d.updateLoan l' l.renewCount = (false, d) := by
      simp only [Draft.updateLoan, hid, hrow, Bool.and_eq_true, decide_eq_true_eq, if_neg h]
    refine ensures_answer false d (fun n => ?_) fun m₁ h₁ => ?_
    · simp only [Work.answer, Work.write, hw]
    · exact ensures_ensure_false.2 (stale h m₁ h₁)

/-- A return is charged as the fine for it says. -/
theorem charge_ensures {l : Loan} {t : Instant} {Q : Option Fine → Draft → Moment → Prop} (hm : rules.admits m.clock)
    (charged : ∀ f d' m', rules.Later m m' → Charged policy d m.lastId l t d' m'.lastId → Q f d' m') :
    (Charges.charge policy l t).Ensures rules Q R d m := by
  simp only [Charges.charge, bind_eq, pure_eq, ensures_bind]
  refine ensures_checked.2 fun charge hc => ?_
  cases charge with
  | none => exact charged none d m (.refl hm) (.none hc)
  | some amount =>
    simp only [ensures_bind]
    refine ensures_insert (NewFine.toRow ⟨l.id, amount, t⟩) Draft.putFine (fun _ => rfl) fun m₁ h₁ hk => ?_
    exact charged _ _ m₁ h₁ (.fine hc hk)

/-- A loan is taken back whose row is as it was read, or has changed so that its write is refused. -/
theorem takeBack_ensures {l row : Loan} {Q : Loan → Draft → Moment → Prop} (hrow : d.tables.loans.get? l.id = some row)
    (hfresh : row.isBorrowed = true → row.renewCount = l.renewCount → row = l)
    (returned : ∀ l' d' m', Returned rules policy d m l d' m' → Q l' d' m') (refused : R d m)
    (stale : row ≠ l → ∀ d' m', R d' m') : (takeBack policy l).Ensures rules Q R d m := by
  simp only [takeBack, bind_eq, pure_eq, ensures_bind]
  refine ensures_ensure.2 ⟨fun hb => ensures_now.2 fun m₁ h₁ => ?_, fun _ => refused⟩
  refine charge_ensures h₁.admits fun f d₁ m₂ h₂ hf => ?_
  have hrow₁ : d₁.tables.loans.get? l.id = some row := by rw [hf.frame.2.loans]; exact hrow
  refine write_ensures rfl hrow₁ (fun hb' hn m₃ h₃ => ?_) fun hnot m₃ h₃ => ?_
  · obtain rfl := hfresh hb' hn
    refine ensures_insert (NewLoanEntry.toRow ⟨row.id, .returned, row.dueDate, none, m₁.clock⟩) Draft.putEntry
      (fun _ => rfl) fun m₄ h₄ hj => ?_
    have hlt : m₂.lastId < m₄.lastId := Int.lt_of_le_of_lt h₃.lastId hj
    exact returned _ _ _ (.intro hrow hb ⟨m₁, h₁, (h₂.trans h₃).trans h₄, rfl⟩ h₁.lastId hf hlt (Int.le_refl _))
  · refine stale (fun hrl => hnot ?_) _ _
    subst hrl
    exact ⟨hb, rfl⟩

/-- A loan may be renewed when renewals are left, or the refusal leaves the draft as it is. -/
theorem ensureRenewable_ensures {l : Loan} {Q : Unit → Draft → Moment → Prop}
    (renewable : (∀ max, policy.maxRenewals = some max → l.renewCount < max) → Q () d m) (refused : R d m) :
    (ensureRenewable policy l).Ensures rules Q R d m := by
  unfold ensureRenewable
  split
  · rename_i hnone
    exact renewable fun max hmax => by simp [hnone] at hmax
  · rename_i max hmax
    refine ensures_ensure.2 ⟨fun hlt => renewable fun max' hmax' => ?_, fun _ => refused⟩
    cases hmax.symm.trans hmax'
    simpa using hlt

/-- A loan is renewed whose row is as it was read, or has changed so that its write is refused. -/
theorem renew_ensures {l row : Loan} {Q : Loan → Draft → Moment → Prop} (hrow : d.tables.loans.get? l.id = some row)
    (hfresh : row.isBorrowed = true → row.renewCount = l.renewCount → row = l)
    (renewed : ∀ l' d' m', Renewed rules policy d m l d' m' → Q l' d' m') (refused : R d m)
    (stale : row ≠ l → ∀ d' m', R d' m') : (renew policy l).Ensures rules Q R d m := by
  simp only [renew, bind_eq, pure_eq, ensures_bind]
  refine ensures_ensure.2 ⟨fun hb => ?_, fun _ => refused⟩
  refine ensureRenewable_ensures (fun hmax => ensures_now.2 fun m₁ h₁ => ?_) refused
  refine ensures_checked.2 fun period hp => ensures_checked.2 fun due hd => ?_
  refine write_ensures rfl hrow (fun hb' hn m₂ h₂ => ?_) fun hnot m₂ h₂ => ?_
  · obtain rfl := hfresh hb' hn
    refine ensures_insert (NewLoanEntry.toRow ⟨row.id, .renewed, due, some row.dueDate, m₁.clock⟩) Draft.putEntry
      (fun _ => rfl) fun m₃ h₃ hj => ?_
    have hlt : m.lastId < m₃.lastId := Int.lt_of_le_of_lt (h₁.trans h₂).lastId hj
    exact renewed _ _ _ (.intro hrow hb hmax ⟨m₁, h₁, h₂.trans h₃, rfl⟩ hp hd hlt (Int.le_refl _))
  · refine stale (fun hrl => hnot ?_) _ _
    subst hrl
    exact ⟨hb, rfl⟩

end Lending

/-! ## Reservations and limits -/

namespace Holds

/-- A pending reservation is fulfilled, or the refusal leaves the draft as it is. -/
theorem fulfil_ensures {r : Reservation} {Q : Reservation → Draft → Moment → Prop}
    (hr : d.tables.reservations.get? r.id = some r)
    (fulfilled : r.isPending = true → ∀ r' t m', rules.Later m m' → Q r' (d.fulfilled r t) m') (refused : R d m) :
    (fulfil r).Ensures rules Q R d m := by
  simp only [fulfil, bind_eq, pure_eq, ensures_bind]
  refine ensures_ensure.2 ⟨fun hp => ensures_now.2 fun m₁ h₁ => ?_, fun _ => refused⟩
  have hpending : r.status = .pending := by simpa [Reservation.isPending] using hp
  have hw : d.moveReservation r.id .pending .fulfilled m₁.clock = (true, d.fulfilled r m₁.clock) := by
    simp [Draft.moveReservation, hr, hpending, Draft.fulfilled]
  refine ensures_answer true (d.fulfilled r m₁.clock) (fun n => ?_) fun m₂ h₂ => ?_
  · simp only [Work.answer, Work.write, hw]
  · exact ensures_ensure_true.2 (fulfilled hp _ _ m₂ (h₁.trans h₂))

/-- A reservation is placed under a new id, with an expiry that the policy counts from a reading of the clock. -/
theorem place_ensures {c : Copy} {userId : Int} {Q : Reservation → Draft → Moment → Prop}
    (placed : ∀ t expiry m', rules.Reads m t m' → policy.reservationHold.bind t.after = .ok expiry → m.lastId < m'.lastId →
      Q (NewReservation.toRow ⟨c.id, c.bookId, userId, expiry, t⟩ m'.lastId)
        (d.putReservation (NewReservation.toRow ⟨c.id, c.bookId, userId, expiry, t⟩ m'.lastId) m'.lastId) m') :
    (place policy c userId).Ensures rules Q R d m := by
  simp only [place, bind_eq, ensures_bind]
  refine ensures_now.2 fun m₁ h₁ => ensures_checked.2 fun period hp => ensures_checked.2 fun expiry he => ?_
  refine @ensures_insert _ _ _ _ (.insertReservation ⟨c.id, c.bookId, userId, expiry, m₁.clock⟩) Q
    (NewReservation.toRow ⟨c.id, c.bookId, userId, expiry, m₁.clock⟩) Draft.putReservation (fun _ => rfl) fun m₂ h₂ hk => ?_
  have hexpiry : policy.reservationHold.bind m₁.clock.after = .ok expiry := by rw [hp]; exact he
  exact placed m₁.clock expiry m₂ ⟨m₁, h₁, h₂, rfl⟩ hexpiry (Int.lt_of_le_of_lt h₁.lastId hk)

end Holds

namespace Limits

variable {userId bookId : Int} {Q : Unit → Draft → Moment → Prop}

/-- A user may borrow a title within the limits, or the refusal leaves the draft as it is. -/
theorem ensureMayBorrow_ensures (may : ∀ m', rules.Later m m' → MayBorrow policy d userId bookId → Q () d m')
    (refused : ∀ m', rules.Later m m' → R d m') : (ensureMayBorrow policy userId bookId).Ensures rules Q R d m := by
  simp only [ensureMayBorrow, hasLoanOnTitle, bind_eq, pure_eq, ensures_bind]
  refine ensures_answer ((d.tables.borrowedBy userId).length : Int) d (fun _ => rfl) fun m₁ h₁ => ?_
  refine ensures_ensure.2 ⟨fun hcap => ?_, fun _ => refused m₁ h₁⟩
  refine ensures_answer ((d.tables.borrowedOnTitle userId bookId).length : Int) d (fun _ => rfl) fun m₂ h₂ => ?_
  refine ensures_ensure.2 ⟨fun htitle => may m₂ (h₁.trans h₂) ⟨?_, ?_⟩, fun _ => refused m₂ (h₁.trans h₂)⟩
  · simpa [atLoanCap] using hcap
  · simpa using htitle

/-- A user may reserve a title within the limits, or the refusal leaves the draft as it is. -/
theorem ensureMayReserve_ensures (may : ∀ m', rules.Later m m' → MayReserve policy d userId bookId → Q () d m')
    (refused : ∀ m', rules.Later m m' → R d m') : (ensureMayReserve policy userId bookId).Ensures rules Q R d m := by
  simp only [ensureMayReserve, hasLoanOnTitle, hasReservationOnTitle, bind_eq, pure_eq, ensures_bind]
  refine ensures_answer ((d.tables.pendingOf userId).length : Int) d (fun _ => rfl) fun m₁ h₁ => ?_
  refine ensures_ensure.2 ⟨fun hcap => ?_, fun _ => refused m₁ h₁⟩
  refine ensures_answer ((d.tables.borrowedOnTitle userId bookId).length : Int) d (fun _ => rfl) fun m₂ h₂ => ?_
  have h₁₂ := h₁.trans h₂
  refine ensures_ensure.2 ⟨fun hlent => ?_, fun _ => refused m₂ h₁₂⟩
  refine ensures_answer ((d.tables.pendingOnTitle userId bookId).length : Int) d (fun _ => rfl) fun m₃ h₃ => ?_
  have h₁₃ := h₁₂.trans h₃
  refine ensures_ensure.2 ⟨fun htitle => may m₃ h₁₃ ⟨?_, ?_, ?_⟩, fun _ => refused m₃ h₁₃⟩
  · simpa [aboveReservationCap] using hcap
  · simpa using hlent
  · simpa using htitle

end Limits

/-! ## Copies -/

namespace Desk

/-- A copy that is locked was found alive, and its draft holds it. -/
theorem lockCopy_ensures {copyId : Int} {Q : Copy → Draft → Moment → Prop} (hs : d.Stands base m.lastId)
    (locked : ∀ c m', rules.Later m m' → c.id = copyId → d.liveCopy? c.id = some c → (d.lock c.id).Holding c →
      Q c (d.lock c.id) m')
    (refused : ∀ m', rules.Later m m' → R d m') : (lockCopy copyId).Ensures rules Q R d m := by
  simp only [lockCopy, bind_eq, ensures_bind]
  cases hc : d.liveCopy? copyId with
  | none =>
    refine ensures_answer none d (fun n => ?_) fun m₁ h₁ => ?_
    · simp only [Work.answer, hc]
    · exact ensures_require_none.2 (refused m₁ h₁)
  | some c =>
    refine ensures_answer (some c) (d.lock copyId) (fun n => ?_) fun m₁ h₁ => ?_
    · simp only [Work.answer, hc]
    · rw [ensures_require_some]
      obtain ⟨hrow, hlive⟩ := Option.filter_eq_some_iff.1 hc
      obtain rfl := (hs.copies.keyed copyId c hrow).1
      refine locked c m₁ h₁ rfl hc ⟨hrow, by simpa using hlive, ?_⟩
      simp [Draft.lock]

/-- A copy whose row is as it was found moves. -/
theorem moveCopy_ensures {c : Copy} {status : CopyStatus} {Q : Unit → Draft → Moment → Prop}
    (hrow : d.tables.copies.get? c.id = some c) (hlive : c.isDeleted = false)
    (moved : ∀ t m', rules.Later m m' → Q () (d.moved c status t) m') : (moveCopy c status).Ensures rules Q R d m := by
  simp only [moveCopy, bind_eq, ensures_bind]
  refine ensures_now.2 fun m₁ h₁ => ?_
  have hw : d.moveCopy c.id c.status status m₁.clock = (true, d.moved c status m₁.clock) := by
    simp [Draft.moveCopy, Draft.changeCopy, hrow, hlive, Draft.moved]
  refine ensures_answer true (d.moved c status m₁.clock) (fun n => ?_) fun m₂ h₂ => ?_
  · simp only [Work.answer, Work.write, hw]
  · exact ensures_ensure_true.2 (moved _ m₂ (h₁.trans h₂))

/-- A copy is on the shelf, or the refusal leaves the draft as it is. -/
theorem ensureAvailable_ensures {c : Copy} {Q : Unit → Draft → Moment → Prop}
    (available : c.status = .available → Q () d m) (refused : R d m) :
    (ensureAvailable c).Ensures rules Q R d m := by
  unfold ensureAvailable
  split
  · exact refused
  · exact refused
  · rename_i h
    exact available h

/-- A copy is released to a user who may have it. -/
theorem releaseTo_ensures {c : Copy} {userId : Int} {Q : Unit → Draft → Moment → Prop} (hs : d.Stands base m.lastId)
    (hm : rules.admits m.clock)
    (released : ∀ d' m', rules.Later m m' → Released d c userId d' → Q () d' m')
    (refused : ∀ m', rules.Later m m' → R d m') : (releaseTo userId c).Ensures rules Q R d m := by
  unfold releaseTo
  split
  · exact refused m (.refl hm)
  · rename_i hreserve
    simp only [Holds.pendingOfCopy, bind_eq, pure_eq, ensures_bind]
    refine @ensures_answer _ _ _ _ (.pendingReservation c.id) _
      (d.tables.reservations.rows.find? fun r => r.copyId = c.id && r.isPending) d (fun _ => rfl) fun m₁ h₁ => ?_
    refine ensures_require.2 ⟨fun r hr => ?_, fun _ => refused m₁ h₁⟩
    obtain ⟨hfind, huser⟩ := Option.filter_eq_some_iff.1 hr
    obtain ⟨⟨id, hrow⟩, hp⟩ := Table.get?_of_find?_rows hfind
    obtain rfl := (hs.reservations.keyed id r hrow).1
    simp only [Bool.and_eq_true, decide_eq_true_eq] at hp huser
    refine Holds.fulfil_ensures hrow (fun hpending r' t m₂ h₂ => ?_) (refused m₁ h₁)
    exact released _ m₂ (h₁.trans h₂) (.hold r t hreserve hrow hpending hp.1 huser)
  · rename_i havailable
    exact released d m (.refl hm) (.shelf havailable)

/-! ## Operations -/

/-- Whether a condition holds of all that a refusal may leave behind: the draft as it was, or with one more copy locked. -/
structure Spares (rules : Rules) (R : Draft → Moment → Prop) (d : Draft) (m : Moment) : Prop where
  now : R d m
  later : ∀ m', rules.Later m m' → R d m'
  locked : ∀ c m', rules.Later m m' → d.liveCopy? c.id = some c → R (d.lock c.id) m'

/-- What a refusal may leave behind is reached by moves. -/
theorem spares_moves : Spares rules (Moves rules policy d m) d m where
  now := .refl
  later _ h := .wait .refl h
  locked c _ h hl := .wait (.move .refl (.lock c hl)) h

/-- A borrowing makes moves, or its refusal spares the draft. -/
theorem borrow_ensures {copyId userId : Int} (hs : d.Stands base m.lastId) (hR : Spares rules R d m) :
    (borrow policy copyId userId).Ensures rules (fun _ => Moves rules policy d m) R d m := by
  simp only [borrow, bind_eq, pure_eq, ensures_bind]
  refine lockCopy_ensures hs (fun c m₁ h₁ _ hl hc => ?_) hR.later
  have hm : Moves rules policy d m (d.lock c.id) m₁ := .wait (.move .refl (.lock c hl)) h₁
  refine Limits.ensureMayBorrow_ensures (fun m₂ h₂ hmay => ?_) fun m₂ h₂ => hR.locked c m₂ (h₁.trans h₂) hl
  have hs₂ := (hm.wait h₂).stands hs
  refine releaseTo_ensures hs₂ h₂.admits (fun d₁ m₃ h₃ hr => ?_) fun m₃ h₃ => hR.locked c m₃ ((h₁.trans h₂).trans h₃) hl
  refine Lending.lend_ensures fun l d₂ m₄ ho => ?_
  have hrow : d₂.tables.copies.get? c.id = some c := by
    rw [ho.frame.copies, hr.frame.1]
    exact hc.row
  refine moveCopy_ensures hrow hc.live fun t m₅ h₅ => ?_
  exact (((hm.wait h₂).wait h₃).move (.borrow t hc hmay hr ho)).wait h₅

/-- The copy of a loan is locked and the loan is read under the lock, as it was before. -/
theorem lockLoan_ensures {loanId : Int} {Q : Copy × Loan → Draft → Moment → Prop} (hs : d.Stands base m.lastId)
    (locked : ∀ c l m', rules.Later m m' → d.liveCopy? c.id = some c → (d.lock c.id).Holding c →
      (d.lock c.id).tables.loans.get? l.id = some l → l.copyId = c.id → Q (c, l) (d.lock c.id) m')
    (hR : Spares rules R d m) : (lockLoan loanId).Ensures rules Q R d m := by
  simp only [lockLoan, bind_eq, pure_eq, ensures_bind]
  refine Lending.get_ensures (fun l m₁ h₁ hl => ?_) hR.later
  refine lockCopy_ensures (hs.mono h₁.lastId) (fun c m₂ h₂ hid hlive hc => ?_) fun m₂ h₂ => hR.later m₂ (h₁.trans h₂)
  have h₁₂ := h₁.trans h₂
  refine Lending.get_ensures (fun l' m₃ h₃ hl' => ?_) fun m₃ h₃ => hR.locked c m₃ (h₁₂.trans h₃) hlive
  cases hl.symm.trans hl'
  obtain rfl := (hs.loans.keyed loanId l hl).1
  exact locked c l m₃ (h₁₂.trans h₃) hlive hc hl hid.symm

/-- A loan is closed under the lock on its copy. -/
theorem closeLoan_ensures {c : Copy} {l : Loan} {Q : Loan → Draft → Moment → Prop} (hc : d.Holding c)
    (hl : d.tables.loans.get? l.id = some l) (hlc : l.copyId = c.id)
    (closed : ∀ l' d' m' m'', Move rules policy d m d' m' → rules.Later m' m'' → Q l' d' m'') (refused : R d m) :
    (closeLoan policy c l).Ensures rules Q R d m := by
  simp only [closeLoan, bind_eq, pure_eq, ensures_bind]
  refine ensures_ensure.2 ⟨fun hout => ?_, fun _ => refused⟩
  have hout : c.status = .onLoan := by simpa using hout
  refine Lending.takeBack_ensures hl (fun _ _ => rfl) (fun l' d₁ m₁ hr => ?_) refused fun hne => absurd rfl hne
  have hrow : d₁.tables.copies.get? c.id = some c := by
    rw [hr.frame.copies]
    exact hc.row
  refine moveCopy_ensures hrow hc.live fun t m₂ h₂ => ?_
  exact closed _ _ _ _ (.takeBack t hc hout hlc hr) h₂

/-- A return of a loan makes moves, or its refusal spares the draft. -/
theorem returnLoan_ensures {loanId : Int} (hs : d.Stands base m.lastId) (hR : Spares rules R d m) :
    (returnLoan policy loanId).Ensures rules (fun _ => Moves rules policy d m) R d m := by
  simp only [returnLoan, bind_eq, ensures_bind]
  refine lockLoan_ensures hs (fun c l m₁ h₁ hlive hc hl hlc => ?_) hR
  have hm : Moves rules policy d m (d.lock c.id) m₁ := .wait (.move .refl (.lock c hlive)) h₁
  refine closeLoan_ensures hc hl hlc (fun l' d' m₂ m₃ hmove h₃ => ?_) (hR.locked c m₁ h₁ hlive)
  exact (hm.move hmove).wait h₃

/-- A return of a copy makes moves, or its refusal spares the draft. -/
theorem returnCopy_ensures {copyId : Int} (hs : d.Stands base m.lastId) (hR : Spares rules R d m) :
    (returnCopy policy copyId).Ensures rules (fun _ => Moves rules policy d m) R d m := by
  simp only [returnCopy, Lending.active, bind_eq, ensures_bind]
  refine lockCopy_ensures hs (fun c m₁ h₁ _ hlive hc => ?_) hR.later
  have hm : Moves rules policy d m (d.lock c.id) m₁ := .wait (.move .refl (.lock c hlive)) h₁
  refine @ensures_answer _ _ _ _ (.activeLoan c.id) _
    (d.tables.loans.rows.find? fun l => l.copyId = c.id && l.isBorrowed) (d.lock c.id) (fun _ => rfl) fun m₂ h₂ => ?_
  have hrefused := hR.locked c m₂ (h₁.trans h₂) hlive
  refine ensures_require.2 ⟨fun l hfind => ?_, fun _ => hrefused⟩
  obtain ⟨⟨id, hrow⟩, hp⟩ := Table.get?_of_find?_rows hfind
  obtain rfl := (hs.loans.keyed id l hrow).1
  simp only [Bool.and_eq_true, decide_eq_true_eq] at hp
  exact closeLoan_ensures hc hrow hp.1 (fun l' d' m₃ m₄ hmove h₄ => ((hm.wait h₂).move hmove).wait h₄) hrefused

/-- A renewal makes moves, or its refusal spares the draft. -/
theorem renew_ensures {loanId : Int} (hs : d.Stands base m.lastId) (hR : Spares rules R d m) :
    (renew policy loanId).Ensures rules (fun _ => Moves rules policy d m) R d m := by
  simp only [renew, bind_eq, ensures_bind]
  refine lockLoan_ensures hs (fun c l m₁ h₁ hlive hc hl hlc => ?_) hR
  have hrefused := hR.locked c m₁ h₁ hlive
  refine ensures_ensure.2 ⟨fun hout => ?_, fun _ => hrefused⟩
  have hout : c.status = .onLoan := by simpa using hout
  refine Lending.renew_ensures hl (fun _ _ => rfl) (fun l' d₁ m₂ hr => ?_) hrefused fun hne => absurd rfl hne
  exact (Moves.wait (.move .refl (.lock c hlive)) h₁).move (.renew hc hout hlc hr)

/-- A reservation makes moves, or its refusal spares the draft. -/
theorem reserve_ensures {copyId userId : Int} (hs : d.Stands base m.lastId) (hR : Spares rules R d m) :
    (reserve policy copyId userId).Ensures rules (fun _ => Moves rules policy d m) R d m := by
  simp only [reserve, bind_eq, pure_eq, ensures_bind]
  refine lockCopy_ensures hs (fun c m₁ h₁ _ hlive hc => ?_) hR.later
  have hm : Moves rules policy d m (d.lock c.id) m₁ := .wait (.move .refl (.lock c hlive)) h₁
  refine ensureAvailable_ensures (fun havailable => ?_) (hR.locked c m₁ h₁ hlive)
  refine Limits.ensureMayReserve_ensures (fun m₂ h₂ hmay => ?_) fun m₂ h₂ => hR.locked c m₂ (h₁.trans h₂) hlive
  refine Holds.place_ensures fun t expiry m₃ hreads hexpiry hk => ?_
  refine moveCopy_ensures hc.row hc.live fun t' m₄ h₄ => ?_
  exact ((hm.wait h₂).move (.reserve t' hc havailable hmay hreads hk (Int.le_refl _) hexpiry)).wait h₄

/-- A hold is cancelled that was found pending on a copy found on reserve. -/
theorem cancelReservation_releases {reservationId : Int} {Q : Reservation → Draft → Moment → Prop}
    (hs : d.Stands base m.lastId)
    (released : ∀ r c r' t t' m', rules.Later m m' → r.id = reservationId → d.liveCopy? c.id = some c →
      (d.lock c.id).Holding c → c.status = .onReserve → d.tables.reservations.get? r.id = some r → r.isPending = true →
      r.copyId = c.id → Q r' (((d.lock c.id).fulfilled r t).moved c .available t') m')
    (hR : Spares rules R d m) : (cancelReservation reservationId).Ensures rules Q R d m := by
  simp only [cancelReservation, Holds.get, bind_eq, pure_eq, ensures_bind]
  refine ensures_answer (d.tables.reservations.get? reservationId) d (fun _ => rfl) fun m₁ h₁ => ?_
  refine ensures_require.2 ⟨fun r hr => ?_, fun _ => hR.later m₁ h₁⟩
  obtain rfl := (hs.reservations.keyed _ r hr).1
  refine lockCopy_ensures (hs.mono h₁.lastId) (fun c m₂ h₂ hid hlive hc => ?_) fun m₂ h₂ => hR.later m₂ (h₁.trans h₂)
  have h₁₂ := h₁.trans h₂
  have hrefused := hR.locked c m₂ h₁₂ hlive
  refine ensures_ensure.2 ⟨fun hheld => ?_, fun _ => hrefused⟩
  have hheld : c.status = .onReserve := by simpa using hheld
  refine Holds.fulfil_ensures hr (fun hp r' t m₃ h₃ => ?_) hrefused
  refine moveCopy_ensures hc.row hc.live fun t' m₄ h₄ => ?_
  exact released r c r' t t' m₄ ((h₁₂.trans h₃).trans h₄) rfl hlive hc hheld hr hp hid.symm

/-- A cancellation makes moves, or its refusal spares the draft. -/
theorem cancelReservation_ensures {reservationId : Int} (hs : d.Stands base m.lastId) (hR : Spares rules R d m) :
    (cancelReservation reservationId).Ensures rules (fun _ => Moves rules policy d m) R d m := by
  refine cancelReservation_releases hs ?_ hR
  intro r c _ t t' m₁ h₁ _ hlive hc hheld hr hp hrc
  exact (Moves.move (.move .refl (.lock c hlive)) (.cancel t t' hc hheld hr hp hrc)).wait h₁

/-- A title is there, or the refusal leaves the draft as it is. -/
theorem ensureBook_ensures {bookId : Int} {Q : Unit → Draft → Moment → Prop}
    (there : ∀ m', rules.Later m m' → d.tables.books.contains bookId = true → Q () d m')
    (refused : ∀ m', rules.Later m m' → R d m') : (ensureBook bookId).Ensures rules Q R d m := by
  simp only [ensureBook, bind_eq, ensures_bind]
  refine ensures_answer (d.tables.books.get? bookId) d (fun _ => rfl) fun m₁ h₁ => ?_
  exact ensures_ensure.2 ⟨fun hb => there m₁ h₁ hb, fun _ => refused m₁ h₁⟩

/-- A copy of a title that is there is inserted by a move. -/
theorem insertCopy_ensures {bookId : Int} {t : Instant} {Q : Copy → Draft → Moment → Prop}
    (hb : d.tables.books.contains bookId = true)
    (inserted : ∀ c d' m', Move rules policy d m d' m' → d'.tables.books = d.tables.books → Q c d' m') :
    (Procedure.request (.insertCopy bookId t)).Ensures rules Q R d m := by
  refine @ensures_insert _ _ _ _ (.insertCopy bookId t) Q (NewCopy.toRow ⟨bookId, t⟩) Draft.putCopy (fun n => ?_)
    fun m₁ h₁ hk => ?_
  · simp only [Work.answer, hb, if_true]
    rfl
  · exact inserted _ _ m₁ (.addCopy hb h₁ hk (Int.le_refl _)) rfl

/-- Adding a copy makes moves, or its refusal spares the draft. -/
theorem addCopy_ensures {bookId : Int} (hR : Spares rules R d m) :
    (addCopy bookId).Ensures rules (fun _ => Moves rules policy d m) R d m := by
  simp only [addCopy, bind_eq, ensures_bind]
  refine ensureBook_ensures (fun m₁ h₁ hb => ?_) hR.later
  refine ensures_now.2 fun m₂ h₂ => ?_
  exact insertCopy_ensures hb fun c d' m₃ hmove _ => .move (.wait .refl (h₁.trans h₂)) hmove

/-- Copies are inserted one after the other. -/
theorem insertCopies_ensures {bookId : Int} {t : Instant} {n : Nat} {d' : Draft} {m' : Moment}
    (hb : d'.tables.books.contains bookId = true) (hm : Moves rules policy d m d' m') :
    (insertCopies bookId t n).Ensures rules (fun _ => Moves rules policy d m) R d' m' := by
  induction n generalizing d' m' with
  | zero => exact hm
  | succ n ih =>
    simp only [insertCopies, bind_eq, pure_eq, ensures_bind]
    refine insertCopy_ensures hb fun c d₁ m₁ (hmove : Move rules policy d' m' d₁ m₁) hbooks => ?_
    exact ih (hbooks ▸ hb) (hm.move hmove)

/-- Adding copies makes moves, or its refusal spares the draft. -/
theorem addCopies_ensures {bookId count : Int} (hR : Spares rules R d m) :
    (addCopies bookId count).Ensures rules (fun _ => Moves rules policy d m) R d m := by
  simp only [addCopies, bind_eq, ensures_bind]
  refine ensures_ensure.2 ⟨fun _ => ?_, fun _ => hR.now⟩
  refine ensureBook_ensures (fun m₁ h₁ hb => ?_) hR.later
  refine ensures_now.2 fun m₂ h₂ => ?_
  exact insertCopies_ensures hb (.wait .refl (h₁.trans h₂))

/-- Removing a copy makes moves, or its refusal spares the draft. -/
theorem removeCopy_ensures {copyId : Int} (hs : d.Stands base m.lastId) (hR : Spares rules R d m) :
    (removeCopy copyId).Ensures rules (fun _ => Moves rules policy d m) R d m := by
  simp only [removeCopy, bind_eq, pure_eq, ensures_bind]
  refine lockCopy_ensures hs (fun c m₁ h₁ hid hlive hc => ?_) hR.later
  subst hid
  have hm : Moves rules policy d m (d.lock c.id) m₁ := .wait (.move .refl (.lock c hlive)) h₁
  refine ensureAvailable_ensures (fun havailable => ?_) (hR.locked c m₁ h₁ hlive)
  refine ensures_now.2 fun m₂ h₂ => ?_
  have hw : (d.lock c.id).withdrawCopy c.id m₂.clock =
      (true, (d.lock c.id).putCopy { c with deletedAt := some m₂.clock, updatedAt := m₂.clock } c.id) := by
    simp [Draft.withdrawCopy, Draft.changeCopy, hc.row, hc.live, havailable]
  refine ensures_answer true ((d.lock c.id).withdrawCopy c.id m₂.clock).2 (fun n => ?_) fun m₃ h₃ => ?_
  · simp only [Work.answer, Work.write, hw]
  · rw [hw]
    rw [ensures_ensure_true]
    exact ((hm.wait h₂).move (.withdraw m₂.clock hc havailable)).wait h₃

/-- Settling a fine makes moves, or its refusal spares the draft. -/
theorem settleFine_ensures {fineId : Int} (hs : d.Stands base m.lastId) (hR : Spares rules R d m) :
    (settleFine fineId).Ensures rules (fun _ => Moves rules policy d m) R d m := by
  simp only [settleFine, Charges.settle, Charges.get, bind_eq, pure_eq, ensures_bind]
  refine ensures_answer (d.tables.fines.get? fineId) d (fun _ => rfl) fun m₁ h₁ => ?_
  refine ensures_require.2 ⟨fun f hf => ?_, fun _ => hR.later m₁ h₁⟩
  have hid : f.id = fineId := (hs.fines.keyed _ f hf).1
  subst hid
  refine ensures_ensure.2 ⟨fun hn => ?_, fun _ => hR.later m₁ h₁⟩
  have hn : f.settled = false := by simpa using hn
  refine ensures_now.2 fun m₂ h₂ => ?_
  have hw : d.settleFine f.id m₂.clock = (true, d.settling f m₂.clock) := by
    simp [Draft.settleFine, hf, hn, Draft.settling]
  refine ensures_answer true (d.settleFine f.id m₂.clock).2 (fun n => ?_) fun m₃ h₃ => ?_
  · simp only [Work.answer, Work.write, hw]
  · rw [hw]
    rw [ensures_ensure_true]
    exact (Moves.move (.wait .refl (h₁.trans h₂)) (.settle m₂.clock hf hn)).wait h₃

end Desk

/-- An operation of the desk that goes through leads to a draft by moves, and one that is refused leaves the draft as it was,
or with one more copy locked. -/
theorem Operation.goes (o : Operation) (hs : d.Stands base m.lastId) (hR : Desk.Spares rules R d m) :
    (o.procedure policy).Ensures rules (fun loans d' m' => loans = [] ∧ Moves rules policy d m d' m') R d m := by
  have quietly {α : Type} {p : Procedure α} (h : p.Ensures rules (fun _ => Moves rules policy d m) R d m) :
      p.quietly.Ensures rules (fun loans d' m' => loans = [] ∧ Moves rules policy d m d' m') R d m :=
    (ensures_bind _ _ _).2 (h.mono (fun _ _ _ hm => ⟨rfl, hm⟩) fun _ _ hm => hm)
  cases o with
  | borrow copyId userId => exact quietly (Desk.borrow_ensures hs hR)
  | returnLoan loanId => exact quietly (Desk.returnLoan_ensures hs hR)
  | returnCopy copyId => exact quietly (Desk.returnCopy_ensures hs hR)
  | renew loanId => exact quietly (Desk.renew_ensures hs hR)
  | reserve copyId userId => exact quietly (Desk.reserve_ensures hs hR)
  | cancelReservation reservationId => exact quietly (Desk.cancelReservation_ensures hs hR)
  | addCopy bookId => exact quietly (Desk.addCopy_ensures hR)
  | addCopies bookId count => exact quietly (Desk.addCopies_ensures hR)
  | removeCopy copyId => exact quietly (Desk.removeCopy_ensures hs hR)
  | settleFine fineId => exact quietly (Desk.settleFine_ensures hs hR)

/-- An operation of the desk leads to a draft by moves, whether it goes through or is refused. -/
theorem Operation.moves (o : Operation) (hs : d.Stands base m.lastId) :
    (o.procedure policy).Ensures rules (fun loans d' m' => loans = [] ∧ Moves rules policy d m d' m')
      (Moves rules policy d m) d m :=
  o.goes hs Desk.spares_moves

/-- Whatever waiting and moving keep is kept by an operation of the desk, whether it goes through or is refused. -/
theorem Operation.keeps {I : Draft → Moment → Prop} (o : Operation) (hs : d.Stands base m.lastId) (hI : I d m)
    (wait : ∀ d m m', rules.Later m m' → I d m → I d m')
    (move : ∀ d m d' m', d.Stands base m.lastId → Move rules policy d m d' m' → I d m → I d' m') :
    (o.procedure policy).Ensures rules (fun loans d' m' => loans = [] ∧ I d' m') I d m :=
  (o.moves hs).mono (fun _ _ _ h => ⟨h.1, h.2.keep hs hI wait move⟩) fun _ _ h => h.keep hs hI wait move

end Circulation
