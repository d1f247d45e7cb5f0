import Circulation.Proofs.Overdue
import Circulation.Proofs.UnderLock

/-!
# What a result stands for

An operation that ends with a result has done all of what it is for. Main statement: whatever the store answers, the writes of
an operation with a result are those of its kind, in their order, and each was done; once a request fails or a write is not
done, nothing is asked for any more and the operation ends in an error (`result_means_written`).
-/

namespace Circulation

namespace Deed

/-- The writes that were asked for, in order. -/
def writes (ds : List Deed) : List Request :=
  (ds.filterMap Deed.request?).filter Request.writes

/-- Whether the instants that it told of and that are compared are outside leap seconds. -/
def offLeap (e : Deed) : Bool :=
  e.reading?.all (!·.isLeap) && e.loan?.all (!·.dueDate.isLeap)

/-- What was written in the course of deeds and further deeds is what was written in each. -/
theorem writes_append (ds es : List Deed) : writes (ds ++ es) = writes ds ++ writes es := by
  simp only [writes, List.filterMap_append, List.filter_append]

/-- A loan that was read outside leap seconds is due outside them. -/
theorem dueDate_offLeap {e : Deed} {l : Loan} (he : e.loan? = some l) (hoff : e.offLeap = true) :
    l.dueDate.isLeap = false := by
  simp only [offLeap, he, Option.all_some, Bool.and_eq_true, Bool.not_eq_true'] at hoff
  exact hoff.2

end Deed

/-! ## The writes of a result -/

/-- The fine for a return at an instant: there is one for every return after the due date and for no other. -/
inductive Loan.Charged (policy : Policy) (l : Loan) (t : Instant) : List Request → Prop where
  | onTime : t ≤ l.dueDate → Charged policy l t []
  | late {amount : Decimal} : l.dueDate < t → Overdue.charge l.dueDate t policy.dailyFineRate = .ok (some amount) →
    Charged policy l t [.insertFine ⟨l.id, amount, t⟩]

/-- What makes a copy ready to be lent to a user: nothing for a copy on the shelf, and the end of the user's hold for a copy on
reserve. -/
inductive Copy.Released (c : Copy) (userId : Int) (ds : List Deed) : List Request → Prop where
  | shelf : c.status = .available → Released c userId ds []
  | reserve {r : Reservation} {t : Instant} : c.status = .onReserve → r.userId = userId →
    .asked (.pendingReservation c.id) (.ok (some r)) ∈ ds →
    Released c userId ds [.moveReservation r.id .pending .fulfilled t]

theorem Copy.Released.mono {c : Copy} {userId : Int} {ds es : List Deed} {freed : List Request}
    (h : c.Released userId ds freed) (hds : ds ⊆ es) : c.Released userId es freed := by
  cases h with
  | shelf hstatus => exact .shelf hstatus
  | reserve hstatus huser hasked => exact .reserve hstatus huser (hds hasked)

/-- The writes that close a loan and put its copy back on the shelf. -/
def Loan.closing (l : Loan) (c : Copy) (t t' : Instant) : List Request :=
  [ .updateLoan { l with status := .returned, returnDate := some t, updatedAt := t } l.renewCount,
    .insertEntry ⟨l.id, .returned, l.dueDate, none, t⟩,
    .moveCopy c.id .onLoan .available t' ]

/-- The writes of an operation with a result, in order, by what it read in the course of some deeds. -/
inductive Operation.Wrote (policy : Policy) (ds : List Deed) : Operation → List Request → Prop where
  | borrow {copyId userId : Int} {c : Copy} {l : Loan} {t due t' : Instant} {freed : List Request} :
    .asked (.lockCopy copyId) (.ok (some c)) ∈ ds → c.Released userId ds freed →
    .asked (.insertLoan ⟨c.id, c.bookId, userId, t, due⟩) (.ok l) ∈ ds →
    Wrote policy ds (.borrow copyId userId) (freed ++
      [ .insertLoan ⟨c.id, c.bookId, userId, t, due⟩, .insertEntry ⟨l.id, .borrowed, due, none, t⟩,
        .moveCopy c.id c.status .onLoan t' ])
  | returnLoan {loanId copyId : Int} {c : Copy} {l : Loan} {t t' : Instant} {charged : List Request} :
    .asked (.getLoan loanId) (.ok (some l)) ∈ ds → .asked (.lockCopy copyId) (.ok (some c)) ∈ ds → .read t ∈ ds →
    l.Charged policy t charged → Wrote policy ds (.returnLoan loanId) (charged ++ l.closing c t t')
  | returnCopy {copyId : Int} {c : Copy} {l : Loan} {t t' : Instant} {charged : List Request} :
    .asked (.lockCopy copyId) (.ok (some c)) ∈ ds → .asked (.activeLoan c.id) (.ok (some l)) ∈ ds → .read t ∈ ds →
    l.Charged policy t charged → Wrote policy ds (.returnCopy copyId) (charged ++ l.closing c t t')
  | renew {loanId : Int} {l : Loan} {t due : Instant} : .asked (.getLoan loanId) (.ok (some l)) ∈ ds →
    Wrote policy ds (.renew loanId)
      [ .updateLoan { l with dueDate := due, renewCount := l.nextRenewCount, updatedAt := t } l.renewCount,
        .insertEntry ⟨l.id, .renewed, due, some l.dueDate, t⟩ ]
  | reserve {copyId userId : Int} {c : Copy} {t expiry t' : Instant} : .asked (.lockCopy copyId) (.ok (some c)) ∈ ds →
    Wrote policy ds (.reserve copyId userId)
      [.insertReservation ⟨c.id, c.bookId, userId, expiry, t⟩, .moveCopy c.id .available .onReserve t']
  | cancelReservation {reservationId : Int} {r : Reservation} {c : Copy} {t t' : Instant} :
    .asked (.getReservation reservationId) (.ok (some r)) ∈ ds → .asked (.lockCopy r.copyId) (.ok (some c)) ∈ ds →
    Wrote policy ds (.cancelReservation reservationId)
      [.moveReservation r.id .pending .fulfilled t, .moveCopy c.id .onReserve .available t']
  | addCopy {bookId : Int} {t : Instant} : Wrote policy ds (.addCopy bookId) [.insertCopy bookId t]
  | addCopies {bookId count : Int} {t : Instant} :
    Wrote policy ds (.addCopies bookId count) (List.replicate count.toNat (.insertCopy bookId t))
  | removeCopy {copyId : Int} {t : Instant} : Wrote policy ds (.removeCopy copyId) [.withdrawCopy copyId t]
  | settleFine {fineId : Int} {t : Instant} : Wrote policy ds (.settleFine fineId) [.settleFine fineId t]

namespace Procedure

variable {α : Type} {p : Procedure α} {ds : List Deed}

/-- A procedure that only reads writes nothing. -/
theorem writes_of_reads (h : p.KeepsTo Request.Reads) {a : α} (hp : p.Tells ds a) : Deed.writes ds = [] := by
  have hreads := h.request (does_ok_iff.2 hp)
  refine List.filter_eq_nil_iff.2 fun q hq => ?_
  obtain ⟨e, he, heq⟩ := List.mem_filterMap.1 hq
  simp [(hreads e he q heq).1]

end Procedure

open Procedure

section

variable {policy : Policy} {ds : List Deed} {c : Copy} {l : Loan} {r : Reservation}

/-! ## Loans, reservations and fines -/

namespace Lending

/-- A copy is lent at a reading of the clock, with a loan and an entry that say when it is due. -/
theorem lend_tells {userId : Int} (h : (lend policy c userId).Tells ds l) : ∃ t due row,
    ds = [ .read t, .asked (.insertLoan ⟨c.id, c.bookId, userId, t, due⟩) (.ok l),
      .asked (.insertEntry ⟨l.id, .borrowed, due, none, t⟩) (.ok row) ] := by
  simp only [lend, bind_eq, pure_eq] at h
  obtain ⟨_, _, t, rfl, ht, h⟩ := tells_bind.1 h
  obtain ⟨_, _, period, rfl, hperiod, h⟩ := tells_bind.1 h
  obtain ⟨_, _, due, rfl, hdue, h⟩ := tells_bind.1 h
  obtain ⟨_, _, l', rfl, hl, h⟩ := tells_bind.1 h
  obtain ⟨_, _, row, rfl, hrow, rfl, rfl⟩ := tells_bind.1 h
  obtain rfl := tells_now.1 ht
  obtain ⟨rfl, -⟩ := tells_checked.1 hperiod
  obtain ⟨rfl, -⟩ := tells_checked.1 hdue
  obtain rfl := tells_request.1 hl
  obtain rfl := tells_request.1 hrow
  exact ⟨t, due, row, rfl⟩

/-- A loan is written by one update, which has to be done. -/
theorem write_tells {written : Loan} {expected : Int} {u : Unit} (h : (write written expected).Tells ds u) :
    ds = [.asked (.updateLoan written expected) (.ok true)] := by
  obtain ⟨_, rfl, rfl⟩ := tells_written.1 h
  rfl

/-- Outside leap seconds there is something to charge exactly for a return after the due date. -/
theorem charge_tells {t : Instant} {charged : Option Fine} (hd : l.dueDate.isLeap = false) (ht : t.isLeap = false)
    (h : (Charges.charge policy l t).Tells ds charged) : l.Charged policy t (Deed.writes ds) := by
  simp only [Charges.charge, bind_eq, pure_eq] at h
  obtain ⟨_, _, charge, rfl, hchecked, h⟩ := tells_bind.1 h
  obtain ⟨rfl, hcharge⟩ := tells_checked.1 hchecked
  cases charge with
  | none =>
    obtain ⟨rfl, -⟩ := h
    exact .onTime ((Overdue.charge_eq_none_iff hd ht).1 hcharge)
  | some amount =>
    obtain ⟨_, _, row, rfl, hrow, rfl, -⟩ := tells_bind.1 h
    obtain rfl := tells_request.1 hrow
    refine .late (Instant.not_le.1 fun hle => ?_) hcharge
    have hnone : Overdue.charge l.dueDate t policy.dailyFineRate = .ok none := (Overdue.charge_eq_none_iff hd ht).2 hle
    rw [hnone] at hcharge
    cases hcharge

/-- What taking back a loan writes. -/
theorem takeBack_tells {closed : Loan} (hd : l.dueDate.isLeap = false) (hoff : ∀ e ∈ ds, e.offLeap = true)
    (h : (takeBack policy l).Tells ds closed) : ∃ t charged, .read t ∈ ds ∧ l.Charged policy t charged ∧
      Deed.writes ds = charged ++
        [ .updateLoan { l with status := .returned, returnDate := some t, updatedAt := t } l.renewCount,
          .insertEntry ⟨l.id, .returned, l.dueDate, none, t⟩ ] := by
  simp only [takeBack, bind_eq, pure_eq] at h
  obtain ⟨_, _, _, rfl, hborrowed, h⟩ := tells_bind.1 h
  obtain ⟨_, _, t, rfl, ht, h⟩ := tells_bind.1 h
  obtain ⟨es, _, fine, rfl, hfine, h⟩ := tells_bind.1 h
  obtain ⟨_, _, _, rfl, hwrite, h⟩ := tells_bind.1 h
  obtain ⟨_, _, row, rfl, hrow, rfl, -⟩ := tells_bind.1 h
  obtain ⟨rfl, -⟩ := tells_ensure.1 hborrowed
  obtain rfl := tells_now.1 ht
  obtain rfl := write_tells hwrite
  obtain rfl := tells_request.1 hrow
  -- The clock that was read is the instant that the due date is compared with.
  have hleap : t.isLeap = false := by simpa [Deed.offLeap, Deed.reading?, Deed.loan?] using hoff (.read t) (by simp)
  refine ⟨t, Deed.writes es, by simp, charge_tells hd hleap hfine, ?_⟩
  simp only [Deed.writes_append]
  rfl

/-- A renewal writes the loan with a later due date and one renewal more, and an entry of both due dates. -/
theorem renew_tells {renewed : Loan} (h : (renew policy l).Tells ds renewed) : ∃ t due, Deed.writes ds =
    [ .updateLoan { l with dueDate := due, renewCount := l.nextRenewCount, updatedAt := t } l.renewCount,
      .insertEntry ⟨l.id, .renewed, due, some l.dueDate, t⟩ ] := by
  simp only [renew, bind_eq, pure_eq] at h
  obtain ⟨_, _, _, rfl, hborrowed, h⟩ := tells_bind.1 h
  obtain ⟨_, _, _, rfl, hrenewable, h⟩ := tells_bind.1 h
  obtain ⟨_, _, t, rfl, ht, h⟩ := tells_bind.1 h
  obtain ⟨_, _, period, rfl, hperiod, h⟩ := tells_bind.1 h
  obtain ⟨_, _, due, rfl, hdue, h⟩ := tells_bind.1 h
  obtain ⟨_, _, _, rfl, hwrite, h⟩ := tells_bind.1 h
  obtain ⟨_, _, row, rfl, hrow, rfl, -⟩ := tells_bind.1 h
  obtain ⟨rfl, -⟩ := tells_ensure.1 hborrowed
  obtain rfl := tells_now.1 ht
  obtain ⟨rfl, -⟩ := tells_checked.1 hperiod
  obtain ⟨rfl, -⟩ := tells_checked.1 hdue
  obtain rfl := write_tells hwrite
  obtain rfl := tells_request.1 hrow
  refine ⟨t, due, ?_⟩
  have hnothing := writes_of_reads (ensureRenewable_keepsTo policy l) hrenewable
  simp only [Deed.writes_append, hnothing]
  rfl

end Lending

namespace Holds

/-- A reservation is placed at a reading of the clock, with its expiry. -/
theorem place_tells {userId : Int} (h : (place policy c userId).Tells ds r) : ∃ t expiry,
    ds = [.read t, .asked (.insertReservation ⟨c.id, c.bookId, userId, expiry, t⟩) (.ok r)] := by
  simp only [place, bind_eq] at h
  obtain ⟨_, _, t, rfl, ht, h⟩ := tells_bind.1 h
  obtain ⟨_, _, period, rfl, hperiod, h⟩ := tells_bind.1 h
  obtain ⟨_, _, expiry, rfl, hexpiry, hinserted⟩ := tells_bind.1 h
  obtain rfl := tells_now.1 ht
  obtain ⟨rfl, -⟩ := tells_checked.1 hperiod
  obtain ⟨rfl, -⟩ := tells_checked.1 hexpiry
  obtain rfl := tells_request.1 hinserted
  exact ⟨t, expiry, rfl⟩

/-- A hold is fulfilled at a reading of the clock, and must have been pending. -/
theorem fulfil_tells {fulfilled : Reservation} (h : (fulfil r).Tells ds fulfilled) : ∃ t,
    ds = [.read t, .asked (.moveReservation r.id .pending .fulfilled t) (.ok true)] := by
  simp only [fulfil, bind_eq, pure_eq] at h
  obtain ⟨_, _, _, rfl, hpending, h⟩ := tells_bind.1 h
  obtain ⟨_, _, t, rfl, ht, h⟩ := tells_bind.1 h
  rw [← bind_assoc] at h
  obtain ⟨_, _, _, rfl, hmoved, rfl, -⟩ := tells_bind.1 h
  obtain ⟨rfl, -⟩ := tells_ensure.1 hpending
  obtain rfl := tells_now.1 ht
  obtain ⟨_, rfl, rfl⟩ := tells_written.1 hmoved
  exact ⟨t, rfl⟩

end Holds

/-! ## Operations -/

namespace Desk

/-- A copy is moved by one write, from the status that it had. -/
theorem moveCopy_tells {status : CopyStatus} {u : Unit} (h : (moveCopy c status).Tells ds u) : ∃ t,
    Deed.writes ds = [.moveCopy c.id c.status status t] := by
  simp only [moveCopy, bind_eq] at h
  obtain ⟨_, _, t, rfl, ht, hmoved⟩ := tells_bind.1 h
  obtain rfl := tells_now.1 ht
  obtain ⟨_, rfl, rfl⟩ := tells_written.1 hmoved
  exact ⟨t, rfl⟩

/-- A copy that is found on the shelf is there, and nothing was asked for it. -/
theorem ensureAvailable_tells {u : Unit} (h : (ensureAvailable c).Tells ds u) : ds = [] ∧ c.status = .available := by
  unfold ensureAvailable at h
  split at h
  · exact h.elim
  · exact h.elim
  · rename_i hstatus
    exact ⟨h.1, hstatus⟩

/-- A copy that is made ready for a user was on the shelf, or its hold was the user's and is fulfilled. -/
theorem releaseTo_tells {userId : Int} {u : Unit} (h : (releaseTo userId c).Tells ds u) :
    c.Released userId ds (Deed.writes ds) := by
  simp only [releaseTo, bind_eq, pure_eq] at h
  split at h
  · exact h.elim
  · rename_i hstatus
    obtain ⟨_, _, pending, rfl, hasked, h⟩ := tells_bind.1 h
    obtain ⟨_, _, own, rfl, hrequired, h⟩ := tells_bind.1 h
    obtain ⟨_, _, _, rfl, hfulfilled, rfl, -⟩ := tells_bind.1 h
    obtain rfl := tells_request.1 hasked
    obtain ⟨rfl, hown⟩ := tells_require.1 hrequired
    obtain ⟨t, rfl⟩ := Holds.fulfil_tells hfulfilled
    obtain ⟨rfl, huser⟩ := Option.filter_eq_some_iff.1 hown
    exact .reserve hstatus (by simpa using huser) (by simp)
  · rename_i hstatus
    obtain ⟨rfl, -⟩ := h
    exact .shelf hstatus

/-- What closing a loan writes. -/
theorem closeLoan_tells {closed : Loan} (hd : l.dueDate.isLeap = false) (hoff : ∀ e ∈ ds, e.offLeap = true)
    (h : (closeLoan policy c l).Tells ds closed) : ∃ t t' charged, .read t ∈ ds ∧ l.Charged policy t charged ∧
      Deed.writes ds = charged ++ l.closing c t t' := by
  simp only [closeLoan, bind_eq, pure_eq] at h
  obtain ⟨_, _, _, rfl, hout, h⟩ := tells_bind.1 h
  obtain ⟨es, _, _, rfl, hback, h⟩ := tells_bind.1 h
  obtain ⟨_, _, _, rfl, hmoved, rfl, -⟩ := tells_bind.1 h
  obtain ⟨rfl, hstatus⟩ := tells_ensure.1 hout
  obtain ⟨t', hmove⟩ := moveCopy_tells hmoved
  obtain ⟨t, charged, hread, hcharged, hwrites⟩ := Lending.takeBack_tells hd (fun e he => hoff e (by simp [he])) hback
  refine ⟨t, t', charged, by simp [hread], hcharged, ?_⟩
  simp only [Deed.writes_append, hwrites, hmove, of_decide_eq_true hstatus]
  simp only [Deed.writes, Loan.closing, List.filterMap_nil, List.filter_nil, List.nil_append, List.append_nil,
    List.append_assoc, List.cons_append]

/-- A copy that was borrowed has been lent, with what made it ready. -/
theorem borrow_wrote {copyId userId : Int} (h : (borrow policy copyId userId).Tells ds l) :
    Operation.Wrote policy ds (.borrow copyId userId) (Deed.writes ds) := by
  simp only [borrow, bind_eq, pure_eq] at h
  obtain ⟨_, _, c, rfl, hlock, h⟩ := tells_bind.1 h
  obtain ⟨es, _, _, rfl, hlimits, h⟩ := tells_bind.1 h
  obtain ⟨fs, _, _, rfl, hreleased, h⟩ := tells_bind.1 h
  obtain ⟨_, _, _, rfl, hlent, h⟩ := tells_bind.1 h
  obtain ⟨_, _, _, rfl, hmoved, rfl, rfl⟩ := tells_bind.1 h
  obtain rfl := lockCopy_tells.1 hlock
  obtain ⟨t, due, row, rfl⟩ := Lending.lend_tells hlent
  obtain ⟨t', hmove⟩ := moveCopy_tells hmoved
  have hnothing := writes_of_reads (Limits.ensureMayBorrow_keepsTo policy userId c.bookId) hlimits
  simp only [Deed.writes_append, hnothing, hmove]
  exact .borrow (by simp) ((releaseTo_tells hreleased).mono fun e he => by simp [he]) (by simp)

/-- A loan that was locked was read, and then its copy under the lock, with nothing written. -/
theorem lockLoan_tells {loanId : Int} (h : (lockLoan loanId).Tells ds (c, l)) :
    .asked (.getLoan loanId) (.ok (some l)) ∈ ds ∧ (∃ copyId, .asked (.lockCopy copyId) (.ok (some c)) ∈ ds) ∧
      Deed.writes ds = [] := by
  simp only [lockLoan, bind_eq, pure_eq] at h
  obtain ⟨_, _, l₀, rfl, hread, h⟩ := tells_bind.1 h
  obtain ⟨_, _, _, rfl, hlock, h⟩ := tells_bind.1 h
  obtain ⟨_, _, _, rfl, hagain, rfl, heq⟩ := tells_bind.1 h
  cases heq
  obtain rfl := Lending.get_tells.1 hread
  obtain rfl := lockCopy_tells.1 hlock
  obtain rfl := Lending.get_tells.1 hagain
  exact ⟨by simp, ⟨l₀.copyId, by simp⟩, rfl⟩

/-- A loan that was returned has been closed, with the fine for the delay and its copy on the shelf. -/
theorem returnLoan_wrote {loanId : Int} (hoff : ∀ e ∈ ds, e.offLeap = true)
    (h : (returnLoan policy loanId).Tells ds l) : Operation.Wrote policy ds (.returnLoan loanId) (Deed.writes ds) := by
  simp only [returnLoan, bind_eq] at h
  obtain ⟨es, fs, ⟨c, l'⟩, rfl, hlocked, hclosed⟩ := tells_bind.1 h
  obtain ⟨hread, ⟨copyId, hlock⟩, hnothing⟩ := lockLoan_tells hlocked
  have hd : l'.dueDate.isLeap = false := Deed.dueDate_offLeap rfl (hoff _ (List.mem_append_left _ hread))
  obtain ⟨t, t', charged, ht, hcharged, hwrites⟩ :=
    closeLoan_tells hd (fun e he => hoff e (List.mem_append_right _ he)) hclosed
  rw [Deed.writes_append, hnothing, List.nil_append, hwrites]
  exact .returnLoan (List.mem_append_left _ hread) (List.mem_append_left _ hlock) (List.mem_append_right _ ht) hcharged

/-- A copy that was brought back had its loan closed, with the fine for the delay, and is on the shelf. -/
theorem returnCopy_wrote {copyId : Int} (hoff : ∀ e ∈ ds, e.offLeap = true)
    (h : (returnCopy policy copyId).Tells ds l) : Operation.Wrote policy ds (.returnCopy copyId) (Deed.writes ds) := by
  simp only [returnCopy, Lending.active, bind_eq] at h
  obtain ⟨_, _, c, rfl, hlock, h⟩ := tells_bind.1 h
  rw [← bind_assoc] at h
  obtain ⟨_, fs, l', rfl, hread, hclosed⟩ := tells_bind.1 h
  obtain rfl := lockCopy_tells.1 hlock
  obtain ⟨_, rfl, rfl⟩ := tells_found.1 hread
  have hd : l'.dueDate.isLeap = false := Deed.dueDate_offLeap rfl (hoff (.asked (.activeLoan c.id) (.ok (some l'))) (by simp))
  obtain ⟨t, t', charged, ht, hcharged, hwrites⟩ := closeLoan_tells hd (fun e he => hoff e (by simp [he])) hclosed
  simp only [Deed.writes_append, hwrites]
  exact .returnCopy (by simp) (by simp) (by simp [ht]) hcharged

/-- A loan that was renewed has been written with its entry. -/
theorem renew_wrote {loanId : Int} (h : (renew policy loanId).Tells ds l) :
    Operation.Wrote policy ds (.renew loanId) (Deed.writes ds) := by
  simp only [renew, bind_eq] at h
  obtain ⟨es, _, ⟨c, l'⟩, rfl, hlocked, h⟩ := tells_bind.1 h
  obtain ⟨_, fs, _, rfl, hout, hrenewed⟩ := tells_bind.1 h
  obtain ⟨hread, -, hnothing⟩ := lockLoan_tells hlocked
  obtain ⟨rfl, -⟩ := tells_ensure.1 hout
  obtain ⟨t, due, hwrites⟩ := Lending.renew_tells hrenewed
  rw [Deed.writes_append, hnothing, List.nil_append, List.nil_append, hwrites]
  exact .renew (List.mem_append_left _ hread)

/-- A copy that was reserved has a pending hold, and is on reserve. -/
theorem reserve_wrote {copyId userId : Int} (h : (reserve policy copyId userId).Tells ds r) :
    Operation.Wrote policy ds (.reserve copyId userId) (Deed.writes ds) := by
  simp only [reserve, bind_eq, pure_eq] at h
  obtain ⟨_, _, c, rfl, hlock, h⟩ := tells_bind.1 h
  obtain ⟨_, _, _, rfl, havailable, h⟩ := tells_bind.1 h
  obtain ⟨es, _, _, rfl, hlimits, h⟩ := tells_bind.1 h
  obtain ⟨_, _, _, rfl, hplaced, h⟩ := tells_bind.1 h
  obtain ⟨_, _, _, rfl, hmoved, rfl, rfl⟩ := tells_bind.1 h
  obtain rfl := lockCopy_tells.1 hlock
  obtain ⟨rfl, hstatus⟩ := ensureAvailable_tells havailable
  obtain ⟨t, expiry, rfl⟩ := Holds.place_tells hplaced
  obtain ⟨t', hmove⟩ := moveCopy_tells hmoved
  have hnothing := writes_of_reads (Limits.ensureMayReserve_keepsTo policy userId c.bookId) hlimits
  simp only [Deed.writes_append, hnothing, hmove, hstatus]
  exact .reserve (by simp)

/-- A reservation that was cancelled is fulfilled, and its copy on the shelf. -/
theorem cancelReservation_wrote {reservationId : Int} (h : (cancelReservation reservationId).Tells ds r) :
    Operation.Wrote policy ds (.cancelReservation reservationId) (Deed.writes ds) := by
  simp only [cancelReservation, bind_eq, pure_eq] at h
  obtain ⟨_, _, r', rfl, hread, h⟩ := tells_bind.1 h
  obtain ⟨_, _, c, rfl, hlock, h⟩ := tells_bind.1 h
  obtain ⟨_, _, _, rfl, hheld, h⟩ := tells_bind.1 h
  obtain ⟨_, _, _, rfl, hfulfilled, h⟩ := tells_bind.1 h
  obtain ⟨_, _, _, rfl, hmoved, rfl, -⟩ := tells_bind.1 h
  obtain rfl := Holds.get_tells.1 hread
  obtain rfl := lockCopy_tells.1 hlock
  obtain ⟨rfl, hstatus⟩ := tells_ensure.1 hheld
  obtain ⟨t, rfl⟩ := Holds.fulfil_tells hfulfilled
  obtain ⟨t', hmove⟩ := moveCopy_tells hmoved
  simp only [Deed.writes_append, hmove, of_decide_eq_true hstatus]
  exact .cancelReservation (by simp) (by simp)

/-- A title is looked up by reading only. -/
theorem ensureBook_keepsTo (bookId : Int) : (ensureBook bookId).KeepsTo Request.Reads := by
  simp only [ensureBook, bind_eq]
  exact keepsTo_bind (keepsTo_request ⟨rfl, rfl⟩ fun _ => rfl) fun _ => keepsTo_ensure _ _

/-- Adding a copy goes on only while its requests are done. -/
theorem addCopy_keepsTo (bookId : Int) : (addCopy bookId).KeepsTo fun _ => True := by
  simp only [addCopy, bind_eq]
  refine keepsTo_bind ((ensureBook_keepsTo bookId).mono fun _ _ => trivial) fun _ => keepsTo_bind keepsTo_now fun t => ?_
  exact keepsTo_request trivial fun _ => rfl

/-- Inserting copies goes on only while its requests are done. -/
theorem insertCopies_keepsTo (bookId : Int) (t : Instant) (n : Nat) :
    (insertCopies bookId t n).KeepsTo fun _ => True := by
  induction n with
  | zero => trivial
  | succ n ih =>
    simp only [insertCopies, bind_eq, pure_eq]
    exact keepsTo_bind (keepsTo_request trivial fun _ => rfl) fun c => keepsTo_bind ih fun _ => trivial

/-- Adding copies goes on only while its requests are done. -/
theorem addCopies_keepsTo (bookId count : Int) : (addCopies bookId count).KeepsTo fun _ => True := by
  simp only [addCopies, bind_eq]
  refine keepsTo_bind (keepsTo_ensure _ _) fun _ => ?_
  refine keepsTo_bind ((ensureBook_keepsTo bookId).mono fun _ _ => trivial) fun _ => keepsTo_bind keepsTo_now fun t => ?_
  exact insertCopies_keepsTo bookId t count.toNat

/-- Settling a fine goes on only while its requests are done. -/
theorem settleFine_keepsTo (fineId : Int) : (settleFine fineId).KeepsTo fun _ => True := by
  simp only [settleFine, Charges.settle, bind_eq, pure_eq]
  refine keepsTo_bind (keepsTo_found trivial fun _ => rfl) fun f => keepsTo_bind (keepsTo_ensure _ _) fun _ => ?_
  refine keepsTo_bind keepsTo_now fun t => ?_
  rw [← bind_assoc]
  exact keepsTo_bind (keepsTo_written trivial fun _ hnot => hnot) fun _ => trivial

/-- A copy that was added has been inserted. -/
theorem addCopy_wrote {bookId : Int} (h : (addCopy bookId).Tells ds c) :
    Operation.Wrote policy ds (.addCopy bookId) (Deed.writes ds) := by
  simp only [addCopy, bind_eq] at h
  obtain ⟨es, _, _, rfl, hbook, h⟩ := tells_bind.1 h
  obtain ⟨_, _, t, rfl, ht, hinserted⟩ := tells_bind.1 h
  obtain rfl := tells_now.1 ht
  obtain rfl := tells_request.1 hinserted
  have hnothing := writes_of_reads (ensureBook_keepsTo bookId) hbook
  simp only [Deed.writes_append, hnothing]
  exact .addCopy

/-- Copies are inserted one after the other. -/
theorem insertCopies_tells {bookId : Int} {t : Instant} {n : Nat} {cs : List Copy}
    (h : (insertCopies bookId t n).Tells ds cs) : Deed.writes ds = List.replicate n (.insertCopy bookId t) := by
  induction n generalizing ds cs with
  | zero =>
    obtain ⟨rfl, -⟩ := h
    rfl
  | succ n ih =>
    simp only [insertCopies, bind_eq, pure_eq] at h
    obtain ⟨_, _, row, rfl, hinserted, h⟩ := tells_bind.1 h
    obtain ⟨fs, _, _, rfl, hrest, rfl, -⟩ := tells_bind.1 h
    obtain rfl := tells_request.1 hinserted
    simp only [Deed.writes_append, ih hrest]
    exact congrArg (_ :: ·) (List.append_nil _)

/-- Copies that were added have been inserted, as many as there are. -/
theorem addCopies_wrote {bookId count : Int} {cs : List Copy} (h : (addCopies bookId count).Tells ds cs) :
    Operation.Wrote policy ds (.addCopies bookId count) (Deed.writes ds) := by
  simp only [addCopies, bind_eq] at h
  obtain ⟨_, _, _, rfl, hcount, h⟩ := tells_bind.1 h
  obtain ⟨es, _, _, rfl, hbook, h⟩ := tells_bind.1 h
  obtain ⟨_, fs, t, rfl, ht, hinserted⟩ := tells_bind.1 h
  obtain ⟨rfl, -⟩ := tells_ensure.1 hcount
  obtain rfl := tells_now.1 ht
  have hnothing := writes_of_reads (ensureBook_keepsTo bookId) hbook
  simp only [Deed.writes_append, hnothing, insertCopies_tells hinserted]
  exact .addCopies

/-- A copy that was removed has been withdrawn. -/
theorem removeCopy_wrote {copyId : Int} (h : (removeCopy copyId).Tells ds c) :
    Operation.Wrote policy ds (.removeCopy copyId) (Deed.writes ds) := by
  simp only [removeCopy, bind_eq, pure_eq] at h
  obtain ⟨_, _, c, rfl, hlock, h⟩ := tells_bind.1 h
  obtain ⟨_, _, _, rfl, havailable, h⟩ := tells_bind.1 h
  obtain ⟨_, _, t, rfl, ht, h⟩ := tells_bind.1 h
  rw [← bind_assoc] at h
  obtain ⟨_, _, _, rfl, hwithdrawn, rfl, -⟩ := tells_bind.1 h
  obtain rfl := lockCopy_tells.1 hlock
  obtain ⟨rfl, -⟩ := ensureAvailable_tells havailable
  obtain rfl := tells_now.1 ht
  obtain ⟨_, rfl, -⟩ := tells_written.1 hwithdrawn
  exact .removeCopy

/-- A fine that was settled has been marked so. -/
theorem settleFine_wrote {fineId : Int} {f : Fine} (h : (settleFine fineId).Tells ds f) :
    Operation.Wrote policy ds (.settleFine fineId) (Deed.writes ds) := by
  simp only [settleFine, Charges.settle, bind_eq, pure_eq] at h
  obtain ⟨_, _, row, rfl, hread, h⟩ := tells_bind.1 h
  obtain ⟨_, _, _, rfl, houtstanding, h⟩ := tells_bind.1 h
  obtain ⟨_, _, t, rfl, ht, h⟩ := tells_bind.1 h
  rw [← bind_assoc] at h
  obtain ⟨_, _, _, rfl, hsettled, rfl, -⟩ := tells_bind.1 h
  obtain rfl := Charges.get_tells.1 hread
  obtain ⟨rfl, -⟩ := tells_ensure.1 houtstanding
  obtain rfl := tells_now.1 ht
  obtain ⟨_, rfl, -⟩ := tells_written.1 hsettled
  exact .settleFine

end Desk

end

namespace Operation

variable {policy : Policy}

/-- The writes of an operation that ended with a result. -/
theorem carryOut_wrote {o : Operation} {ds : List Deed} {a : Outcome} (hoff : ∀ e ∈ ds, e.offLeap = true)
    (h : (o.carryOut policy).Tells ds a) : o.Wrote policy ds (Deed.writes ds) := by
  cases o with
  | borrow copyId userId =>
    obtain ⟨l, hl, -⟩ := tells_bind_done.1 h
    exact Desk.borrow_wrote hl
  | returnLoan loanId =>
    obtain ⟨l, hl, -⟩ := tells_bind_done.1 h
    exact Desk.returnLoan_wrote hoff hl
  | returnCopy copyId =>
    obtain ⟨l, hl, -⟩ := tells_bind_done.1 h
    exact Desk.returnCopy_wrote hoff hl
  | renew loanId =>
    obtain ⟨l, hl, -⟩ := tells_bind_done.1 h
    exact Desk.renew_wrote hl
  | reserve copyId userId =>
    obtain ⟨r, hr, -⟩ := tells_bind_done.1 h
    exact Desk.reserve_wrote hr
  | cancelReservation reservationId =>
    obtain ⟨r, hr, -⟩ := tells_bind_done.1 h
    exact Desk.cancelReservation_wrote hr
  | addCopy bookId =>
    obtain ⟨c, hc, -⟩ := tells_bind_done.1 h
    exact Desk.addCopy_wrote hc
  | addCopies bookId count =>
    obtain ⟨cs, hcs, -⟩ := tells_bind_done.1 h
    exact Desk.addCopies_wrote hcs
  | removeCopy copyId =>
    obtain ⟨c, hc, -⟩ := tells_bind_done.1 h
    exact Desk.removeCopy_wrote hc
  | settleFine fineId =>
    obtain ⟨f, hf, -⟩ := tells_bind_done.1 h
    exact Desk.settleFine_wrote hf

/-- Every operation refuses to go on where a write was not done. -/
theorem carryOut_keepsTo (policy : Policy) (o : Operation) : (o.carryOut policy).KeepsTo fun _ => True := by
  cases o with
  | addCopy bookId => exact keepsTo_bind (Desk.addCopy_keepsTo bookId) fun _ => trivial
  | addCopies bookId count => exact keepsTo_bind (Desk.addCopies_keepsTo bookId count) fun _ => trivial
  | settleFine fineId => exact keepsTo_bind (Desk.settleFine_keepsTo fineId) fun _ => trivial
  | _ => exact (carryOut_locksFirst policy rfl).keepsTo

end Operation

/-- An operation that ends with a result was answered to every request that it was done, and its writes are those of its kind.
An error, or the answer that a write was not done, is the last that happens, and the operation ends with that error or with a
refusal. -/
theorem result_means_written {σ : Type} (policy : Policy) (o : Operation) {store : Store σ} {s s' : σ}
    {r : Except Stop Outcome} {ds : List Deed} (hrun : (o.carryOut policy).run store.noting (s, []) = (r, s', ds)) :
    (∀ a, r = .ok a →
      (∀ q b, .asked q b ∈ ds → ∃ answer, b = .ok answer ∧ q.accepted answer = true) ∧
        ((∀ e ∈ ds, e.offLeap = true) → o.Wrote policy ds (Deed.writes ds))) ∧
    ∀ before q b after, ds = before ++ .asked q b :: after →
      (∀ why, b = .error why → after = [] ∧ r = .error why) ∧
        ∀ answer, b = .ok answer → q.accepted answer = false → after = [] ∧ ∃ why, r = .error (.refused why) := by
  obtain ⟨ds, rfl, hdoes⟩ := Procedure.does_of_run hrun
  have hkeeps := o.carryOut_keepsTo policy
  constructor
  · rintro a rfl
    exact ⟨fun q b hq => hkeeps.accepted hdoes hq, fun hoff => Operation.carryOut_wrote hoff (does_ok_iff.1 hdoes)⟩
  · intro before q b after hds
    exact hkeeps.last hdoes hds

/-- The copy that comes back a second late: it ends with the loan, which is charged for and closed, and the copy is put back. -/
theorem bringingBack_wrote : bringingBack.1.toOption = some (.loan backLate) ∧ Deed.writes bringingBack.2.2 =
    [ .insertFine ⟨4, Policy.usualFineRate, secondLater⟩, .updateLoan backLate 0,
      .insertEntry ⟨4, .returned, .epoch, none, secondLater⟩, .moveCopy 3 .onLoan .available secondLater ] ∧
    (Operation.returnCopy 3).Wrote {} bringingBack.2.2 (Deed.writes bringingBack.2.2) := by
  have hoff : ∀ e ∈ bringingBack.2.2, e.offLeap = true := by decide +kernel
  have hwritten := @result_means_written _ {} (.returnCopy 3) (Work.store fun _ => secondLater) outAtOnce _ _ _ rfl
  exact ⟨by decide +kernel, by decide +kernel, (hwritten.1 (.loan backLate) rfl).2 hoff⟩

end Circulation
