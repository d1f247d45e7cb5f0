import Circulation.Proofs.Conduct

/-!
# Writing under a lock

The operations on a copy lock it before they write. Main statement: whatever the store answers, each write comes after one
request for a lock and no other, which was answered with a copy, and it suits that copy: it names the copy and expects the status
it was found in, and a loan that is written is one that was read since, as a return or a renewal changes it
(`written_under_lock`).
-/

namespace Circulation

/-- Whether a loan is another with what a return or a renewal changes of it. -/
def Loan.Updated (l written : Loan) : Prop :=
  (∃ t, written = { l with status := .returned, returnDate := some t, updatedAt := t }) ∨
    ∃ due t, written = { l with dueDate := due, renewCount := l.nextRenewCount, updatedAt := t }

/-- Whether a request suits a copy, whose lock was asked for by id and answered with a row, and the loans that were read since:
what it writes of copies, loans and reservations is of that copy and starts from what was found. No other lock is asked for,
no copy is added and no fine is settled. -/
def Request.Suits (locked : Int) (c : Copy) (loans : List Loan) : Request → Prop
  | .lockCopy _ => False
  | .insertCopy _ _ => False
  | .settleFine _ _ => False
  | .moveCopy id expected _ _ => id = c.id ∧ expected = c.status
  | .withdrawCopy id _ => id = locked
  | .insertLoan loan => loan.copyId = c.id ∧ loan.bookId = c.bookId
  | .updateLoan written expected => ∃ l ∈ loans, l.Updated written ∧ expected = l.renewCount
  | .insertReservation reservation => reservation.copyId = c.id ∧ reservation.bookId = c.bookId
  | _ => True

/-- Whether a request only reads, and takes no lock. -/
def Request.Reads (q : Request) : Prop :=
  q.writes = false ∧ q.locks = false

namespace Deed

/-- Whether it was a request for a lock, however it was answered. -/
def asksLock (e : Deed) : Bool :=
  e.request?.any Request.locks

/-- The loans that were read. -/
def loans (ds : List Deed) : List Loan :=
  ds.filterMap Deed.loan?

/-- Whether a row that was answered to a request for an id carries that id. -/
def named : Deed → Bool
  | .asked (.getBook id) (.ok (some book)) => book.id = id
  | .asked (.getUser id) (.ok (some user)) => user.id = id
  | .asked (.getCopy id) (.ok (some copy)) => copy.id = id
  | .asked (.lockCopy id) (.ok (some copy)) => copy.id = id
  | .asked (.getLoan id) (.ok (some loan)) => loan.id = id
  | .asked (.getReservation id) (.ok (some reservation)) => reservation.id = id
  | .asked (.getFine id) (.ok (some fine)) => fine.id = id
  | _ => true

/-- Whether every write among some deeds is in order after those before it. -/
def EveryWrite (P : List Deed → Request → Prop) (ds : List Deed) : Prop :=
  ∀ before q a after, ds = before ++ .asked q a :: after → q.writes = true → P before q

variable {P P' : List Deed → Request → Prop} {es fs : List Deed}

/-- Deeds that follow on some that do not write. -/
theorem EveryWrite.append (hfs : EveryWrite P' fs) (hes : ∀ e ∈ es, ∀ q ∈ e.request?, q.writes = false)
    (h : ∀ since q, since ⊆ fs → P' since q → P (es ++ since) q) : EveryWrite P (es ++ fs) := by
  intro before q a after hds hq
  rcases List.append_eq_append_iff.1 hds with ⟨since, rfl, hsince⟩ | ⟨rest, rfl, hrest⟩
  · exact h since q (hsince ▸ List.subset_append_left _ _) (hfs since q a after hsince hq)
  · cases rest with
    | nil =>
      rw [List.append_nil] at h
      exact List.append_nil before ▸ h [] q (List.nil_subset _) (hfs [] q a after hrest.symm hq)
    | cons e rest =>
      cases hrest
      have := hes (.asked q a) (by simp) q rfl
      rw [hq] at this
      nomatch this

/-- Deeds without a write have every write in order. -/
theorem everyWrite_of_none (h : ∀ e ∈ fs, ∀ q ∈ e.request?, q.writes = false) : EveryWrite P fs := by
  rintro before q a after rfl hq
  have := h (.asked q a) (by simp) q rfl
  rw [hq] at this
  nomatch this

end Deed

/-- Whether a request may come after some deeds: they asked for one lock and no other, it was answered with the copy of that id,
and the request suits the copy and the loans that were read since. -/
def Request.Guarded (q : Request) (ds : List Deed) : Prop :=
  ∃ before id c since, ds = before ++ .asked (.lockCopy id) (.ok (some c)) :: since ∧ c.id = id ∧
    (∀ e ∈ before ++ since, e.asksLock = false) ∧ q.Suits id c (Deed.loans since)

namespace Request

variable {q : Request} {locked : Int} {c : Copy} {loans loans' : List Loan}

theorem Suits.mono (h : q.Suits locked c loans) (hl : loans ⊆ loans') : q.Suits locked c loans' := by
  cases q with
  | updateLoan written expected =>
    obtain ⟨l, hmem, h⟩ := h
    exact ⟨l, hl hmem, h⟩
  | _ => exact h

/-- A request that suits a locked copy asks for no other lock. -/
theorem Suits.locks (h : q.Suits locked c loans) : q.locks = false := by
  cases q with
  | lockCopy id => exact h.elim
  | _ => rfl

/-- What only reads suits every copy. -/
theorem Reads.suits (h : q.Reads) : q.Suits locked c loans := by
  obtain ⟨hwrites, hlocks⟩ := h
  cases q with
  | lockCopy => nomatch hlocks
  | insertCopy | settleFine | moveCopy | withdrawCopy | insertLoan | updateLoan | insertReservation => nomatch hwrites
  | _ => trivial

end Request

namespace Procedure

variable {α β : Type} {p : Procedure α} {c : Copy} {id : Int} {ds : List Deed} {r : Except Stop α}

/-- A procedure that puts no request for a lock asks for none. -/
theorem asksLock_of_keepsTo {R : Request → Prop} (h : p.KeepsTo R) (hR : ∀ q, R q → q.locks = false) (hp : p.Does ds r) :
    ∀ e ∈ ds, e.asksLock = false := by
  intro e he
  have := h.request hp e he
  cases e with
  | asked q a => exact hR q (this q rfl)
  | _ => rfl

/-- Locking a copy puts one request. -/
theorem lockCopy_keepsTo {R : Request → Prop} (h : R (.lockCopy id)) : (Desk.lockCopy id).KeepsTo R :=
  keepsTo_found h fun _ => rfl

/-- What may follow on the lock of a copy: requests that suit the copy, or, once a loan was read, the copy and the loan. -/
inductive UnderLock (id : Int) (c : Copy) : {α : Type} → Procedure α → Prop where
  | keeping {α : Type} {p : Procedure α} : p.KeepsTo (Request.Suits id c []) → UnderLock id c p
  | reading {α : Type} {p : Procedure Loan} {f : Loan → Procedure α} : p.KeepsTo Request.Reads →
    (∀ ds l, p.Tells ds l → l ∈ Deed.loans ds) → (∀ l, (f l).KeepsTo (Request.Suits id c [l])) → UnderLock id c (p.bind f)

/-- The order of an operation: it may read, then it locks a copy, and then it does what may follow on the lock. -/
inductive LocksFirst : {α : Type} → Procedure α → Prop where
  | lock {α : Type} {id : Int} {rest : Copy → Procedure α} : (∀ c, (rest c).UnderLock id c) →
    LocksFirst ((Desk.lockCopy id).bind rest)
  | reading {α β : Type} {p : Procedure α} {f : α → Procedure β} : p.KeepsTo Request.Reads → (∀ a, (f a).LocksFirst) →
    LocksFirst (p.bind f)

/-- What follows on a lock goes on only while its requests are done. -/
theorem UnderLock.keepsTo (h : p.UnderLock id c) : p.KeepsTo fun _ => True := by
  cases h with
  | keeping h => exact h.mono fun _ _ => trivial
  | reading hp _ hf => exact keepsTo_bind (hp.mono fun _ _ => trivial) fun l => (hf l).mono fun _ _ => trivial

/-- An operation that locks first goes on only while its requests are done. -/
theorem LocksFirst.keepsTo (h : p.LocksFirst) : p.KeepsTo fun _ => True := by
  induction h with
  | lock hrest => exact keepsTo_bind (lockCopy_keepsTo trivial) fun c => (hrest c).keepsTo
  | reading hp _ ih => exact keepsTo_bind (hp.mono fun _ _ => trivial) ih

/-- Under the lock no other lock is asked for, and every write suits the copy and the loans that were read. -/
theorem UnderLock.suits (h : p.UnderLock id c) (hp : p.Does ds r) :
    (∀ e ∈ ds, e.asksLock = false) ∧ Deed.EveryWrite (fun since q => q.Suits id c (Deed.loans since)) ds := by
  cases h with
  | keeping h =>
    refine ⟨asksLock_of_keepsTo h (fun q hq => hq.locks) hp, ?_⟩
    rintro before q a after rfl -
    exact (h.request hp (.asked q a) (by simp) q rfl).mono (List.nil_subset _)
  | @reading _ f hread hl hf =>
    rcases hp.of_bind with ⟨es, fs, l, rfl, hes, hfs⟩ | ⟨why, hes⟩
    · constructor
      · intro e he
        rcases List.mem_append.1 he with he | he
        · exact asksLock_of_keepsTo hread (fun q hq => hq.2) hes e he
        · exact asksLock_of_keepsTo (hf l) (fun q hq => hq.locks) hfs e he
      · have hwrites : Deed.EveryWrite (fun _ q => q.Suits id c [l]) fs := by
          rintro before q a after rfl -
          exact (hf l).request hfs (.asked q a) (by simp) q rfl
        refine hwrites.append (fun e he q hq => (hread.request hes e he q hq).1) fun since q _ hq => hq.mono ?_
        intro l' hl'
        obtain rfl := List.mem_singleton.1 hl'
        rw [Deed.loans, List.filterMap_append]
        exact List.mem_append_left _ (hl es l' (does_ok_iff.1 hes))
    · exact ⟨asksLock_of_keepsTo hread (fun q hq => hq.2) hes,
        Deed.everyWrite_of_none fun e he q hq => (hread.request hes e he q hq).1⟩

/-- Every write of an operation that locks first is guarded, on stores that answer the copy they were asked for. -/
theorem LocksFirst.guarded (h : p.LocksFirst) (hp : p.Does ds r) (hnamed : ∀ e ∈ ds, e.named = true) :
    Deed.EveryWrite (fun before q => q.Guarded before) ds := by
  induction h generalizing ds with
  | @lock _ id rest hrest =>
    rcases hp.of_bind with ⟨es, fs, c, rfl, hes, hfs⟩ | ⟨why, hes⟩
    · obtain rfl := Desk.lockCopy_tells.1 (does_ok_iff.1 hes)
      have hid : c.id = id := of_decide_eq_true (hnamed (.asked (.lockCopy id) (.ok (some c))) (by simp))
      obtain ⟨hnolock, hwrites⟩ := (hrest c).suits hfs
      refine hwrites.append ?_ ?_
      · rintro e he q hq
        obtain rfl := List.mem_singleton.1 he
        cases hq
        rfl
      · intro since q hsince hsuits
        exact ⟨[], id, c, since, rfl, hid, fun e he => hnolock e (hsince he), hsuits⟩
    · -- Without the copy the operation stops, and nothing was written.
      have hlock : (Desk.lockCopy id).KeepsTo (·.writes = false) := lockCopy_keepsTo rfl
      exact Deed.everyWrite_of_none (hlock.request hes)
  | reading hread _ ih =>
    rcases hp.of_bind with ⟨es, fs, a, rfl, hes, hfs⟩ | ⟨why, hes⟩
    · -- What is read first comes before the lock, and asks for none.
      refine (ih a hfs fun e he => hnamed e (List.mem_append_right _ he)).append
        (fun e he q hq => (hread.request hes e he q hq).1) ?_
      rintro _ q - ⟨before, id, c, since, rfl, hid, hnolock, hsuits⟩
      refine ⟨es ++ before, id, c, since, (List.append_assoc ..).symm, hid, ?_, hsuits⟩
      intro e he
      rw [List.append_assoc] at he
      rcases List.mem_append.1 he with he | he
      · exact asksLock_of_keepsTo hread (fun q hq => hq.2) hes e he
      · exact hnolock e he
    · exact Deed.everyWrite_of_none fun e he q hq => (hread.request hes e he q hq).1

end Procedure

open Procedure

section

variable {locked : Int} {c : Copy} {loans : List Loan}

/-! ## Loans, reservations and limits -/

namespace Lending

/-- Getting a loan only reads. -/
theorem get_keepsTo (id : Int) : (get id).KeepsTo Request.Reads :=
  keepsTo_found ⟨rfl, rfl⟩ fun _ => rfl

/-- What lending writes is of the copy locked. -/
theorem lend_keepsTo (policy : Policy) (userId : Int) : (lend policy c userId).KeepsTo (Request.Suits locked c loans) := by
  simp only [lend, bind_eq, pure_eq]
  refine keepsTo_bind keepsTo_now fun t => keepsTo_bind (keepsTo_checked _) fun period => ?_
  refine keepsTo_bind (keepsTo_checked _) fun due => keepsTo_bind (keepsTo_request ⟨rfl, rfl⟩ fun _ => rfl) fun l => ?_
  exact keepsTo_bind (keepsTo_request trivial fun _ => rfl) fun _ => trivial

/-- What is written of a loan is of the loan read. -/
theorem write_keepsTo {l written : Loan} (h : l.Updated written) :
    (write written l.renewCount).KeepsTo (Request.Suits locked c [l]) :=
  keepsTo_written ⟨l, List.mem_singleton_self l, h, rfl⟩ fun _ => id

/-- A charge is of the copy locked, and locks no other. -/
theorem charge_keepsTo (policy : Policy) (l : Loan) (t : Instant) :
    (Charges.charge policy l t).KeepsTo (Request.Suits locked c loans) := by
  simp only [Charges.charge, bind_eq, pure_eq]
  refine keepsTo_bind (keepsTo_checked _) fun charge => ?_
  cases charge with
  | none => trivial
  | some amount => exact keepsTo_bind (keepsTo_request trivial fun _ => rfl) fun _ => trivial

/-- What taking a loan back writes is of the loan read. -/
theorem takeBack_keepsTo (policy : Policy) (l : Loan) : (takeBack policy l).KeepsTo (Request.Suits locked c [l]) := by
  simp only [takeBack, bind_eq, pure_eq]
  refine keepsTo_bind (keepsTo_ensure _ _) fun _ => keepsTo_bind keepsTo_now fun t => ?_
  refine keepsTo_bind (charge_keepsTo policy l t) fun _ => keepsTo_bind (write_keepsTo (.inl ⟨t, rfl⟩)) fun _ => ?_
  exact keepsTo_bind (keepsTo_request trivial fun _ => rfl) fun _ => trivial

/-- Whether a loan may be renewed is told without a request. -/
theorem ensureRenewable_keepsTo {R : Request → Prop} (policy : Policy) (l : Loan) :
    (ensureRenewable policy l).KeepsTo R := by
  unfold ensureRenewable
  split
  · trivial
  · exact keepsTo_ensure _ _

/-- What a renewal writes is of the loan read. -/
theorem renew_keepsTo (policy : Policy) (l : Loan) : (renew policy l).KeepsTo (Request.Suits locked c [l]) := by
  simp only [renew, bind_eq, pure_eq]
  refine keepsTo_bind (keepsTo_ensure _ _) fun _ => keepsTo_bind (ensureRenewable_keepsTo policy l) fun _ => ?_
  refine keepsTo_bind keepsTo_now fun t => keepsTo_bind (keepsTo_checked _) fun period => ?_
  refine keepsTo_bind (keepsTo_checked _) fun due => keepsTo_bind (write_keepsTo (.inr ⟨due, t, rfl⟩)) fun _ => ?_
  exact keepsTo_bind (keepsTo_request trivial fun _ => rfl) fun _ => trivial

end Lending

namespace Holds

/-- A reservation is placed on the copy locked. -/
theorem place_keepsTo (policy : Policy) (userId : Int) : (place policy c userId).KeepsTo (Request.Suits locked c loans) := by
  simp only [place, bind_eq]
  refine keepsTo_bind keepsTo_now fun t => keepsTo_bind (keepsTo_checked _) fun period => ?_
  exact keepsTo_bind (keepsTo_checked _) fun expiry => keepsTo_request ⟨rfl, rfl⟩ fun _ => rfl

/-- The reservation that is fulfilled is of the copy locked. -/
theorem fulfil_keepsTo (r : Reservation) : (fulfil r).KeepsTo (Request.Suits locked c loans) := by
  simp only [fulfil, bind_eq, pure_eq]
  refine keepsTo_bind (keepsTo_ensure _ _) fun _ => keepsTo_bind keepsTo_now fun t => ?_
  rw [← bind_assoc]
  exact keepsTo_bind (keepsTo_written trivial fun _ => id) fun _ => trivial

end Holds

namespace Limits

/-- Whether a user has a loan on a title is only read. -/
theorem hasLoanOnTitle_keepsTo (userId bookId : Int) : (hasLoanOnTitle userId bookId).KeepsTo Request.Reads :=
  keepsTo_bind (keepsTo_request ⟨rfl, rfl⟩ fun _ => rfl) fun _ => trivial

/-- Whether a user has a reservation on a title is only read. -/
theorem hasReservationOnTitle_keepsTo (userId bookId : Int) :
    (hasReservationOnTitle userId bookId).KeepsTo Request.Reads :=
  keepsTo_bind (keepsTo_request ⟨rfl, rfl⟩ fun _ => rfl) fun _ => trivial

/-- Whether a user may borrow is only read. -/
theorem ensureMayBorrow_keepsTo (policy : Policy) (userId bookId : Int) :
    (ensureMayBorrow policy userId bookId).KeepsTo Request.Reads := by
  simp only [ensureMayBorrow, bind_eq]
  refine keepsTo_bind (keepsTo_request ⟨rfl, rfl⟩ fun _ => rfl) fun count => keepsTo_bind (keepsTo_ensure _ _) fun _ => ?_
  exact keepsTo_bind (hasLoanOnTitle_keepsTo userId bookId) fun _ => keepsTo_ensure _ _

/-- Whether a user may reserve is only read. -/
theorem ensureMayReserve_keepsTo (policy : Policy) (userId bookId : Int) :
    (ensureMayReserve policy userId bookId).KeepsTo Request.Reads := by
  simp only [ensureMayReserve, bind_eq]
  refine keepsTo_bind (keepsTo_request ⟨rfl, rfl⟩ fun _ => rfl) fun count => keepsTo_bind (keepsTo_ensure _ _) fun _ => ?_
  refine keepsTo_bind (hasLoanOnTitle_keepsTo userId bookId) fun _ => keepsTo_bind (keepsTo_ensure _ _) fun _ => ?_
  exact keepsTo_bind (hasReservationOnTitle_keepsTo userId bookId) fun _ => keepsTo_ensure _ _

end Limits

/-! ## Operations -/

namespace Desk

/-- The copy that is moved is the one locked. -/
theorem moveCopy_keepsTo (status : CopyStatus) : (moveCopy c status).KeepsTo (Request.Suits locked c loans) := by
  simp only [moveCopy, bind_eq]
  exact keepsTo_bind keepsTo_now fun t => keepsTo_written ⟨rfl, rfl⟩ fun _ => id

/-- Whether a copy is on the shelf is told without a request. -/
theorem ensureAvailable_keepsTo : (ensureAvailable c).KeepsTo (Request.Suits locked c loans) := by
  unfold ensureAvailable
  split
  · trivial
  · trivial
  · trivial

/-- Making a copy ready writes of the copy locked. -/
theorem releaseTo_keepsTo (userId : Int) : (releaseTo userId c).KeepsTo (Request.Suits locked c loans) := by
  simp only [releaseTo, bind_eq, pure_eq]
  split
  · trivial
  · refine keepsTo_bind (keepsTo_request trivial fun _ => rfl) fun pending => keepsTo_bind (keepsTo_require _ _) fun own => ?_
    exact keepsTo_bind (Holds.fulfil_keepsTo own) fun _ => trivial
  · trivial

/-- Closing a loan writes of the copy locked and of the loan read. -/
theorem closeLoan_keepsTo (policy : Policy) (l : Loan) : (closeLoan policy c l).KeepsTo (Request.Suits locked c [l]) := by
  simp only [closeLoan, bind_eq, pure_eq]
  refine keepsTo_bind (keepsTo_ensure _ _) fun _ => keepsTo_bind (Lending.takeBack_keepsTo policy l) fun _ => ?_
  exact keepsTo_bind (moveCopy_keepsTo _) fun _ => trivial

/-- Borrowing locks the copy first, and is under that lock. -/
theorem borrow_locksFirst (policy : Policy) (copyId userId : Int) : (borrow policy copyId userId).LocksFirst := by
  simp only [borrow, bind_eq, pure_eq]
  refine .lock fun c => .keeping ?_
  refine keepsTo_bind ((Limits.ensureMayBorrow_keepsTo policy userId c.bookId).mono fun q hq => hq.suits) fun _ => ?_
  refine keepsTo_bind (releaseTo_keepsTo userId) fun _ => keepsTo_bind (Lending.lend_keepsTo policy userId) fun l => ?_
  exact keepsTo_bind (moveCopy_keepsTo _) fun _ => trivial

/-- The loan that an operation goes on with is read again under the lock. -/
theorem lockLoan_locksFirst {α : Type} (loanId : Int) {f : Copy × Loan → Procedure α}
    (hf : ∀ id c l, (f (c, l)).KeepsTo (Request.Suits id c [l])) : ((lockLoan loanId).bind f).LocksFirst := by
  simp only [lockLoan, bind_eq, pure_eq, bind_assoc]
  refine .reading (Lending.get_keepsTo loanId) fun l₀ => .lock fun c => ?_
  refine .reading (Lending.get_keepsTo loanId) ?_ fun l => hf l₀.copyId c l
  rintro es l hl
  obtain rfl := Lending.get_tells.1 hl
  exact List.mem_singleton_self l

/-- Returning a loan locks its copy first, and is under that lock. -/
theorem returnLoan_locksFirst (policy : Policy) (loanId : Int) : (returnLoan policy loanId).LocksFirst :=
  lockLoan_locksFirst loanId fun _ _ l => closeLoan_keepsTo policy l

/-- Renewing a loan locks its copy first, and is under that lock. -/
theorem renew_locksFirst (policy : Policy) (loanId : Int) : (renew policy loanId).LocksFirst :=
  lockLoan_locksFirst loanId fun _ _ l => keepsTo_bind (keepsTo_ensure _ _) fun _ => Lending.renew_keepsTo policy l

/-- Bringing a copy back locks it first, and is under that lock. -/
theorem returnCopy_locksFirst (policy : Policy) (copyId : Int) : (returnCopy policy copyId).LocksFirst := by
  simp only [returnCopy, Lending.active, bind_eq]
  refine .lock fun c => ?_
  rw [← bind_assoc]
  refine .reading (keepsTo_found ⟨rfl, rfl⟩ fun _ => rfl) ?_ fun l => closeLoan_keepsTo policy l
  intro es l hl
  obtain ⟨o, rfl, rfl⟩ := tells_found.1 hl
  exact List.mem_singleton_self l

/-- Reserving a copy locks it first, and is under that lock. -/
theorem reserve_locksFirst (policy : Policy) (copyId userId : Int) : (reserve policy copyId userId).LocksFirst := by
  simp only [reserve, bind_eq, pure_eq]
  refine .lock fun c => .keeping (keepsTo_bind ensureAvailable_keepsTo fun _ => ?_)
  refine keepsTo_bind ((Limits.ensureMayReserve_keepsTo policy userId c.bookId).mono fun q hq => hq.suits) fun _ => ?_
  refine keepsTo_bind (Holds.place_keepsTo policy userId) fun r => ?_
  exact keepsTo_bind (moveCopy_keepsTo _) fun _ => trivial

/-- Cancelling a reservation locks its copy first, and is under that lock. -/
theorem cancelReservation_locksFirst (reservationId : Int) : (cancelReservation reservationId).LocksFirst := by
  simp only [cancelReservation, bind_eq, pure_eq]
  have hget : (Holds.get reservationId).KeepsTo Request.Reads := keepsTo_found ⟨rfl, rfl⟩ fun _ => rfl
  refine .reading hget fun r => .lock fun c => .keeping ?_
  refine keepsTo_bind (keepsTo_ensure _ _) fun _ => keepsTo_bind (Holds.fulfil_keepsTo r) fun _ => ?_
  exact keepsTo_bind (moveCopy_keepsTo _) fun _ => trivial

/-- The copy is withdrawn by the id it was asked for, so the lock has to have answered that copy. -/
theorem removeCopy_locksFirst (copyId : Int) : (removeCopy copyId).LocksFirst := by
  simp only [removeCopy, bind_eq, pure_eq]
  refine .lock fun c => .keeping (keepsTo_bind ensureAvailable_keepsTo fun _ => ?_)
  refine keepsTo_bind keepsTo_now fun t => ?_
  rw [← bind_assoc]
  exact keepsTo_bind (keepsTo_written rfl fun _ => id) fun _ => trivial

end Desk

end

namespace Procedure

variable {α β : Type} {p : Procedure α} {c : Copy} {id : Int}

/-- What follows on a lock does so whatever is made of the result. -/
theorem UnderLock.bind_done (h : p.UnderLock id c) (g : α → β) : (p.bind fun a => .done (g a)).UnderLock id c := by
  cases h with
  | keeping h => exact .keeping (keepsTo_bind h fun _ => trivial)
  | reading hread hl hf =>
    rw [bind_assoc]
    exact .reading hread hl fun l => keepsTo_bind (hf l) fun _ => trivial

/-- An operation that locks first does so whatever is made of the result. -/
theorem LocksFirst.bind_done (h : p.LocksFirst) (g : α → β) : (p.bind fun a => .done (g a)).LocksFirst := by
  induction h with
  | lock hrest =>
    rw [bind_assoc]
    exact .lock fun c => (hrest c).bind_done g
  | reading hread _ ih =>
    rw [bind_assoc]
    exact .reading hread fun a => ih a g

end Procedure

namespace Operation

/-- Whether an operation is on a copy that is there: all are but the additions of copies and the settlement of a fine. -/
def locks : Operation → Bool
  | .addCopy _ | .addCopies _ _ | .settleFine _ => false
  | _ => true

/-- Every operation on a copy that is there locks the copy first. -/
theorem carryOut_locksFirst (policy : Policy) {o : Operation} (ho : o.locks = true) : (o.carryOut policy).LocksFirst := by
  cases o with
  | borrow copyId userId => exact (Desk.borrow_locksFirst policy copyId userId).bind_done _
  | returnLoan loanId => exact (Desk.returnLoan_locksFirst policy loanId).bind_done _
  | returnCopy copyId => exact (Desk.returnCopy_locksFirst policy copyId).bind_done _
  | renew loanId => exact (Desk.renew_locksFirst policy loanId).bind_done _
  | reserve copyId userId => exact (Desk.reserve_locksFirst policy copyId userId).bind_done _
  | cancelReservation reservationId => exact (Desk.cancelReservation_locksFirst reservationId).bind_done _
  | removeCopy copyId => exact (Desk.removeCopy_locksFirst copyId).bind_done _
  | addCopy | addCopies | settleFine => nomatch ho

end Operation

/-- On any store that answers the rows it is asked for, every write of an operation on a copy is guarded by the lock. -/
theorem written_under_lock {σ : Type} (policy : Policy) {o : Operation} (ho : o.locks = true) {store : Store σ} {s s' : σ}
    {r : Except Stop Outcome} {ds : List Deed} (hrun : (o.carryOut policy).run store.noting (s, []) = (r, s', ds))
    (hnamed : ∀ e ∈ ds, e.named = true) :
    ∀ before q a after, ds = before ++ .asked q a :: after → q.writes = true → q.Guarded before := by
  obtain ⟨ds, rfl, hdoes⟩ := Procedure.does_of_run hrun
  exact (Operation.carryOut_locksFirst policy ho).guarded hdoes hnamed

/-- A draft with a copy that is out, on a loan that is due at once. -/
def outAtOnce : Work :=
  let ledger := (Ledger.addUser (Ledger.addBook {} "Emma").2 "ann").2
  let lending : Procedure Bool := (Procedure.request (.insertCopy 1 .epoch)).bind fun _ =>
    (Procedure.request (.insertLoan ⟨3, 1, 2, .epoch, .epoch⟩)).bind fun _ =>
      Procedure.request (.moveCopy 3 .available .onLoan .epoch)
  (lending.run (Work.store fun _ => .epoch) ⟨ledger.draft, ledger.lastId, 0⟩).2

/-- The loan. -/
def dueAtOnce : Loan :=
  NewLoan.toRow ⟨3, 1, 2, .epoch, .epoch⟩ 4

/-- A second later. -/
def secondLater : Instant :=
  (Instant.epoch.add? ⟨Span.second⟩).getD .epoch

/-- The loan once the copy came back a second later. -/
def backLate : Loan :=
  { dueAtOnce with status := .returned, returnDate := some secondLater, updatedAt := secondLater }

/-- The copy comes back a second later. -/
def bringingBack : Except Stop Outcome × Work × List Deed :=
  ((Operation.returnCopy 3).carryOut {}).run (Work.store fun _ => secondLater).noting (outAtOnce, [])

/-- The fifth deed closes the loan, after the lock on the copy was asked for and answered and the loan was read. -/
theorem bringingBack_guarded : bringingBack.2.2[4]? = some (.asked (.updateLoan backLate 0) (.ok true)) ∧
    (Request.updateLoan backLate 0).Guarded (bringingBack.2.2.take 4) := by
  have hnamed : ∀ e ∈ bringingBack.2.2, e.named = true := by decide +kernel
  have hguarded := @written_under_lock _ {} (.returnCopy 3) rfl (Work.store fun _ => secondLater) outAtOnce _ _ _ rfl hnamed
  exact ⟨rfl, hguarded _ _ (.ok true) (bringingBack.2.2.drop 5) rfl rfl⟩

end Circulation
