import Circulation.Proofs.Account
import Circulation.Proofs.Agreement
import Circulation.Proofs.Decisions

/-!
# Results are rows

Most operations of the desk do not read the row again that they have written: they change what they read, the store changes the
row it keeps, and the desk answers its own. The two are one (`Operation.stores`). A row that was answered was noted as written,
so unless it is changed once more it is committed as it was answered (`results_are_stored`).
-/

namespace Circulation

open Procedure

namespace Outcome

/-- Whether tables hold every row of an outcome under its id, as it is. -/
def HeldIn (t : Tables) : Outcome → Prop
  | .loan l => t.loans.get? l.id = some l
  | .reservation r => t.reservations.get? r.id = some r
  | .copy c => t.copies.get? c.id = some c
  | .copies cs => ∀ c ∈ cs, t.copies.get? c.id = some c
  | .fine f => t.fines.get? f.id = some f

/-- Whether every row of an outcome is noted as written. -/
def NotedIn (w : Written) : Outcome → Prop
  | .loan l => w.loans.contains l.id = true
  | .reservation r => w.reservations.contains r.id = true
  | .copy c => w.copies.contains c.id = true
  | .copies cs => ∀ c ∈ cs, w.copies.contains c.id = true
  | .fine f => w.fines.contains f.id = true

instance (t : Tables) (a : Outcome) : Decidable (a.HeldIn t) := by
  cases a <;> unfold HeldIn <;> infer_instance

end Outcome

section

variable {policy : Policy} {base : Ledger} {d d' : Draft} {n n' : Int} {i : Nat} {timeline : Nat → Instant} {a : Outcome}

/-! ## What is answered is written -/

/-- Copies that are put under some ids are there. -/
theorem Draft.putCopies_get? (c : NewCopy) (ks : List Int) (d : Draft) (id : Int) :
    (d.putCopies c ks).tables.copies.get? id = if id ∈ ks then some (c.toRow id) else d.tables.copies.get? id := by
  induction ks generalizing d with
  | nil => simp [putCopies]
  | cons k ks ih =>
    rw [putCopies, List.foldl_cons]
    refine (ih _).trans ?_
    by_cases hid : id = k
    · subst hid
      simp [putCopy]
    · simp [putCopy, hid]

/-- And they are noted as written. -/
theorem Draft.putCopies_written (c : NewCopy) (ks : List Int) (d : Draft) (id : Int) :
    (d.putCopies c ks).written.copies.contains id = (decide (id ∈ ks) || d.written.copies.contains id) := by
  induction ks generalizing d with
  | nil => simp [putCopies]
  | cons k ks ih =>
    rw [putCopies, List.foldl_cons]
    refine (ih _).trans ?_
    by_cases hid : id = k
    · simp [putCopy, hid]
    · simp [putCopy, hid]

namespace Draft

/-- Whether a draft holds every row of an outcome as it is, noted as written. -/
structure Stores (d : Draft) (a : Outcome) : Prop where
  held : a.HeldIn d.tables
  noted : a.NotedIn d.written

/-- A loan that is recorded with an entry is stored as it is recorded. -/
theorem record_stores (d : Draft) (l : Loan) (e : LoanEntry) : (d.record l e).Stores (.loan l) :=
  ⟨by simp [Outcome.HeldIn], by simp [Outcome.NotedIn]⟩

/-- A reservation that is put under its own id is stored as it is put. -/
theorem putReservation_stores (d : Draft) (r : Reservation) : (d.putReservation r r.id).Stores (.reservation r) :=
  ⟨by simp [Outcome.HeldIn, putReservation], by simp [Outcome.NotedIn, putReservation]⟩

/-- A copy that is put under its own id is stored as it is put. -/
theorem putCopy_stores (d : Draft) (c : Copy) : (d.putCopy c c.id).Stores (.copy c) :=
  ⟨by simp [Outcome.HeldIn, putCopy], by simp [Outcome.NotedIn, putCopy]⟩

/-- A fine that is put under its own id is stored as it is put. -/
theorem putFine_stores (d : Draft) (f : Fine) : (d.putFine f f.id).Stores (.fine f) :=
  ⟨by simp [Outcome.HeldIn, putFine], by simp [Outcome.NotedIn, putFine]⟩

/-- Copies that are put under some ids are stored, each as a new row of its id. -/
theorem putCopies_stores (d : Draft) (c : NewCopy) (ks : List Int) :
    (d.putCopies c ks).Stores (.copies (ks.map c.toRow)) where
  held := List.forall_mem_map.2 fun k hk => (putCopies_get? c ks d k).trans (if_pos hk)
  noted := List.forall_mem_map.2 fun k hk => (putCopies_written c ks d k).trans (by simp [hk])

/-- A fine that is settled is stored as settled, with the instant of the settlement. -/
theorem settling_stores (d : Draft) (f : Fine) (t : Instant) :
    (d.settling f t).Stores (.fine { f with settled := true, updatedAt := t }) :=
  ⟨(d.putFine_stores _).held, (d.putFine_stores _).noted⟩

/-- A copy moves beside the loan that is stored. -/
theorem Stores.moved_loan {l : Loan} (h : d.Stores (.loan l)) (c : Copy) (status : CopyStatus) (t : Instant) :
    (d.moved c status t).Stores (.loan l) :=
  ⟨h.held, h.noted⟩

/-- A reservation that is stored is still stored when a copy is moved. -/
theorem Stores.moved_reservation {r : Reservation} (h : d.Stores (.reservation r)) (c : Copy) (status : CopyStatus)
    (t : Instant) : (d.moved c status t).Stores (.reservation r) :=
  ⟨h.held, h.noted⟩

end Draft

/-- What an operation of the desk answers is what its draft then holds, noted as written. -/
theorem Operation.stores (o : Operation) (hs : d.Stands base n) :
    (o.carryOut policy).Concludes timeline (fun a w => w.draft.Stores a) (fun _ _ => True) ⟨d, n, i⟩ := by
  cases o with
  | borrow copyId userId =>
    refine (concludes_bind _ _ _).2 (Desk.borrow_concludes hs (fun _ _ _ => trivial) (fun _ _ _ _ _ _ => trivial) ?_)
    intro c d₁ due k k' m j _ _ _ _ _ _ _ _ _
    exact (d₁.record_stores ..).moved_loan ..
  | returnLoan loanId =>
    refine (concludes_bind _ _ _).2 (Desk.returnLoan_concludes hs (fun _ _ _ => trivial) (fun _ _ _ _ _ _ => trivial) ?_)
    intro c l d₁ k₀ k j m _ _ _ _ _ _ _ _ _ _ _
    exact ((d₁.guard ..).record_stores ..).moved_loan ..
  | returnCopy copyId =>
    refine (concludes_bind _ _ _).2 (Desk.returnCopy_concludes hs (fun _ _ _ => trivial) (fun _ _ _ _ _ _ => trivial) ?_)
    intro c l d₁ k₀ k j m _ _ _ _ _ _ _ _ _ _ _ _
    exact ((d₁.guard ..).record_stores ..).moved_loan ..
  | renew loanId =>
    refine (concludes_bind _ _ _).2 (Desk.renew_concludes hs (fun _ _ _ => trivial) (fun _ _ _ _ _ _ => trivial) ?_)
    intro c l due j _ _ _ _ _ _ _ _ _
    exact Draft.record_stores ..
  | reserve copyId userId =>
    refine (concludes_bind _ _ _).2 (Desk.reserve_concludes hs (fun _ _ _ => trivial) (fun _ _ _ _ => trivial) ?_)
    intro c expiry k m _ _ _ _ _ _ _
    exact ((d.lock c.id).putReservation_stores _).moved_reservation ..
  | cancelReservation reservationId =>
    refine (concludes_bind _ _ _).2 (Desk.cancelReservation_concludes hs
      (fun why _ (_ : (Operation.cancelReservation reservationId).refusal? policy d.tables = some why) => trivial) ?_)
    intro c r m _ _ _ _ _ _ _ _
    exact ((d.lock c.id).putReservation_stores { r with status := .fulfilled, updatedAt := timeline i }).moved_reservation ..
  | addCopy bookId =>
    refine (concludes_bind _ _ _).2 (Desk.addCopy_concludes
      (fun why _ (_ : (Operation.addCopy bookId).refusal? policy d.tables = some why) => trivial) ?_)
    intro k _ _
    exact d.putCopy_stores (NewCopy.toRow ⟨bookId, timeline i⟩ k)
  | addCopies bookId count =>
    refine (concludes_bind _ _ _).2 (Desk.addCopies_concludes
      (fun why _ (_ : (Operation.addCopies bookId count).refusal? policy d.tables = some why) => trivial) ?_)
    intro ks m _ _ _ _ _
    exact d.putCopies_stores ⟨bookId, timeline i⟩ ks
  | removeCopy copyId =>
    refine (concludes_bind _ _ _).2 (Desk.removeCopy_concludes hs
      (fun why _ (_ : (Operation.removeCopy copyId).refusal? policy d.tables = some why) => trivial) ?_)
    intro c m _ _ _ _ _
    exact (d.lock c.id).putCopy_stores { c with deletedAt := some (timeline i), updatedAt := timeline i }
  | settleFine fineId =>
    refine (concludes_bind _ _ _).2 (Desk.settleFine_concludes hs
      (fun why _ (_ : (Operation.settleFine fineId).refusal? policy d.tables = some why) => trivial) ?_)
    intro f m _ _ _ _ _
    exact d.settling_stores f (timeline i)

/-! ## What is noted is committed -/

namespace Draft

/-- A fine that is noted as written stays so. -/
theorem Change.writtenFines (h : d.Change n d' n') {id : Int} (hid : d.written.fines.contains id = true) :
    d'.written.fines.contains id = true := by
  cases h with
  | newFine | fine => simp [putFine, hid]
  | _ => exact hid

/-- What is noted as written stays noted. -/
theorem Did.noted {ds : List Deed} (h : d.Did n ds d' n') (hs : d.Stands base n) (ha : a.NotedIn d.written) :
    a.NotedIn d'.written := by
  have hgrows := h.grows hs
  cases a with
  | loan l => exact hgrows.writtenLoans l.id ha
  | reservation r => exact hgrows.writtenReservations r.id ha
  | copy c => exact hgrows.writtenCopies c.id ha
  | copies cs => exact fun c hc => hgrows.writtenCopies c.id (ha c hc)
  | fine f =>
    exact h.keep (I := fun d _ => d.written.fines.contains f.id = true) ha (fun _ _ _ _ hw => hw)
      fun _ _ _ _ hc hw => hc.writtenFines hw

/-- What a draft stores is there once it is committed. -/
theorem Stores.committed {met l : Ledger} (h : d.Stores a) (hs : d.Stands base n) (hok : met.commit d = .ok l) :
    a.HeldIn l.tables := by
  obtain ⟨-, rfl⟩ := Ledger.commit_eq_ok_iff.1 hok
  obtain ⟨hheld, hnoted⟩ := h
  cases a with
  | loan l => exact (hs.loans.get?_publish _ _).trans ((if_pos hnoted).trans hheld)
  | reservation r => exact (hs.reservations.get?_publish _ _).trans ((if_pos hnoted).trans hheld)
  | copy c => exact (hs.copies.get?_publish _ _).trans ((if_pos hnoted).trans hheld)
  | copies cs => exact fun c hc => (hs.copies.get?_publish _ _).trans ((if_pos (hnoted c hc)).trans (hheld c hc))
  | fine f => exact (hs.fines.get?_publish _ _).trans ((if_pos hnoted).trans hheld)

end Draft

end

/-- In every transaction of desk operations, the rows that an operation answers are those that the draft then holds under their
ids, in all fields, whatever the clock read; and unless they are changed by what the transaction does later they are the committed
rows, if it is committed. -/
theorem results_are_stored {policy : Policy} {s : Traffic} (h : Reachable (Rules.desk policy) s) {k : Nat} {x : Transaction}
    (hx : s.opened k = some x) {w : Work} (hdraft : w.draft = x.draft) (hlast : s.ledger.lastId ≤ w.lastId) (o : Operation)
    (terms : Policy) (timeline : Nat → Instant) {a : Outcome} {w₁ : Work}
    (hrun : (o.carryOut terms).run (Work.store timeline) w = (.ok a, w₁)) :
    a.HeldIn w₁.draft.tables ∧
      ∀ ds d n, w₁.draft.Did w₁.lastId ds d n → a.HeldIn d.tables →
        ∀ met l : Ledger, met.commit d = .ok l → a.HeldIn l.tables := by
  have hs := (h.sound.opened k x hx).stands.mono hlast
  rw [← hdraft] at hs
  obtain ⟨hs₁, hstores⟩ := ((o.stores hs).stands hs).of_run hrun
  refine ⟨hstores.held, fun ds d n hdid hheld met l hok => ?_⟩
  exact Draft.Stores.committed ⟨hheld, hdid.noted hs₁ hstores.noted⟩ (hdid.stands hs₁) hok

/-- A copy comes back late, with the clock a month on at every reading: the loan that is answered is the one that is held, and the
one that is committed. -/
theorem lentAndHeld_stores : ∃ x a w₁ l, lentAndHeld.opened 1 = some x ∧
    ((Operation.returnLoan 6).carryOut {}).run
      (Work.store fun i => (Instant.epoch.add? ⟨30 * Span.day * (i + 1)⟩).getD .epoch)
      ⟨x.draft, lentAndHeld.ledger.lastId, 0⟩ = (.ok a, w₁) ∧
    lentAndHeld.ledger.commit w₁.draft = .ok l ∧ a.HeldIn w₁.draft.tables ∧ a.HeldIn l.tables := by
  let late : Nat → Instant := fun i => (Instant.epoch.add? ⟨30 * Span.day * (i + 1)⟩).getD .epoch
  let returned (x : Transaction) : Except Stop Outcome × Work :=
    ((Operation.returnLoan 6).carryOut {}).run (Work.store late) ⟨x.draft, lentAndHeld.ledger.lastId, 0⟩
  obtain ⟨x, hx⟩ := Option.isSome_iff_exists.1 (show (lentAndHeld.opened 1).isSome = true by decide +kernel)
  have hok : (lentAndHeld.opened 1).all (fun x => (returned x).1.isOk) = true := by decide +kernel
  have hcommit : (lentAndHeld.opened 1).all (fun x => (lentAndHeld.ledger.commit (returned x).2.draft).isOk) = true := by
    decide +kernel
  simp only [hx, Option.all_some] at hok hcommit
  rcases hr : returned x with ⟨why | a, w₁⟩
  · simp [hr, Except.isOk, Except.toBool] at hok
  · rw [hr] at hcommit
    cases hc : lentAndHeld.ledger.commit w₁.draft with
    | error why => simp [hc, Except.isOk, Except.toBool] at hcommit
    | ok l =>
      obtain ⟨hheld, hlater⟩ := results_are_stored lentAndHeld_reachable hx (w := ⟨x.draft, lentAndHeld.ledger.lastId, 0⟩) rfl
        (Int.le_refl _) (.returnLoan 6) {} late hr
      exact ⟨x, a, w₁, l, hx, hr, hc, hheld, hlater [] _ _ .nil hheld _ l hc⟩

end Circulation
