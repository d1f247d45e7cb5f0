import Circulation.Proofs.Returns
import Circulation.Proofs.Overdue

/-!
# What is undone

A hold that is placed and released, and a loan that is opened and closed in time, leave the draft as it was but for the closed
row, the history of the loan, the last change of the copy and what the draft notes of its work (`Draft.heldAndReleased`,
`Draft.lentAndReturned`). None of this is read by a test of the desk: tables that are `Alike` refuse the same requests to
borrow and to reserve. So such a pair of operations undoes itself (`pairs_undo`).
-/

namespace Circulation

open Procedure

/-- The copy with a new last change. -/
def Copy.touched (c : Copy) (t : Instant) : Copy :=
  { c with updatedAt := t }

/-- To put a copy from the shelf back on the shelf is to touch it. -/
theorem Copy.shelved_eq_touched {c : Copy} (h : c.status = .available) (t : Instant) :
    { c with status := .available, updatedAt := t } = c.touched t := by
  rw [touched, ← h]

namespace Draft

/-- The draft after a hold on a copy was placed and released at last at an instant: with the reservation, and with the notes of
the lock and of the rows written. -/
def heldAndReleased (d : Draft) (c : Copy) (r : Reservation) (t : Instant) : Draft :=
  { d with
    tables := { d.tables with
      copies := d.tables.copies.insert c.id (c.touched t)
      reservations := d.tables.reservations.insert r.id r }
    locked := (d.lock c.id).locked
    written := { d.written with
      copies := d.written.copies.add c.id
      reservations := d.written.reservations.add r.id } }

/-- The draft after a copy was lent and taken back at last at an instant: with the loan and its history, and with the notes of the
lock, of the renewal count expected and of the rows written. -/
def lentAndReturned (d : Draft) (c : Copy) (l : Loan) (first last : LoanEntry) (t : Instant) : Draft :=
  { d with
    tables := { d.tables with
      copies := d.tables.copies.insert c.id (c.touched t)
      loans := d.tables.loans.insert l.id l
      entries := (d.tables.entries.insert first.id first).insert last.id last }
    locked := (d.lock c.id).locked
    guards := (d.guard l.id l.renewCount).guards
    written := { d.written with
      copies := d.written.copies.add c.id
      loans := d.written.loans.add l.id
      entries := (d.written.entries.add first.id).add last.id } }

end Draft

/-! ## Tables that refuse alike -/

/-- A row that is not as it is asked for, put under a free id, is not found among those that are. -/
theorem Table.get?_insert_aside {α : Type} {t : Table α} {P : α → Prop} {k : Int} {a : α} (hfree : t.get? k = none)
    (ha : ¬P a) (id : Int) (b : α) (hb : P b) : t.get? id = some b ↔ (t.insert k a).get? id = some b := by
  rw [get?_insert]
  split
  · rename_i hid
    subst hid
    refine ⟨fun h => absurd (hfree.symm.trans h) (Option.some_ne_none b).symm, fun h => absurd hb ?_⟩
    cases h
    exact ha
  · exact Iff.rfl

/-- What is wanting of a changed row is what is wanting of the row by the changed test. -/
theorem wanting_map {α β : Type} (f : α → β) (row : Option α) (missing : Missing) (refusal? : β → Option Refusal) :
    wanting (row.map f) missing refusal? = wanting row missing fun a => refusal? (f a) := by
  cases row <;> rfl

namespace Tables

/-- How often the clock is read to make the copy with an id ready for a user, if there is one. -/
def releaseReadings (t : Tables) (copyId : Int) : Nat :=
  (t.liveCopy? copyId).elim 0 Copy.releaseReadings

/-- Whether tables have the same borrowed loans and pending reservations, and the same copies but for their last change. -/
structure Alike (t u : Tables) : Prop where
  copies : ∀ id, ∃ at', u.liveCopy? id = (t.liveCopy? id).map (·.touched at')
  loans : ∀ id l, l.isBorrowed = true → (t.loans.get? id = some l ↔ u.loans.get? id = some l)
  reservations : ∀ id r, r.isPending = true → (t.reservations.get? id = some r ↔ u.reservations.get? id = some r)

/-- A copy that is touched is found again. -/
theorem liveCopy?_touched {t u : Tables} {c : Copy} {at' : Instant} (hc : t.liveCopy? c.id = some c)
    (hu : u.copies = t.copies.insert c.id (c.touched at')) (id : Int) :
    ∃ at', u.liveCopy? id = (t.liveCopy? id).map (·.touched at') := by
  by_cases hid : id = c.id
  · obtain ⟨-, hlive⟩ := Option.filter_eq_some_iff.1 hc
    refine ⟨at', ?_⟩
    rw [hid, hc, liveCopy?, hu, Table.get?_insert, if_pos rfl]
    exact Option.filter_eq_some_iff.2 ⟨rfl, hlive⟩
  · have hsame : u.liveCopy? id = t.liveCopy? id := by rw [liveCopy?, hu, Table.get?_insert, if_neg hid, liveCopy?]
    cases hrow : t.liveCopy? id with
    | none => exact ⟨at', hsame.trans hrow⟩
    | some c' => exact ⟨c'.updatedAt, hsame.trans hrow⟩

namespace Alike

variable {t u : Tables} (h : t.Alike u) (userId bookId copyId : Int)

include h

/-- In tables alike the same loans of a user are out. -/
theorem borrowedBy : t.borrowedBy userId = u.borrowedBy userId :=
  Table.filter_rows_congr fun id l hp => h.loans id l (Bool.and_eq_true_iff.1 hp).2

/-- In tables alike the same loans of a user are out on a title. -/
theorem borrowedOnTitle : t.borrowedOnTitle userId bookId = u.borrowedOnTitle userId bookId :=
  Table.filter_rows_congr fun id l hp => h.loans id l (Bool.and_eq_true_iff.1 hp).2

/-- In tables alike the same reservations of a user are pending. -/
theorem pendingOf : t.pendingOf userId = u.pendingOf userId :=
  Table.filter_rows_congr fun id r hp => h.reservations id r (Bool.and_eq_true_iff.1 hp).2

/-- In tables alike the same reservations of a user are pending on a title. -/
theorem pendingOnTitle : t.pendingOnTitle userId bookId = u.pendingOnTitle userId bookId :=
  Table.filter_rows_congr fun id r hp => h.reservations id r (Bool.and_eq_true_iff.1 hp).2

/-- In tables alike the same reservation holds a copy. -/
theorem holdOn? : t.holdOn? copyId = u.holdOn? copyId := by
  rw [Tables.holdOn?, Tables.holdOn?, ← List.head?_filter, ← List.head?_filter]
  exact congrArg _ (Table.filter_rows_congr fun id r hp => h.reservations id r (Bool.and_eq_true_iff.1 hp).2)

/-- A request to borrow meets the same refusal on tables that are alike. -/
theorem borrow_refusal? (policy : Policy) :
    (Operation.borrow copyId userId).refusal? policy t = (Operation.borrow copyId userId).refusal? policy u := by
  obtain ⟨at', hcopy⟩ := h.copies copyId
  simp only [Operation.refusal?, hcopy, wanting_map, Policy.borrowTests, Copy.releaseTests, Copy.touched, h.borrowedBy,
    h.borrowedOnTitle, h.holdOn?]

/-- A request to reserve meets the same refusal on tables that are alike. -/
theorem reserve_refusal? (policy : Policy) :
    (Operation.reserve copyId userId).refusal? policy t = (Operation.reserve copyId userId).refusal? policy u := by
  obtain ⟨at', hcopy⟩ := h.copies copyId
  simp only [Operation.refusal?, hcopy, wanting_map, Policy.reserveTests, Copy.shelfTests, Copy.touched, h.borrowedOnTitle,
    h.pendingOf, h.pendingOnTitle]

/-- In tables alike the clock is read as often to make a copy ready. -/
theorem releaseReadings : t.releaseReadings copyId = u.releaseReadings copyId := by
  obtain ⟨at', hcopy⟩ := h.copies copyId
  rw [Tables.releaseReadings, Tables.releaseReadings, hcopy]
  cases t.liveCopy? copyId <;> rfl

end Alike

end Tables

/-! ## How requests end -/

/-- How a request ends that is put to tests and then to arithmetic: it is refused, out of range, or granted. -/
def verdict {α : Type} (refusal? : Option Refusal) (sum : Except Overflow α) : Except Stop Unit :=
  match refusal?, sum with
  | some why, _ => .error (.refused why)
  | none, .error what => .error (.overflowed what)
  | none, .ok _ => .ok ()

/-- A procedure ends as it concludes that it ends. -/
theorem Procedure.Concludes.ending {α : Type} {p : Procedure α} {timeline : Nat → Instant} {w : Work} {e : Except Stop Unit}
    (h : p.Concludes timeline (fun _ _ => e = .ok ()) (fun why _ => e = .error why) w) :
    (p.result timeline w).map (fun _ => ()) = e := by
  cases hr : p.result timeline w with
  | ok a =>
    obtain ⟨-, hend⟩ := h.result_ok hr
    exact hend.symm
  | error why =>
    obtain ⟨-, hend⟩ := h.result_error hr
    exact hend.symm

section

variable {policy : Policy} {base : Ledger} {d : Draft} {n : Int} {timeline : Nat → Instant} {copyId userId : Int}

/-- A request to borrow ends as the tests of the copy and the user say, and then the due date. -/
theorem Desk.borrow_ending (hs : d.Stands base n) (i : Nat) :
    ((Desk.borrow policy copyId userId).result timeline ⟨d, n, i⟩).map (fun _ => ()) =
      verdict ((Operation.borrow copyId userId).refusal? policy d.tables)
        (policy.loanPeriod.bind (timeline (i + d.tables.releaseReadings copyId)).after) := by
  refine Concludes.ending (borrow_concludes_at hs (fun why w hwhy => ?_) (fun what w c hpass hc hover => ?_) ?_)
  · rw [hwhy, verdict]
  · rw [hpass, Tables.releaseReadings, hc, Option.elim_some, hover, verdict]
  · intro c d₁ due k k' m hpass hc _ _ _ hdue _ _ _
    rw [hpass, Tables.releaseReadings, hc, Option.elim_some, hdue, verdict]

/-- A request to reserve ends as the tests of the copy and the user say, and then the expiry. -/
theorem Desk.reserve_ending (hs : d.Stands base n) (i : Nat) :
    ((Desk.reserve policy copyId userId).result timeline ⟨d, n, i⟩).map (fun _ => ()) =
      verdict ((Operation.reserve copyId userId).refusal? policy d.tables)
        (policy.reservationHold.bind (timeline i).after) := by
  refine Concludes.ending (reserve_concludes hs (fun why w hwhy => ?_) (fun what w hpass hover => ?_) ?_)
  · rw [hwhy, verdict]
  · rw [hpass, hover, verdict]
  · intro c expiry k m hpass _ _ _ hexpiry _ _
    rw [hpass, hexpiry, verdict]

end

/-- Whether requests to borrow and to reserve end alike in two works: granted, refused alike, or out of range alike, under every
policy, whatever ids others take meanwhile. -/
def Work.EndAlike (w w' : Work) : Prop :=
  ∀ (terms : Policy) (copyId userId : Int) (timeline : Nat → Instant) (i : Nat) (n n' : Int), w.lastId ≤ n → w'.lastId ≤ n' →
    ((Desk.borrow terms copyId userId).result timeline ⟨w.draft, n, i⟩).map (fun _ => ()) =
        ((Desk.borrow terms copyId userId).result timeline ⟨w'.draft, n', i⟩).map (fun _ => ()) ∧
      ((Desk.reserve terms copyId userId).result timeline ⟨w.draft, n, i⟩).map (fun _ => ()) =
        ((Desk.reserve terms copyId userId).result timeline ⟨w'.draft, n', i⟩).map (fun _ => ())

section

variable {policy : Policy} {base : Ledger} {d : Draft} {n : Int} {i : Nat} {timeline : Nat → Instant} {c : Copy}

/-- Requests end alike on tables that are alike. -/
theorem Tables.Alike.endAlike {w w' : Work} (h : w.draft.tables.Alike w'.draft.tables) (hs : w.draft.Stands base w.lastId)
    (hs' : w'.draft.Stands base w'.lastId) : w.EndAlike w' := by
  intro terms copyId userId timeline i n n' hn hn'
  constructor
  · rw [Desk.borrow_ending (hs.mono hn), Desk.borrow_ending (hs'.mono hn'), h.borrow_refusal?, h.releaseReadings]
  · rw [Desk.reserve_ending (hs.mono hn), Desk.reserve_ending (hs'.mono hn'), h.reserve_refusal?]

/-! ## Pairs of operations -/

namespace Draft

/-- A hold that was placed and released leaves tables alike. -/
theorem heldAndReleased_alike {r : Reservation} {t : Instant} (hc : d.tables.liveCopy? c.id = some c)
    (hfree : d.tables.reservations.get? r.id = none) (hr : r.isPending = false) :
    d.tables.Alike (d.heldAndReleased c r t).tables where
  copies := Tables.liveCopy?_touched hc rfl
  loans _ _ _ := Iff.rfl
  reservations := Table.get?_insert_aside hfree (by simp [hr])

/-- A copy that was lent and returned leaves tables alike. -/
theorem lentAndReturned_alike {l : Loan} {first last : LoanEntry} {t : Instant} (hc : d.tables.liveCopy? c.id = some c)
    (hfree : d.tables.loans.get? l.id = none) (hl : l.isBorrowed = false) :
    d.tables.Alike (d.lentAndReturned c l first last t).tables where
  copies := Tables.liveCopy?_touched hc rfl
  loans := Table.get?_insert_aside hfree (by simp [hl])
  reservations _ _ _ := Iff.rfl

/-- A hold that is placed on a copy from the shelf and let go leaves the draft as it was, but for the closed reservation. -/
theorem letGo_heldFor {userId k : Int} {t expiry t' t₁ t₂ : Instant} (havailable : c.status = .available) :
    (((d.lock c.id).heldFor c userId t expiry t' k).lock c.id).letGo { c with status := .onReserve, updatedAt := t' }
        (NewReservation.toRow ⟨c.id, c.bookId, userId, expiry, t⟩ k) t₁ t₂ =
      d.heldAndReleased c { NewReservation.toRow ⟨c.id, c.bookId, userId, expiry, t⟩ k with
        status := .fulfilled, updatedAt := t₁ } t₂ := by
  simp only [letGo, heldFor, fulfilled, moved, putReservation, putCopy, lock, heldAndReleased, NewReservation.toRow,
    IdSet.add, Table.insert_insert, Table.insertNew_insertNew, ← c.shelved_eq_touched havailable]

/-- A loan of a copy from the shelf that is opened and closed without a fine leaves the draft as it was, but for the closed loan
and its history. -/
theorem broughtBack_lent {userId k j j' : Int} {t due t' t₁ t₂ : Instant} (havailable : c.status = .available) :
    (((d.lock c.id).lent c userId t due t' k j).lock c.id).broughtBack { c with status := .onLoan, updatedAt := t' }
        (NewLoan.toRow ⟨c.id, c.bookId, userId, t, due⟩ k) t₁ t₂ j' =
      d.lentAndReturned c ((NewLoan.toRow ⟨c.id, c.bookId, userId, t, due⟩ k).closed t₁)
        (NewLoanEntry.toRow ⟨k, .borrowed, due, none, t⟩ j) (NewLoanEntry.toRow ⟨k, .returned, due, none, t₁⟩ j') t₂ := by
  simp only [broughtBack, lent, record, moved, putLoan, putEntry, putCopy, lock, guard, lentAndReturned, Loan.closed,
    NewLoan.toRow, NewLoanEntry.toRow, IdSet.add, Table.insert_insert, Table.insertNew_insertNew,
    ← c.shelved_eq_touched havailable]

/-- A copy that is not withdrawn is found where it was moved. -/
theorem moved_liveCopy? (hlive : c.isDeleted = false) (status : CopyStatus) (t : Instant) :
    (d.moved c status t).tables.liveCopy? c.id = some { c with status := status, updatedAt := t } := by
  refine Option.filter_eq_some_iff.2 ⟨?_, by simpa [Copy.isDeleted] using hlive⟩
  rw [moved, putCopy, Table.get?_insert, if_pos rfl]

/-- The copy that a draft holds after it was moved is the copy that was moved. -/
theorem Holding.of_moved {c' : Copy} {status : CopyStatus} {t : Instant} {id : Int}
    (h : ((d.moved c status t).lock id).Holding c') (hid : c'.id = c.id) :
    c' = { c with status := status, updatedAt := t } := by
  have hrow := h.row
  rw [hid, lock, moved, putCopy, Table.get?_insert, if_pos rfl] at hrow
  exact (Option.some.inj hrow).symm

end Draft

namespace Desk

/-- A reservation is placed on a copy from the shelf, under a new id. -/
theorem reserve_concludes_held {w : Work} (hs : w.draft.Stands base w.lastId) (copyId userId : Int) :
    (reserve policy copyId userId).Concludes timeline
      (fun r w' => ∃ c expiry t t', w.draft.tables.liveCopy? copyId = some c ∧ c.id = copyId ∧ c.status = .available ∧
        w.draft.tables.reservations.get? r.id = none ∧ r = NewReservation.toRow ⟨c.id, c.bookId, userId, expiry, t⟩ r.id ∧
        w'.draft = (w.draft.lock c.id).heldFor c userId t expiry t' r.id)
      (fun _ _ => True) w := by
  refine reserve_concludes hs (fun _ _ _ => trivial) (fun _ _ _ _ => trivial) ?_
  rintro c expiry k m - rfl hc havailable - hk -
  exact ⟨c, expiry, _, _, hc.liveCopy?, rfl, havailable, hs.reservations.keyed.none_of_lt hk, rfl, rfl⟩

/-- A hold on a copy from the shelf is let go right after it was placed. -/
theorem cancelReservation_of_heldFor {userId k m : Int} {t expiry t' : Instant} (hc : d.tables.liveCopy? c.id = some c)
    (havailable : c.status = .available) (hs : ((d.lock c.id).heldFor c userId t expiry t' k).Stands base m) :
    (cancelReservation k).Concludes timeline
      (fun r w => r = { NewReservation.toRow ⟨c.id, c.bookId, userId, expiry, t⟩ k with
          status := .fulfilled, updatedAt := timeline i } ∧
        w.draft = d.heldAndReleased c r (timeline (i + 1)))
      (fun _ _ => False) ⟨(d.lock c.id).heldFor c userId t expiry t' k, m, i⟩ := by
  have hlive : c.isDeleted = false := by simpa using (Option.filter_eq_some_iff.1 hc).2
  have hheld : ((d.lock c.id).heldFor c userId t expiry t' k).tables.reservations.get? k =
      some (NewReservation.toRow ⟨c.id, c.bookId, userId, expiry, t⟩ k) :=
    (Table.get?_insert ..).trans (if_pos rfl)
  have hmoved : ((d.lock c.id).heldFor c userId t expiry t' k).tables.liveCopy? c.id =
      some { c with status := .onReserve, updatedAt := t' } :=
    Draft.moved_liveCopy? hlive .onReserve t'
  have hpass : (Operation.cancelReservation k).refusal? {} ((d.lock c.id).heldFor c userId t expiry t' k).tables = none := by
    simp [Operation.refusal?, hheld, wanting, NewReservation.toRow, hmoved, Reservation.releaseTests, Reservation.isPending]
  refine cancelReservation_concludes hs
    (fun why _ (hwhy : (Operation.cancelReservation k).refusal? {} _ = some why) => ?_) ?_
  · cases hpass.symm.trans hwhy
  · rintro c' r m' - hid hr - hcopy hc' - -
    rw [hid] at hr
    obtain rfl := Option.some.inj (hr.symm.trans hheld)
    obtain rfl := hc'.of_moved hcopy.symm
    exact ⟨rfl, Draft.letGo_heldFor havailable⟩

/-- A copy from the shelf is lent, the loan and its first entry under new ids. -/
theorem borrow_concludes_lent {w : Work} (hs : w.draft.Stands base w.lastId) {copyId : Int} (userId : Int)
    (hc : w.draft.tables.liveCopy? copyId = some c) (havailable : c.status = .available) :
    (borrow policy copyId userId).Concludes timeline
      (fun l w' => ∃ t t' j, w.draft.tables.loans.get? l.id = none ∧ w.lastId < j ∧ j ≤ w'.lastId ∧
        l = NewLoan.toRow ⟨c.id, c.bookId, userId, t, l.dueDate⟩ l.id ∧
        w'.draft = (w.draft.lock c.id).lent c userId t l.dueDate t' l.id j)
      (fun _ _ => True) w := by
  refine borrow_concludes hs (fun _ _ _ => trivial) (fun _ _ _ _ _ _ => trivial) ?_
  rintro c' d₁ due k j m i - rfl hc' hreleased - - hk hj hm
  obtain rfl := Option.some.inj (hc.symm.trans hc'.liveCopy?)
  cases hreleased with
  | shelf => exact ⟨_, _, j, hs.loans.keyed.none_of_lt hk, Int.lt_trans hk hj, hm, rfl, rfl⟩
  | hold r t hreserve => simp [havailable] at hreserve

/-- A loan of a copy from the shelf is closed without a fine when it is returned by its due date. -/
theorem returnLoan_of_lent (policy : Policy) {userId k j m : Int} {t due t' : Instant}
    (hc : d.tables.liveCopy? c.id = some c) (havailable : c.status = .available)
    (hs : ((d.lock c.id).lent c userId t due t' k j).Stands base m) (hdue : timeline i ≤ due) :
    (returnLoan policy k).Concludes timeline
      (fun l w => l = (NewLoan.toRow ⟨c.id, c.bookId, userId, t, due⟩ k).closed (timeline i) ∧ ∃ j', m < j' ∧
        w.draft = d.lentAndReturned c l (NewLoanEntry.toRow ⟨k, .borrowed, due, none, t⟩ j)
          (NewLoanEntry.toRow ⟨k, .returned, due, none, timeline i⟩ j') (timeline (i + 1)))
      (fun _ _ => False) ⟨(d.lock c.id).lent c userId t due t' k j, m, i⟩ := by
  have hlive : c.isDeleted = false := by simpa using (Option.filter_eq_some_iff.1 hc).2
  have hloan : ((d.lock c.id).lent c userId t due t' k j).tables.loans.get? k =
      some (NewLoan.toRow ⟨c.id, c.bookId, userId, t, due⟩ k) :=
    (Table.get?_insert ..).trans (if_pos rfl)
  have hmoved : ((d.lock c.id).lent c userId t due t' k j).tables.liveCopy? c.id =
      some { c with status := .onLoan, updatedAt := t' } :=
    Draft.moved_liveCopy? hlive .onLoan t'
  have hpass : (Operation.returnLoan k).refusal? policy ((d.lock c.id).lent c userId t due t' k j).tables = none := by
    simp [Operation.refusal?, hloan, wanting, NewLoan.toRow, hmoved, Loan.closingTests, Loan.isBorrowed]
  refine returnLoan_concludes hs (fun why _ hwhy => ?_) (fun what _ l _ hl hover => ?_) ?_
  · cases hpass.symm.trans hwhy
  · obtain rfl := Option.some.inj (hl.symm.trans hloan)
    cases (Overdue.charge_of_le hdue).symm.trans hover
  · rintro c' l d₁ k₀ k' j' m' - hid hl - hcopy hc' - hk₀ hcharged hj' -
    rw [hid] at hl
    obtain rfl := Option.some.inj (hl.symm.trans hloan)
    obtain rfl := hc'.of_moved hcopy.symm
    -- A return on time is not charged, so the draft is the one that was locked.
    cases hcharged with
    | fine hover => cases (Overdue.charge_of_le hdue).symm.trans hover
    | none => exact ⟨rfl, j', Int.lt_of_le_of_lt hk₀ hj', Draft.broughtBack_lent havailable⟩

end Desk

end

/-- In every transaction of desk operations, a reservation that was placed is cancelled when that is asked for, which leaves the
draft as it was but for the fulfilled reservation, the last change of the copy and the notes of both; and a loan that was opened
of a copy from the shelf is closed when its copy comes back by the due date, which leaves the draft as it was but for the
returned loan, its two entries, the last change of the copy and the notes of both. After either pair every request to borrow or
to reserve ends as it would have before. -/
theorem pairs_undo {policy : Policy} {s : Traffic} (h : Reachable (Rules.desk policy) s) {k : Nat} {x : Transaction}
    (hx : s.opened k = some x) {w : Work} (hdraft : w.draft = x.draft) (hlast : s.ledger.lastId ≤ w.lastId)
    (terms : Policy) (timeline later : Nat → Instant) (copyId userId : Int) :
    (∀ r w₁, (Desk.reserve terms copyId userId).run (Work.store timeline) w = (.ok r, w₁) → ∀ n, w₁.lastId ≤ n →
      ∃ c t t' w₂, w.draft.tables.liveCopy? copyId = some c ∧ w.draft.tables.reservations.get? r.id = none ∧
        (Desk.cancelReservation r.id).run (Work.store later) { w₁ with lastId := n } =
          (.ok { r with status := .fulfilled, updatedAt := t }, w₂) ∧
        w₂.draft = w.draft.heldAndReleased c { r with status := .fulfilled, updatedAt := t } t' ∧ w.EndAlike w₂) ∧
    ∀ c, w.draft.tables.liveCopy? copyId = some c → c.status = .available →
      ∀ l w₁, (Desk.borrow terms copyId userId).run (Work.store timeline) w = (.ok l, w₁) → ∀ n, w₁.lastId ≤ n →
        later w₁.readings ≤ l.dueDate → ∃ j j' t' w₂, w.draft.tables.loans.get? l.id = none ∧
          w.draft.tables.entries.get? j = none ∧ w.draft.tables.entries.get? j' = none ∧ j ≠ j' ∧
          (Desk.returnLoan terms l.id).run (Work.store later) { w₁ with lastId := n } =
            (.ok (l.closed (later w₁.readings)), w₂) ∧
          w₂.draft = w.draft.lentAndReturned c (l.closed (later w₁.readings))
            (NewLoanEntry.toRow ⟨l.id, .borrowed, l.dueDate, none, l.borrowDate⟩ j)
            (NewLoanEntry.toRow ⟨l.id, .returned, l.dueDate, none, later w₁.readings⟩ j') t' ∧
          w.EndAlike w₂ := by
  have hs := (h.sound.opened k x hx).stands.mono hlast
  rw [← hdraft] at hs
  constructor
  · rintro r ⟨d₁, n₁, i⟩ hreserve n hn
    obtain ⟨hs₁, c, expiry, t, t', hc, rfl, havailable, hfree, hr, hheld⟩ :=
      ((Desk.reserve_concludes_held hs copyId userId).stands hs).of_run hreserve
    subst hheld
    have hs₁ := hs₁.mono hn
    obtain ⟨r', w₂, hrun, hs₂, hr', hw₂⟩ := ((Desk.cancelReservation_of_heldFor hc havailable hs₁).stands hs₁).exists_run
    rw [← hr] at hr'
    subst hr'
    refine ⟨c, later i, _, w₂, hc, hfree, hrun, hw₂, Tables.Alike.endAlike ?_ hs hs₂⟩
    rw [hw₂]
    exact Draft.heldAndReleased_alike hc hfree rfl
  · rintro c hc havailable l ⟨d₁, n₁, i⟩ hborrow n hn hdue
    obtain ⟨hs₁, t, t', j, hfree, hj, hjn, hl, hlent⟩ :=
      ((Desk.borrow_concludes_lent hs userId hc havailable).stands hs).of_run hborrow
    have hid : c.id = copyId := (hs.copies.keyed copyId c (Option.filter_eq_some_iff.1 hc).1).1
    subst hid hlent
    have hs₁ := hs₁.mono hn
    obtain ⟨l', w₂, hrun, hs₂, hl', j', hj', hw₂⟩ :=
      ((Desk.returnLoan_of_lent terms hc havailable hs₁ hdue).stands hs₁).exists_run
    rw [← hl] at hl'
    subst hl'
    have ht : l.borrowDate = t := congrArg Loan.borrowDate hl
    subst ht
    have hjj' : j < j' := Int.lt_of_le_of_lt (Int.le_trans hjn hn) hj'
    refine ⟨j, j', _, w₂, hfree, hs.entries.keyed.none_of_lt hj, hs.entries.keyed.none_of_lt (Int.lt_trans hj hjj'),
      Int.ne_of_lt hjj', hrun, hw₂, Tables.Alike.endAlike ?_ hs hs₂⟩
    rw [hw₂]
    exact Draft.lentAndReturned_alike hc hfree rfl

/-- A desk where one copy is on the shelf and another has been lent, with a transaction that begins then. -/
def oneOnShelf : Traffic :=
  let s : Traffic := { clock := .epoch }
  let s := ((s.act (.addBook "Emma")).act (.addUser "ann")).act (.addUser "ben")
  let s := (s.act (.begin 0)).serve 0 (Operation.procedure {} (.addCopies 1 2))
  ((s.serve 0 (Operation.procedure {} (.borrow 4 2))).act (.commit 0)).act (.begin 1)

theorem oneOnShelf_reachable : Reachable (Rules.desk {}) oneOnShelf := by
  have start : Reachable (Rules.desk {}) { clock := .epoch } := .start .epoch trivial
  have users := ((start.act (.addBook "Emma") trivial).act (.addUser "ann") trivial).act (.addUser "ben") trivial
  have copies := (users.act (.begin 0) trivial).perform 0 (.addCopies 1 2) False.elim
  exact ((copies.perform 0 (.borrow 4 2) False.elim).commit 0 False.elim).act (.begin 1) trivial

/-- The copy on the shelf is reserved and released, or lent and returned at once, and is as good as before either way. -/
theorem oneOnShelf_undone : ∃ x c, oneOnShelf.opened 1 = some x ∧ x.draft.tables.liveCopy? 5 = some c ∧
    (∃ r w₁ t t' w₂, (Desk.reserve {} 5 3).run (Work.store fun _ => .epoch) ⟨x.draft, oneOnShelf.ledger.lastId, 0⟩ =
        (.ok r, w₁) ∧
      ((Desk.cancelReservation r.id).run (Work.store fun _ => .epoch) w₁).2 = w₂ ∧
      w₂.draft = x.draft.heldAndReleased c { r with status := .fulfilled, updatedAt := t } t' ∧
      Work.EndAlike ⟨x.draft, oneOnShelf.ledger.lastId, 0⟩ w₂) ∧
    ∃ l w₁ first last t w₂, (Desk.borrow {} 5 3).run (Work.store fun _ => .epoch) ⟨x.draft, oneOnShelf.ledger.lastId, 0⟩ =
        (.ok l, w₁) ∧
      ((Desk.returnLoan {} l.id).run (Work.store fun _ => .epoch) w₁).2 = w₂ ∧
      w₂.draft = x.draft.lentAndReturned c (l.closed .epoch) first last t ∧
      Work.EndAlike ⟨x.draft, oneOnShelf.ledger.lastId, 0⟩ w₂ := by
  obtain ⟨x, hx⟩ := Option.isSome_iff_exists.1 (show (oneOnShelf.opened 1).isSome = true by decide +kernel)
  have hshelf : (oneOnShelf.opened 1).all (fun x => (x.draft.tables.liveCopy? 5).any (·.status = .available)) = true := by
    decide +kernel
  have hreserve : (oneOnShelf.opened 1).all (fun x => ((Desk.reserve {} 5 3).run (Work.store fun _ => .epoch)
      ⟨x.draft, oneOnShelf.ledger.lastId, 0⟩).1.isOk) = true := by decide +kernel
  have hborrow : (oneOnShelf.opened 1).all (fun x => ((Desk.borrow {} 5 3).run (Work.store fun _ => .epoch)
      ⟨x.draft, oneOnShelf.ledger.lastId, 0⟩).1.toOption.any fun l => Instant.epoch ≤ l.dueDate) = true := by
    decide +kernel
  simp only [hx, Option.all_some] at hshelf hreserve hborrow
  obtain ⟨c, hc, havailable⟩ := (Option.any_eq_true _ _).1 hshelf
  have hundo := pairs_undo oneOnShelf_reachable hx (w := ⟨x.draft, oneOnShelf.ledger.lastId, 0⟩) rfl (Int.le_refl _) {}
    (fun _ => .epoch) (fun _ => .epoch) 5 3
  refine ⟨x, c, hx, hc, ?_, ?_⟩
  · rcases hr : (Desk.reserve {} 5 3).run (Work.store fun _ => .epoch) ⟨x.draft, oneOnShelf.ledger.lastId, 0⟩ with ⟨why | r, w₁⟩
    · simp [hr, Except.isOk, Except.toBool] at hreserve
    · obtain ⟨c', t, t', w₂, hc', -, hrun, hw₂, halike⟩ := hundo.1 r w₁ hr w₁.lastId (Int.le_refl _)
      obtain rfl := Option.some.inj (hc.symm.trans hc')
      exact ⟨r, w₁, t, t', w₂, rfl, congrArg Prod.snd hrun, hw₂, halike⟩
  · rcases hr : (Desk.borrow {} 5 3).run (Work.store fun _ => .epoch) ⟨x.draft, oneOnShelf.ledger.lastId, 0⟩ with ⟨why | l, w₁⟩
    · simp [hr, Except.toOption] at hborrow
    · simp only [hr, Except.toOption, Option.any_some, decide_eq_true_eq] at hborrow
      obtain ⟨j, j', t, w₂, -, -, -, -, hrun, hw₂, halike⟩ := hundo.2 c hc (of_decide_eq_true havailable) l w₁ hr w₁.lastId
        (Int.le_refl _) hborrow
      exact ⟨l, w₁, _, _, t, w₂, rfl, congrArg Prod.snd hrun, hw₂, halike⟩

end Circulation
