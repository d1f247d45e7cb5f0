import Circulation.Proofs.Acceptance
import Circulation.Proofs.Completion
import Circulation.Proofs.Conflicts
import Circulation.Proofs.Quota
import Circulation.Proofs.Releasing

/-!
# How many reservations there can be

A user may have one reservation more than the cap pending, and somebody can: a desk that adds a title and a copy of it and
holds that for the user, again and again, comes to as many, with three ids for each (`Traffic.Filled.exists_of_le`). It needs
an instant from which a hold has an expiry; under a policy by which no hold ever has one, nothing is ever reserved
(`Reachable.pendingOf_eq_nil`).
-/

namespace Circulation

/-! ## Holds without an expiry -/

/-- Whether no reservation is pending. -/
def Tables.NothingHeld (t : Tables) : Prop :=
  t.reservations.All fun r => r.isPending = false

section

variable {policy : Policy}

/-- Where no hold has an expiry a move holds nothing. -/
theorem Move.nothingHeld {rules : Rules} {d d' : Draft} {m m' : Moment} (h : Move rules policy d m d' m')
    (hnever : ∀ t expiry : Instant, policy.reservationHold.bind t.after ≠ .ok expiry) (hd : d.tables.NothingHeld) :
    d'.tables.NothingHeld := by
  obtain ⟨k, hk⟩ := h.reservations
  intro i r hr
  cases hpending : r.isPending with
  | false => rfl
  | true =>
    rcases hk i r hr hpending with ⟨-, -, t, expiry, hexpiry⟩ | hold
    · exact absurd hexpiry (hnever t expiry)
    · exact hpending.symm.trans (hd i r hold)

/-- A commit of a draft that holds nothing holds nothing. -/
theorem Committing.nothingHeld {l l' : Ledger} {x : Transaction} {committed : List Transaction}
    (h : Committing l x committed l') (hl : l.tables.NothingHeld) (hx : x.draft.tables.NothingHeld) :
    l'.tables.NothingHeld := by
  intro i r hr
  rw [h.reservations] at hr
  split at hr
  · exact hx i r hr
  · exact hl i r hr

/-- The discipline of a desk where no hold has an expiry. -/
def unreserving (hnever : ∀ t expiry : Instant, policy.reservationHold.bind t.after ≠ .ok expiry) (strict : Prop) :
    Discipline (Rules.desk policy strict) where
  Good l _ _ := l.tables.NothingHeld
  Fit _ d _ _ := d.tables.NothingHeld
  Moved _ _ _ := True
  good_start _ _ _ _ h := nomatch h
  good_grown hg h := by
    rw [hg.tables]
    exact h
  good_later _ h := h
  moved_grown _ := trivial
  moved_trans _ _ := trivial
  fit_begin _ h := h
  fit_later _ h := h
  fit_call := by
    rintro base d hand m p - hs - hfit ⟨o, rfl⟩
    refine (o.keeps (I := fun d _ => d.tables.NothingHeld) hs hfit (fun _ _ _ _ h => h) ?_).mono (fun _ _ _ h => h.2)
      fun _ _ h _ => h
    exact fun _ _ _ _ _ hmove h => hmove.nothingHeld hnever h
  commit _ hcom hl _ _ hx := ⟨hcom.nothingHeld hl hx, trivial⟩

/-- Under a policy by which no hold has an expiry nobody ever has a reservation pending. -/
theorem Reachable.pendingOf_eq_nil {strict : Prop} {s : Traffic} (h : Reachable (Rules.desk policy strict) s)
    (hnever : ∀ t expiry : Instant, policy.reservationHold.bind t.after ≠ .ok expiry) (userId : Int) :
    s.ledger.tables.pendingOf userId = [] :=
  Table.filter_rows_eq_nil fun i r hr hp => by
    have hnone := ((unreserving hnever strict).holds h).good i r hr
    simp [hnone] at hp

end

/-! ## Ids -/

/-- Whether a request puts a row under a new id. -/
def Request.inserts : Request → Bool
  | .insertCopy _ _ | .insertLoan _ | .insertEntry _ | .insertReservation _ | .insertFine _ => true
  | _ => false

/-- A request takes one id if it puts a row under a new one, and none otherwise. -/
theorem Work.lastId_of_answer {q : Request} {w w' : Work} {a : q.Answer} (h : Work.answer q w = (.ok a, w')) :
    w'.lastId = w.lastId + if q.inserts then 1 else 0 := by
  cases q with
  | insertCopy | lockCopy | outstandingTotal =>
    simp only [answer] at h
    split at h <;> cases h <;> simp [Request.inserts]
  | insertLoan | insertEntry | insertReservation | insertFine =>
    cases h
    rfl
  | _ =>
    cases h
    exact (Int.add_zero _).symm

/-- Rows are put under new ids by writes only. -/
theorem Request.writes_of_inserts {q : Request} (h : q.inserts = true) : q.writes = true := by
  cases q with
  | insertCopy | insertLoan | insertEntry | insertReservation | insertFine => rfl
  | _ => cases h

/-- How many ids are taken for the rows of some deeds after another one. -/
theorem Deed.countP_writes_asked (q : Request) (a : Except Stop q.Answer) (ds : List Deed) :
    (Deed.writes (.asked q a :: ds)).countP Request.inserts =
      (Deed.writes ds).countP Request.inserts + if q.inserts then 1 else 0 := by
  have hcons : Deed.writes (.asked q a :: ds) = if q.writes then q :: Deed.writes ds else Deed.writes ds := List.filter_cons
  rw [hcons]
  cases hinserts : q.inserts with
  | true => rw [if_pos (Request.writes_of_inserts hinserts), List.countP_cons, hinserts]
  | false =>
    split
    · rw [List.countP_cons, hinserts]
    · rfl

/-- A procedure that ends with a result takes an id for each row that it puts under a new one. -/
theorem Procedure.lastId_of_run {α : Type} {timeline : Nat → Instant} {p : Procedure α} {a : α} {w w' : Work}
    (h : p.run (Work.store timeline) w = (.ok a, w')) :
    ∃ ds, p.Tells ds a ∧ w'.lastId = w.lastId + (Deed.writes ds).countP Request.inserts := by
  induction p generalizing w with
  | done b =>
    cases h
    exact ⟨[], ⟨rfl, rfl⟩, (Int.add_zero _).symm⟩
  | stop why => cases h
  | clock next ih =>
    obtain ⟨ds, htells, hids⟩ := ih _ h
    exact ⟨_, ⟨_, ds, rfl, htells⟩, hids⟩
  | ask q next ih =>
    rcases hw : Work.answer q w with ⟨why | answer, w₁⟩
    · simp only [run, Work.store, hw] at h
      cases h
    · simp only [run, Work.store, hw] at h
      obtain ⟨ds, htells, hids⟩ := ih answer h
      refine ⟨_, ⟨answer, ds, rfl, htells⟩, ?_⟩
      rw [hids, Work.lastId_of_answer hw, Deed.countP_writes_asked]
      split <;> omega

namespace Desk

variable {policy : Policy} {timeline : Nat → Instant} {w w' : Work}

/-- To add a copy takes one id. -/
theorem addCopy_lastId {bookId : Int} {c : Copy} (h : (addCopy bookId).run (Work.store timeline) w = (.ok c, w')) :
    w'.lastId = w.lastId + 1 := by
  obtain ⟨ds, htells, hids⟩ := Procedure.lastId_of_run h
  have hwrote : Operation.Wrote {} ds (.addCopy bookId) (Deed.writes ds) := addCopy_wrote htells
  rw [hids]
  generalize Deed.writes ds = requests at hwrote
  cases hwrote
  rfl

/-- To place a reservation takes one id. -/
theorem reserve_lastId {copyId userId : Int} {r : Reservation}
    (h : (reserve policy copyId userId).run (Work.store timeline) w = (.ok r, w')) : w'.lastId = w.lastId + 1 := by
  obtain ⟨ds, htells, hids⟩ := Procedure.lastId_of_run h
  have hwrote : Operation.Wrote policy ds (.reserve copyId userId) (Deed.writes ds) := reserve_wrote htells
  rw [hids]
  generalize Deed.writes ds = requests at hwrote
  cases hwrote
  rfl

end Desk

/-! ## One more than the cap -/

/-- A transaction that nobody disturbs goes on from what a procedure concludes that cannot stop. -/
theorem Traffic.serve_of_concludes {α : Type} {s : Traffic} {k : Nat} {x : Transaction} {p : Procedure α}
    {Q : α → Work → Prop} (hx : s.opened k = some x) (hd : x.doing = none)
    (h : p.Concludes (fun _ => s.clock) Q (fun _ _ => False) ⟨x.draft, s.ledger.lastId, 0⟩) :
    ∃ a w, Q a w ∧ p.run (Work.store fun _ => s.clock) ⟨x.draft, s.ledger.lastId, 0⟩ = (.ok a, w) ∧
      s.serve k p.quietly = (s.taking w.lastId).keep k { x with draft := w.draft } := by
  obtain ⟨a, w, hrun, hQ⟩ := h.exists_run
  refine ⟨a, w, hQ, hrun, ?_⟩
  rw [Traffic.serve_eq_run _ hx hd, Procedure.quietly, Procedure.run_bind, hrun]
  obtain ⟨base, began, draft, inHand, refused, doing⟩ := x
  subst hd
  rfl

namespace Reachable

variable {policy : Policy} {s : Traffic} {k : Nat} {x : Transaction}

/-- A transaction that nobody disturbs adds a copy of a title that it knows, under the next id. -/
theorem adds (h : Reachable (Rules.desk policy) s) (hx : s.opened k = some x) (hd : x.doing = none) {bookId : Int}
    (hb : x.draft.tables.books.contains bookId = true) {i : Int} (hi : i = s.ledger.lastId + 1) :
    Reachable (Rules.desk policy)
      ((s.taking i).keep k { x with draft := x.draft.putCopy (NewCopy.toRow ⟨bookId, s.clock⟩ i) i }) := by
  have hadd : (Desk.addCopy bookId).Concludes (fun _ => s.clock)
      (fun _ w => w.draft = x.draft.putCopy (NewCopy.toRow ⟨bookId, s.clock⟩ w.lastId) w.lastId)
      (fun _ _ => False) ⟨x.draft, s.ledger.lastId, 0⟩ := by
    refine Desk.addCopy_concludes (fun why w (hwhy : (Operation.addCopy bookId).refusal? policy _ = some why) => ?_)
      fun _ _ _ => rfl
    simp [Operation.refusal?, hb] at hwhy
  obtain ⟨_, w, hdraft, hrun, hserve⟩ := Traffic.serve_of_concludes hx hd hadd
  obtain rfl : w.lastId = i := (Desk.addCopy_lastId hrun).trans hi.symm
  rw [hdraft] at hserve
  exact hserve ▸ h.perform k (.addCopy bookId) False.elim

/-- A transaction that nobody disturbs holds a copy for a user who passes the tests, under the next id. -/
theorem reserves (h : Reachable (Rules.desk policy) s) (hx : s.opened k = some x) (hd : x.doing = none) {c : Copy}
    {userId : Int} {expiry : Instant} (hc : x.draft.tables.copies.get? c.id = some c)
    (hpass : (Operation.reserve c.id userId).refusal? policy x.draft.tables = none)
    (he : policy.reservationHold.bind s.clock.after = .ok expiry) {i : Int} (hi : i = s.ledger.lastId + 1) :
    Reachable (Rules.desk policy) ((s.taking i).keep k
      { x with draft := (x.draft.lock c.id).heldFor c userId s.clock expiry s.clock i }) := by
  have hreserve : (Desk.reserve policy c.id userId).Concludes (fun _ => s.clock)
      (fun _ w => ∃ j, s.ledger.lastId < j ∧ j ≤ w.lastId ∧
        w.draft = (x.draft.lock c.id).heldFor c userId s.clock expiry s.clock j)
      (fun _ _ => False) ⟨x.draft, s.ledger.lastId, 0⟩ := by
    refine Desk.reserve_concludes (h.sound.opened k x hx).stands (fun why _ hwhy => ?_) (fun what _ _ hwhat => ?_)
      fun c' due j n _ hid hc' _ hdue hj hn => ⟨j, hj, hn, ?_⟩
    · simp [hpass] at hwhy
    · simp [he] at hwhat
    · cases he.symm.trans hdue
      have hrow := hc'.row
      rw [hid] at hrow
      cases hc.symm.trans hrow
      rfl
  obtain ⟨_, w, ⟨j, hj, hn, hdraft⟩, hrun, hserve⟩ := Traffic.serve_of_concludes hx hd hreserve
  have hids : w.lastId = s.ledger.lastId + 1 := Desk.reserve_lastId hrun
  obtain rfl : j = i := by omega
  have hlast : w.lastId = j := by omega
  rw [hdraft, hlast] at hserve
  exact hserve ▸ h.perform k (.reserve c.id userId) False.elim

/-- A transaction commits that began after all others had, if it does not stand against itself. -/
theorem commits (h : Reachable (Rules.desk policy) s) (hx : s.opened k = some x) (hd : x.doing = none)
    (hbegan : x.began = s.journal.length) (hown : ¬x.CollidesWithOwn) :
    ∃ l, Committing s.ledger x [] l ∧
      Reachable (Rules.desk policy) { s.drop k with ledger := l, journal := s.journal ++ [x] } := by
  have hnone : s.journal.drop x.began = [] := by rw [hbegan, List.drop_length]
  have hclear := (hnone ▸ Asking.of_reachable h hx hd).clear (fun e he => nomatch he) hown
  obtain ⟨l, hl⟩ : ∃ l, s.ledger.commit x.draft = .ok l := ⟨_, Ledger.commit_eq_ok_iff.2 ⟨hclear, rfl⟩⟩
  refine ⟨l, hnone ▸ h.sound.committing hx hl, ?_⟩
  exact Traffic.act_commit_ok hx hd hl ▸ h.commit k False.elim

end Reachable

/-- The transaction that adds a copy of a title and holds it for a user, when the copy and the hold have the next ids. -/
def Traffic.holding (s : Traffic) (bookId userId : Int) (expiry : Instant) : Transaction where
  base := s.ledger
  began := s.journal.length
  draft :=
    let c := NewCopy.toRow ⟨bookId, s.clock⟩ (s.ledger.lastId + 1)
    ((s.ledger.draft.putCopy c c.id).lock c.id).heldFor c userId s.clock expiry s.clock (s.ledger.lastId + 2)

/-- Whether a user has so many reservations pending, at a desk that has lent nothing. -/
structure Traffic.Filled (policy : Policy) (t : Instant) (userId : Int) (n : Nat) (s : Traffic) : Prop where
  reachable : Reachable (Rules.desk policy) s
  clock : s.clock = t
  loans : s.ledger.tables.loans = .empty
  pending : (s.ledger.tables.pendingOf userId).length = n
  titles : s.ledger.tables.reservations.All fun r => r.bookId ≤ s.ledger.lastId

namespace Traffic.Filled

variable {policy : Policy} {t expiry : Instant} {userId : Int} {n : Nat} {s : Traffic}

/-- Nothing stands against a reservation of a copy that was just added of a title that nobody reserved. -/
theorem refusal?_eq_none (h : s.Filled policy t userId n) (hn : (n : Int) ≤ policy.maxReservations) {c bookId : Int}
    (hnew : s.ledger.tables.reservations.All fun r => r.bookId ≠ bookId) (now : Instant) {tables : Tables}
    (hloans : tables.loans = s.ledger.tables.loans) (hreservations : tables.reservations = s.ledger.tables.reservations)
    (hcopy : tables.copies.get? c = some (NewCopy.toRow ⟨bookId, now⟩ c)) :
    (Operation.reserve c userId).refusal? policy tables = none := by
  refine reserve_refusal?_eq_none_iff.2 ⟨NewCopy.toRow ⟨bookId, now⟩ c, ?_, rfl, ?_, ?_, ?_⟩
  · exact Option.filter_eq_some_iff.2 ⟨hcopy, rfl⟩
  · rw [Tables.pendingOf, hreservations]
    exact h.pending ▸ hn
  · rw [Tables.borrowedOnTitle, hloans, h.loans]
    rfl
  · rw [Tables.pendingOnTitle, hreservations]
    refine Table.filter_rows_eq_nil fun i r hr hp => ?_
    simp only [Bool.and_eq_true, decide_eq_true_eq] at hp
    exact hnew i r hr hp.1.2

/-- A user who is not above the cap may have a copy of a title held that nobody reserved. -/
theorem may_hold (h : s.Filled policy t userId n) (hn : (n : Int) ≤ policy.maxReservations)
    (he : policy.reservationHold.bind t.after = .ok expiry) {bookId : Int}
    (hbook : s.ledger.tables.books.contains bookId = true)
    (hnew : s.ledger.tables.reservations.All fun r => r.bookId ≠ bookId) :
    Reachable (Rules.desk policy) ((s.taking (s.ledger.lastId + 2)).keep 0 (s.holding bookId userId expiry)) := by
  have he : policy.reservationHold.bind s.clock.after = .ok expiry := by rw [h.clock]; exact he
  have hadded := (h.reachable.act (.begin 0) trivial).adds (Traffic.keep_self _ 0 _) rfl hbook rfl
  have hadded : Reachable (Rules.desk policy) ((s.taking (s.ledger.lastId + 1)).keep 0
      { base := s.ledger, began := s.journal.length
        draft := s.ledger.draft.putCopy (NewCopy.toRow ⟨bookId, s.clock⟩ (s.ledger.lastId + 1)) (s.ledger.lastId + 1) }) :=
    Traffic.keep_keep (s.taking (s.ledger.lastId + 1)) 0 _ _ ▸ hadded
  have hrow : (s.ledger.draft.putCopy (NewCopy.toRow ⟨bookId, s.clock⟩ (s.ledger.lastId + 1))
      (s.ledger.lastId + 1)).tables.copies.get? (NewCopy.toRow ⟨bookId, s.clock⟩ (s.ledger.lastId + 1)).id =
      some (NewCopy.toRow ⟨bookId, s.clock⟩ (s.ledger.lastId + 1)) := by
    simp [Draft.putCopy, NewCopy.toRow]
  have hheld := hadded.reserves (Traffic.keep_self _ 0 _) rfl hrow (h.refusal?_eq_none hn hnew s.clock rfl rfl hrow) he
    (Int.add_assoc s.ledger.lastId 1 1).symm
  exact Traffic.keep_keep (s.taking (s.ledger.lastId + 2)) 0 _ _ ▸ hheld

/-- A user who is not above the cap reserves a copy of a title that nobody reserved, in a transaction of its own, which takes
two ids. -/
theorem places (h : s.Filled policy t userId n) (hn : (n : Int) ≤ policy.maxReservations)
    (he : policy.reservationHold.bind t.after = .ok expiry) {bookId : Int}
    (hbook : s.ledger.tables.books.contains bookId = true) (hle : bookId ≤ s.ledger.lastId)
    (hnew : s.ledger.tables.reservations.All fun r => r.bookId ≠ bookId) :
    ∃ s', Traffic.Filled policy t userId (n + 1) s' ∧ s'.ledger.lastId = s.ledger.lastId + 2 := by
  have hheld := h.may_hold hn he hbook hnew
  have hlast : ∀ j r, s.ledger.tables.reservations.get? j = some r → j < s.ledger.lastId + 2 := fun j r hr =>
    Int.lt_of_le_of_lt (h.reachable.sound.ledger.reservations j r hr).2 (by omega)
  obtain ⟨l, hcom, hcommitted⟩ := hheld.commits (Traffic.keep_self _ 0 _) rfl rfl (by
    -- The one reservation that the transaction wrote is new, and those that it found are as they were.
    rintro ⟨-, j, r, q, q', -, -, -, hq, hcol, hq', hdone⟩
    have hne : j ≠ s.ledger.lastId + 2 := Int.ne_of_lt (hlast j q hq)
    have hsame : s.ledger.tables.reservations.get? j = some q' := by
      simpa [Traffic.holding, Draft.heldFor, Draft.putReservation, Draft.lock, Draft.putCopy, Ledger.draft, hne] using hq'
    cases hsame.symm.trans hq
    simp [Ledger.collides, hdone] at hcol)
  have hreservations : l.tables.reservations = s.ledger.tables.reservations.insert (s.ledger.lastId + 2)
      (NewReservation.toRow ⟨s.ledger.lastId + 1, bookId, userId, expiry, s.clock⟩ (s.ledger.lastId + 2)) := by
    rw [hcom.eq]
    exact Ledger.publish_one s.ledger.tables.reservations s.ledger.tables.reservations _ _
  have hlastId : l.lastId = s.ledger.lastId + 2 := hcom.lastId
  refine ⟨_, ⟨hcommitted, h.clock, ?_, ?_, ?_⟩, hlastId⟩
  · have hloans : l.tables.loans = s.ledger.tables.loans := by rw [hcom.eq]; rfl
    exact hloans.trans h.loans
  · have hlength : (l.tables.pendingOf userId).length = n + 1 := by
      rw [Tables.pendingOf, hreservations, Table.rows_insert_last _ hlast, List.filter_append, List.length_append]
      refine congrArg₂ (· + ·) h.pending ?_
      simp [NewReservation.toRow, Reservation.isPending]
    exact hlength
  · have hall : l.tables.reservations.All fun r => r.bookId ≤ l.lastId := by
      have hold : s.ledger.tables.reservations.All fun r => r.bookId ≤ s.ledger.lastId + 2 := fun j r hr =>
        Int.le_trans (h.titles j r hr) (by omega)
      rw [hreservations, hlastId]
      exact hold.insert (Int.le_trans hle (by omega))
    exact hall

/-- A title is added that nobody reserved yet. -/
theorem addBook (h : s.Filled policy t userId n) (title : String) : (s.act (.addBook title)).Filled policy t userId n where
  reachable := h.reachable.act (.addBook title) trivial
  clock := h.clock
  loans := h.loans
  pending := h.pending
  titles i r hr := Int.le_trans (h.titles i r hr) (Int.le_of_lt (Int.lt_succ _))

/-- A user who is not above the cap can have one more reservation pending, for three ids. -/
theorem step (h : s.Filled policy t userId n) (hn : (n : Int) ≤ policy.maxReservations)
    (he : policy.reservationHold.bind t.after = .ok expiry) :
    ∃ s', Traffic.Filled policy t userId (n + 1) s' ∧ s'.ledger.lastId = s.ledger.lastId + 3 := by
  have hbook : (s.act (.addBook "Emma")).ledger.tables.books.contains (s.ledger.lastId + 1) = true := by
    simp [Traffic.act, Ledger.addBook]
  have hnew : (s.act (.addBook "Emma")).ledger.tables.reservations.All fun r => r.bookId ≠ s.ledger.lastId + 1 :=
    fun i r hr heq => absurd (h.titles i r hr) (by omega)
  obtain ⟨s', hs', hids⟩ := (h.addBook "Emma").places hn he hbook (Int.le_refl _) hnew
  have hnext : (s.act (.addBook "Emma")).ledger.lastId = s.ledger.lastId + 1 := rfl
  exact ⟨s', hs', by omega⟩

/-- A user can have any number of reservations pending up to one more than the cap, for three ids each and one for the user. -/
theorem exists_of_le (he : policy.reservationHold.bind t.after = .ok expiry) (hn : (n : Int) ≤ policy.maxReservations + 1) :
    ∃ s, Traffic.Filled policy t 1 n s ∧ s.ledger.lastId = 3 * n + 1 := by
  induction n with
  | zero =>
    refine ⟨Traffic.act { clock := t } (.addUser "ann"),
      ⟨(Reachable.start t trivial).act _ trivial, rfl, rfl, rfl, fun i r hr => nomatch hr⟩, rfl⟩
  | succ n ih =>
    obtain ⟨s, hs, hids⟩ := ih (by omega)
    obtain ⟨s', hs', hids'⟩ := hs.step (by omega) he
    exact ⟨s', hs', by omega⟩

end Traffic.Filled

end Circulation
