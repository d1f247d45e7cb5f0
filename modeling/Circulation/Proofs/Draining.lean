import Circulation.Proofs.Listing
import Circulation.Proofs.SafeSweep
import Circulation.Proofs.Sessions
import Circulation.Proofs.WayOut
import Mathlib.Algebra.Order.Floor.Div

/-!
# Draining

With nobody else at work, sweeps drain the holds that have expired. The copy of a pending hold is on reserve for it and for nothing
else, so its cancellation goes through and no hold keeps the younger ones waiting: a sweep cancels the oldest of a batch, all of
them, and touches nothing else (`Reachable.drains`). By induction some sweeps cancel the oldest of as many batches
(`Reachable.sweeps`), until nothing is left to sweep (`sweeps_drain`).
-/

namespace Circulation

/-! ## What is swept -/

/-- Whether tables are what is left of others once some holds, whose copies were on reserve, have been cancelled at an instant: the
holds are fulfilled, their copies are on the shelf, and every other row is as it was. -/
structure Tables.Swept (t : Tables) (now : Instant) (holds : List Reservation) (t' : Tables) : Prop where
  reserved : ∀ r ∈ holds, ∃ c, t.copies.get? r.copyId = some c ∧ c.status = .onReserve ∧ c.isDeleted = false
  copies : ∀ id, t'.copies.get? id = (t.copies.get? id).map fun c =>
    if id ∈ holds.map (·.copyId) then { c with status := .available, updatedAt := now } else c
  reservations : ∀ id, t'.reservations.get? id = (t.reservations.get? id).map fun r =>
    if r ∈ holds then { r with status := .fulfilled, updatedAt := now } else r
  books : t'.books = t.books
  users : t'.users = t.users
  loans : t'.loans = t.loans
  entries : t'.entries = t.entries
  fines : t'.fines = t.fines

/-- Whether some holds are the oldest that tables have expired at an instant, as many as asked for or all there are. -/
structure Tables.Oldest (t : Tables) (now : Instant) (n : Nat) (holds : List Reservation) : Prop where
  count : holds.length = min n (t.lapsed now).length
  distinct : (holds.map (·.id)).Nodup
  lapsed : ∀ r ∈ holds, r ∈ t.lapsed now
  oldest : ∀ r ∈ holds, ∀ r' ∈ t.lapsed now, r' ∉ holds →
    r.createdAt < r'.createdAt ∨ r.createdAt = r'.createdAt ∧ r.id < r'.id

namespace Tables

variable {t t' t'' : Tables} {now : Instant} {holds holds' : List Reservation}

namespace Swept

theorem nil (t : Tables) (now : Instant) : t.Swept now [] t :=
  ⟨by simp, by simp, by simp, rfl, rfl, rfl, rfl, rfl⟩

/-- A hold that was not swept is still there. -/
theorem get?_reservation (h : t.Swept now holds t') {r : Reservation} (hr : t.reservations.get? r.id = some r)
    (hm : r ∉ holds) : t'.reservations.get? r.id = some r := by
  rw [h.reservations, hr, Option.map_some, if_neg hm]

/-- Holds may be swept one part after the other. -/
theorem append (h : t.Swept now holds t') (h' : t'.Swept now holds' t'') (hpending : ∀ r ∈ holds', r.isPending = true) :
    t.Swept now (holds ++ holds') t'' where
  reserved := by
    refine List.forall_mem_append.2 ⟨h.reserved, fun r hr => ?_⟩
    obtain ⟨c', hc', hstatus, hlive⟩ := h'.reserved r hr
    rw [h.copies] at hc'
    obtain ⟨c, hc, rfl⟩ := Option.map_eq_some_iff.1 hc'
    -- The copy is still on reserve, so no hold on it has been swept before.
    split at hstatus
    · cases hstatus
    · rename_i hnot
      rw [if_neg hnot] at hlive
      exact ⟨c, hc, hstatus, hlive⟩
  copies id := by
    rw [h'.copies, h.copies, Option.map_map]
    congr 1
    funext c
    by_cases hm : id ∈ holds.map (·.copyId) <;> by_cases hm' : id ∈ holds'.map (·.copyId) <;>
      simp only [Function.comp_apply, List.map_append, List.mem_append, hm, hm', if_true, if_false, or_true, or_false]
  reservations id := by
    rw [h'.reservations, h.reservations, Option.map_map]
    congr 1
    funext r
    have hfulfilled : { r with status := .fulfilled, updatedAt := now } ∉ holds' := fun hm => by cases hpending _ hm
    by_cases hm : r ∈ holds
    · simp only [Function.comp_apply, List.mem_append, hm, hfulfilled, if_true, if_false, true_or]
    · simp only [Function.comp_apply, List.mem_append, hm, if_false, false_or]
  books := h'.books.trans h.books
  users := h'.users.trans h.users
  loans := h'.loans.trans h.loans
  entries := h'.entries.trans h.entries
  fines := h'.fines.trans h.fines

/-- The holds that have expired are then those that were not swept. -/
theorem mem_lapsed {n n' : Int} (h : t.Swept now holds t') (hk : t.reservations.Keyed n) (hk' : t'.reservations.Keyed n')
    {r : Reservation} : r ∈ t'.lapsed now ↔ r ∈ t.lapsed now ∧ r ∉ holds := by
  rw [Tables.mem_lapsed hk, Tables.mem_lapsed hk']
  constructor
  · rintro ⟨hr, hpending, hdate⟩
    rw [h.reservations] at hr
    obtain ⟨r₀, hr₀, heq⟩ := Option.map_eq_some_iff.1 hr
    split at heq
    · subst heq
      cases hpending
    · rename_i hnot
      subst heq
      exact ⟨⟨hr₀, hpending, hdate⟩, hnot⟩
  · rintro ⟨⟨hr, hexpired⟩, hnot⟩
    exact ⟨h.get?_reservation hr hnot, hexpired⟩

end Swept

variable {n n' : Int}

/-- The queue is as long as there are holds that have expired. -/
theorem length_queue (t : Tables) (now : Instant) : (t.queue now).length = (t.lapsed now).length :=
  List.length_mergeSort _

/-- What is not among the first in the queue comes after them. -/
theorem mem_drop_queue (h : t.reservations.Keyed n) {k : Nat} {r : Reservation} :
    r ∈ (t.queue now).drop k ↔ r ∈ t.lapsed now ∧ r ∉ (t.queue now).take k := by
  have hnodup : (t.queue now).Nodup := (queue_nodup h now).of_map _
  rw [← List.take_append_drop k (t.queue now)] at hnodup
  constructor
  · intro hr
    exact ⟨mem_queue.1 (List.mem_of_mem_drop hr), fun hr' => List.disjoint_of_nodup_append hnodup hr' hr⟩
  · rintro ⟨hr, hnot⟩
    have hm := mem_queue.2 hr
    rw [← List.take_append_drop k (t.queue now), List.mem_append] at hm
    exact hm.resolve_left hnot

/-- The first in the queue are the oldest. -/
theorem oldest_take (h : t.reservations.Keyed n) (now : Instant) (k : Nat) : t.Oldest now k ((t.queue now).take k) where
  count := by rw [List.length_take, length_queue]
  distinct := (queue_nodup h now).sublist ((List.take_sublist _ _).map _)
  lapsed r hr := mem_queue.1 (List.mem_of_mem_take hr)
  oldest := by
    intro r hr r' hr' hnot
    have hsorted : (t.queue now).Pairwise fun a b => Listed.notAfter a b = true := Listed.sort_pairwise _
    rw [← List.take_append_drop k (t.queue now), List.pairwise_append] at hsorted
    have hbefore := Listed.notAfter_iff.1 (hsorted.2.2 r hr r' ((mem_drop_queue h).2 ⟨hr', hnot⟩))
    have hne : r.id ≠ r'.id := by
      intro hid
      have heq := List.inj_on_of_nodup_map (queue_nodup h now) (List.mem_of_mem_take hr) (mem_queue.2 hr') hid
      exact hnot (heq ▸ hr)
    exact hbefore.imp Instant.lt_iff_rank_lt.2 fun ⟨hrank, hid⟩ => ⟨Instant.eq_of_rank_eq hrank, lt_of_le_of_ne hid hne⟩

/-- When the first in the queue have been swept, the others are left in their order. -/
theorem Swept.queue_eq {k : Nat} (h : t.Swept now ((t.queue now).take k) t') (hk : t.reservations.Keyed n)
    (hk' : t'.reservations.Keyed n') : t'.queue now = (t.queue now).drop k := by
  have hnodup : ((t.queue now).drop k).Nodup := ((queue_nodup hk now).of_map _).sublist (List.drop_sublist _ _)
  have hperm : ((t.queue now).drop k).Perm (t'.lapsed now) := by
    refine (List.perm_ext_iff_of_nodup hnodup ((lapsed_nodup hk' now).of_map _)).2 fun r => ?_
    rw [h.mem_lapsed hk hk', mem_drop_queue hk]
  refine (Direction.eq_listed (d := .ascending) (fun r hr r' hr' hid => ?_) hperm ?_).symm
  · exact List.inj_on_of_nodup_map (lapsed_nodup hk' now) hr hr' hid
  · exact (Listed.sort_pairwise _).sublist (List.drop_sublist _ _)

end Tables

/-! ## One hold -/

/-- The commit of a cancellation that nobody comes before sweeps one hold. -/
theorem Transaction.Releasing.swept {x : Transaction} {r : Reservation} {c : Copy} {now : Instant} {n : Int}
    (h : x.Releasing r c now now) (hk : x.base.tables.reservations.Keyed n) :
    x.base.tables.Swept now [r] (Ledger.publishAll x.base.tables x.draft) := by
  rw [h.publishAll]
  refine ⟨?_, fun id => ?_, fun id => ?_, rfl, rfl, rfl, rfl, rfl⟩
  · rw [List.forall_mem_singleton, h.copyId]
    exact ⟨c, h.holding.row, h.reserved, h.holding.live⟩
  · rw [Table.get?_insert, List.map_singleton, h.copyId]
    by_cases hid : id = c.id
    · subst hid
      have hrow : x.base.tables.copies.get? c.id = some c := h.holding.row
      simp [hrow]
    · simp [hid]
  · rw [Table.get?_insert]
    by_cases hid : id = r.id
    · simp [hid, h.reservation]
    · cases ha : x.base.tables.reservations.get? id with
      | none => simp [hid]
      | some a =>
        have hne : a ≠ r := fun heq => hid ((hk id a ha).1.symm.trans (congrArg Reservation.id heq))
        simp [hid, hne]

/-- The answer to a request does not depend on how often the clock was read, rehearsed or not. -/
theorem Rehearsal.answer_readings {plan : List Entry} {timeline : Nat → Instant} {q : Request} {d : Draft} {n : Int}
    {counts after : Counts} {r : Except Stop q.Answer} {w : Work}
    (h : (store plan (Work.store timeline)).answer q (⟨d, n, 0⟩, counts) = (r, w, after)) (i : Nat) :
    (store plan (Work.store timeline)).answer q (⟨d, n, i⟩, counts) = (r, { w with readings := i }, after) := by
  simp only [store, passOn, Work.store] at h ⊢
  rw [Traffic.answer_readings]
  generalize planned? plan counts q.name = planned at h ⊢
  generalize q.emptyAnswer? = empty at h ⊢
  rcases planned with - | (why | -)
  · cases h
    rfl
  · cases h
    rfl
  · cases empty <;> (cases h; rfl)

namespace Session

variable {α : Type}

/-- What some work in an open transaction leaves of it and of its session. -/
def after (s : Session) (w : OpenWork) (done : Work × Rehearsal.Counts) : OpenWork × Session :=
  ({ w with draft := done.1.draft, counts := done.2 }, { s with ledger := { s.ledger with lastId := done.1.lastId } })

/-- As a source a session answers request by request as its transactions are answered. -/
theorem run_source_after (s : Session) (w : OpenWork) (p : Procedure α) (done : Work × Rehearsal.Counts) :
    p.run source.store (s.after w done) =
      ((p.run (s.store w.plan) done).1, s.after w (p.run (s.store w.plan) done).2) := by
  induction p generalizing done with
  | done a => rfl
  | stop why => rfl
  | clock next ih => exact ih s.clock ((s.store w.plan).now done).2
  | ask q next ih =>
    have hanswer : source.answer q (s.after w done) =
        (((s.store w.plan).answer q done).1, s.after w ((s.store w.plan).answer q done).2) := by
      obtain ⟨⟨d, n, i⟩, counts⟩ := done
      have hreadings : (s.store w.plan).answer q (⟨d, n, i⟩, counts) = _ := Rehearsal.answer_readings rfl i
      rw [hreadings]
      simp only [source, work, Procedure.run_request]
      rfl
    simp only [Procedure.run, Source.store, hanswer]
    rcases (s.store w.plan).answer q done with ⟨why | a, done'⟩
    · rfl
    · exact ih a done'

/-- As a source a session carries out what it carries out in an open transaction. -/
theorem run_source (s : Session) (w : OpenWork) (p : Procedure α) : p.run source.store (w, s) = s.work w p :=
  s.run_source_after w p (⟨w.draft, s.ledger.lastId, 0⟩, w.counts)

/-- With nobody else at work the cancellation of a pending hold is carried out and committed, and the hold is swept. -/
theorem sweeps_hold {s : Session} {r : Reservation} (hl : s.ledger.Sound) (h : s.ledger.tables.Consistent)
    (hr : s.ledger.tables.reservations.get? r.id = some r) (hpending : r.isPending = true) :
    ∃ a w s₁ l, s.work (s.begin []) (Desk.cancelReservation r.id) = (.ok a, w, s₁) ∧
      s₁.commit w = (.ok (), { s with ledger := l }) ∧ s.ledger.tables.Swept s.clock [r] l.tables := by
  obtain ⟨copy, hcopy⟩ := Table.contains_iff.1 (h.reservations _ r hr)
  have hstatus : copy.status = .onReserve := h.status_of_held hcopy ⟨r, hr, rfl, hpending⟩
  have hlive : copy.isDeleted = false := by
    cases hd : copy.isDeleted with
    | false => rfl
    | true => cases hstatus.symm.trans (h.withdrawn _ copy hcopy hd)
  have hpass : (Operation.cancelReservation r.id).refusal? {} s.ledger.draft.tables = none := by
    have hfound : s.ledger.tables.liveCopy? r.copyId = some copy := by simp [Tables.liveCopy?, hcopy, hlive]
    simp [Operation.refusal?, wanting, Ledger.draft, hr, hfound, Reservation.releaseTests, hstatus, hpending]
  have hconcludes : (Desk.cancelReservation r.id).Concludes (fun _ => s.clock)
      (fun _ w => ∃ l, { s.ledger with lastId := w.lastId }.commit w.draft = .ok l ∧ s.ledger.tables.Swept s.clock [r] l.tables)
      (fun _ _ => False) ⟨s.ledger.draft, s.ledger.lastId, 0⟩ := by
    refine Desk.cancelReservation_concludes (.begin hl)
      (fun why _ hwhy => Option.some_ne_none why (hwhy.symm.trans hpass)) ?_
    intro c b m _ hid hb _ hcopyId hc hreserved hle
    cases (hid ▸ hb).symm.trans hr
    let x : Transaction := { base := s.ledger, began := 0, draft := (s.ledger.draft.lock c.id).letGo c r s.clock s.clock }
    have hreleasing : x.Releasing r c s.clock s.clock := ⟨hc, hreserved, hr, hpending, hcopyId, rfl⟩
    have hgrown : s.ledger.Grown { s.ledger with lastId := m } := ⟨hle, rfl, rfl⟩
    obtain ⟨l, hok, -⟩ := Ledger.commit_letGo hl hgrown hc hr
    refine ⟨l, hok, ?_⟩
    obtain ⟨-, rfl⟩ := Ledger.commit_eq_ok_iff.1 hok
    exact hreleasing.swept hl.reservations
  obtain ⟨a, w, hrun, l, hok, hswept⟩ := hconcludes.exists_run
  obtain ⟨counts, hwork⟩ := work_eq (s := s) (w := s.begin []) rfl (Desk.cancelReservation r.id)
  rw [show (s.begin []).draft = s.ledger.draft from rfl, hrun] at hwork
  exact ⟨a, _, _, l, hwork, by simp only [commit, hok], hswept⟩

/-- What a sweep of a session reads: the holds that have expired by its clock. -/
theorem scan_eq (s : Session) (batch : Int) :
    Sweep.scan source batch s = (.ok (s.ledger.tables.expired s.clock batch), s) := rfl

/-- How many holds have expired by the clock of a session. -/
def expired (s : Session) : Nat :=
  (s.ledger.tables.lapsed s.clock).length

/-- What is left of a session after some sweeps, one after the other. -/
def sweeps (s : Session) (batch : Int) : Nat → Session
  | 0 => s
  | k + 1 => (Sweep.once source batch (s.sweeps batch k)).2

/-- A sweep that finds nothing changes nothing, be it that nothing has expired or that the batch is empty. -/
theorem once_of_nothing {s : Session} {batch : Int} (h : s.expired = 0 ∨ batch ≤ 0) :
    Sweep.once source batch s = (.ok ⟨0, 0, 0, 0⟩, s) := by
  have hnil : s.ledger.tables.expired s.clock batch = [] := by
    rw [Tables.expired_eq_take, List.take_eq_nil_iff, ← List.length_eq_zero_iff, Tables.length_queue, Int.toNat_eq_zero]
    exact h.symm
  simp only [Sweep.once, scan_eq, hnil, Sweep.cancelAll, List.length_nil]

/-- Whether sweeps of a session, one after the other, drain the holds that have expired by its clock. -/
structure Drains (s : Session) (batch : Int) : Prop where
  once : ∃ holds l, Sweep.once source batch s =
      (.ok ⟨min batch.toNat s.expired, min batch.toNat s.expired, 0, 0⟩, { s with ledger := l }) ∧
    s.ledger.tables.Oldest s.clock batch.toNat holds ∧ s.ledger.tables.Swept s.clock holds l.tables
  again : ∀ k, ∃ holds l, s.sweeps batch k = { s with ledger := l } ∧
    s.ledger.tables.Oldest s.clock (k * batch.toNat) holds ∧ s.ledger.tables.Swept s.clock holds l.tables
  report : ∀ k, (Sweep.once source batch (s.sweeps batch k)).1 =
    .ok ⟨min batch.toNat (s.expired - k * batch.toNat), min batch.toNat (s.expired - k * batch.toNat), 0, 0⟩
  drained : (s.sweeps batch (s.expired ⌈/⌉ batch.toNat)).expired = 0
  unchanged : Sweep.once source batch (s.sweeps batch (s.expired ⌈/⌉ batch.toNat)) =
    (.ok ⟨0, 0, 0, 0⟩, s.sweeps batch (s.expired ⌈/⌉ batch.toNat))

end Session

/-- A report counts as many cancelled as there are. -/
theorem SweepReport.counting_replicate (report : SweepReport) (n : Nat) :
    report.counting (List.replicate n .cancelled) = { report with cancelled := report.cancelled + n } := by
  simp [counting_eq, List.count_replicate]

/-- The desk with the ledger and the clock of some traffic and nobody at work. -/
def Traffic.session (s : Traffic) : Session where
  ledger := s.ledger
  clock := s.clock

/-- Under one clock sessions of traffic differ in the ledger only. -/
theorem Traffic.session_eq {s s' : Traffic} (h : s'.clock = s.clock) : s'.session = { s.session with ledger := s'.ledger } :=
  congrArg (fun clock => ({ ledger := s'.ledger, clock := clock } : Session)) h

namespace Reachable

variable {policy : Policy} {s : Traffic}

/-- With nobody else at work a pending hold is cancelled, and the ledger is again one that transactions of desk operations lead
to. -/
theorem handles (h : Reachable (Rules.desk policy) s) {r : Reservation}
    (hr : s.ledger.tables.reservations.get? r.id = some r) (hpending : r.isPending = true) :
    ∃ s', Reachable (Rules.desk policy) s' ∧ s'.clock = s.clock ∧
      Handles Session.source r.id s.session .cancelled s'.session ∧
      s.ledger.tables.Swept s.clock [r] s'.ledger.tables := by
  obtain ⟨a, w, s₁, l, hwork, hcommit, hswept⟩ :=
    Session.sweeps_hold (s := s.session) h.sound.ledger ((agreement policy).holds h).good hr hpending
  -- The session does in a transaction of its own what the traffic does in one that begins now.
  obtain ⟨number, -, hk⟩ := Session.exists_numbering
  have hruns : Session.RunsAs number s.session s := ⟨rfl, rfl, fun _ _ h => nomatch h⟩
  obtain ⟨s', hreach, hruns'⟩ := hruns.exists_transact (p := Desk.cancelReservation r.id) (o := .cancelReservation r.id) h hk rfl
  simp only [Session.transact, hwork, hcommit] at hruns'
  obtain rfl : s'.ledger = l := hruns'.ledger
  refine ⟨s', hreach, hruns'.clock, ?_, hswept⟩
  rw [Traffic.session_eq hruns'.clock]
  refine .cancelled rfl ((Session.run_source _ _ _).trans hwork) ?_
  simp only [Session.source, hcommit]

/-- With nobody else at work pending holds are cancelled one after the other, all of them. -/
theorem handlesAll (h : Reachable (Rules.desk policy) s) {holds : List Reservation}
    (hrows : ∀ r ∈ holds, s.ledger.tables.reservations.get? r.id = some r) (hpending : ∀ r ∈ holds, r.isPending = true)
    (hnodup : holds.Nodup) :
    ∃ s', Reachable (Rules.desk policy) s' ∧ s'.clock = s.clock ∧
      HandlesAll Session.source holds s.session (List.replicate holds.length .cancelled) s'.session ∧
      s.ledger.tables.Swept s.clock holds s'.ledger.tables := by
  induction holds generalizing s with
  | nil => exact ⟨s, h, rfl, .nil _, .nil _ _⟩
  | cons hold holds ih =>
    rw [List.forall_mem_cons] at hrows hpending
    obtain ⟨hnew, hnodup⟩ := List.nodup_cons.1 hnodup
    obtain ⟨s₁, hreach, hclock, hone, hswept⟩ := h.handles hrows.1 hpending.1
    have hrows' : ∀ r ∈ holds, s₁.ledger.tables.reservations.get? r.id = some r := fun r hr =>
      hswept.get?_reservation (hrows.2 r hr) fun hm => hnew (List.mem_singleton.1 hm ▸ hr)
    obtain ⟨s', hreach', hclock', hall, hswept'⟩ := ih hreach hrows' hpending.2 hnodup
    rw [hclock] at hclock' hswept'
    exact ⟨s', hreach', hclock', .cons hone hall, hswept.append hswept' hpending.2⟩

/-! ## One sweep -/

/-- With nobody else at work a sweep cancels the first of the queue, a batch at most, and nothing else. -/
theorem drains (h : Reachable (Rules.desk policy) s) (batch : Int) :
    ∃ s', Reachable (Rules.desk policy) s' ∧ s'.clock = s.clock ∧
      s.ledger.tables.Swept s.clock ((s.ledger.tables.queue s.clock).take batch.toNat) s'.ledger.tables ∧
      Sweep.once Session.source batch s.session =
        (.ok ⟨min batch.toNat s.session.expired, min batch.toNat s.session.expired, 0, 0⟩, s'.session) := by
  have hkeyed := h.sound.ledger.reservations
  have hfirst := Tables.oldest_take hkeyed s.clock batch.toNat
  obtain ⟨s', hreach, hclock, hall, hswept⟩ := h.handlesAll
    (fun r hr => ((Tables.mem_lapsed hkeyed).1 (hfirst.lapsed r hr)).1)
    (fun r hr => ((Tables.mem_lapsed hkeyed).1 (hfirst.lapsed r hr)).2.1) (hfirst.distinct.of_map _)
  refine ⟨s', hreach, hclock, hswept, ?_⟩
  simp only [Sweep.once, Session.scan_eq, Session.expired, Traffic.session, Tables.expired_eq_take, ← hfirst.count]
  refine cancelAll_ok_iff.2 ⟨_, hall, ?_⟩
  rw [SweepReport.counting_replicate, Nat.zero_add]

/-! ## Some sweeps -/

/-- Some sweeps, with nobody else at work, cancel the first of the queue, as many batches at most, and leave the others in it. -/
theorem sweeps (h : Reachable (Rules.desk policy) s) (batch : Int) (k : Nat) :
    ∃ s', Reachable (Rules.desk policy) s' ∧ s'.clock = s.clock ∧ s.session.sweeps batch k = s'.session ∧
      s.ledger.tables.Swept s.clock ((s.ledger.tables.queue s.clock).take (k * batch.toNat)) s'.ledger.tables ∧
      s'.ledger.tables.queue s.clock = (s.ledger.tables.queue s.clock).drop (k * batch.toNat) := by
  induction k with
  | zero =>
    rw [Nat.zero_mul, List.take_zero, List.drop_zero]
    exact ⟨s, h, rfl, rfl, .nil _ _, rfl⟩
  | succ k ih =>
    obtain ⟨s₁, hreach, hclock, hsweeps, hswept, hqueue⟩ := ih
    obtain ⟨s', hreach', hclock', hswept', honce⟩ := hreach.drains batch
    rw [hclock, hqueue] at hswept'
    have hall := hswept.append hswept' fun r hr => ?_
    · rw [← List.take_add, ← Nat.succ_mul] at hall
      exact ⟨s', hreach', hclock'.trans hclock, by rw [Session.sweeps, hsweeps, honce], hall,
        hall.queue_eq h.sound.ledger.reservations hreach'.sound.ledger.reservations⟩
    · have hm := List.mem_of_mem_drop (List.mem_of_mem_take hr)
      exact ((Tables.mem_lapsed h.sound.ledger.reservations).1 (Tables.mem_queue.1 hm)).2.1

/-- After some sweeps as many batches less have expired. -/
theorem expired_sweeps (h : Reachable (Rules.desk policy) s) (batch : Int) (k : Nat) :
    (s.session.sweeps batch k).expired = s.session.expired - k * batch.toNat := by
  obtain ⟨s', -, hclock, hsweeps, -, hqueue⟩ := h.sweeps batch k
  have hleft := congrArg List.length hqueue
  rw [List.length_drop, Tables.length_queue, Tables.length_queue] at hleft
  rw [hsweeps, Session.expired]
  simp only [Traffic.session, hclock]
  exact hleft

/-- After as many sweeps as there are batches none is left. -/
theorem none_expired (h : Reachable (Rules.desk policy) s) {batch : Int} (hbatch : 0 < batch) :
    (s.session.sweeps batch (s.session.expired ⌈/⌉ batch.toNat)).expired = 0 := by
  have hle := le_smul_ceilDiv (b := s.session.expired) (Int.pos_iff_toNat_pos.1 hbatch)
  rw [h.expired_sweeps, Nat.mul_comm]
  exact Nat.sub_eq_zero_of_le hle

end Reachable

/-- From every ledger that transactions of desk operations lead to, with nobody else at work and whatever the clock reads, sweeps
drain the holds that have expired. A sweep cancels the oldest of them, a batch or all there are, and its report says so; their
copies are back on the shelf, and all else is as it was. After as many sweeps as there are batches none is left, and a further
sweep changes nothing. Nor does one whose batch is empty. -/
theorem sweeps_drain {policy : Policy} {s : Traffic} (h : Reachable (Rules.desk policy) s) (batch : Int) :
    (0 < batch → s.session.Drains batch) ∧
      (batch ≤ 0 → Sweep.once Session.source batch s.session = (.ok ⟨0, 0, 0, 0⟩, s.session)) := by
  have holdest := Tables.oldest_take h.sound.ledger.reservations s.clock
  refine ⟨fun hbatch => ?_, fun hbatch => Session.once_of_nothing (.inr hbatch)⟩
  constructor
  · obtain ⟨s', -, hclock, hswept, honce⟩ := h.drains batch
    exact ⟨_, s'.ledger, Traffic.session_eq hclock ▸ honce, holdest _, hswept⟩
  · intro k
    obtain ⟨s', -, hclock, hsweeps, hswept, -⟩ := h.sweeps batch k
    exact ⟨_, s'.ledger, hsweeps.trans (Traffic.session_eq hclock), holdest _, hswept⟩
  · intro k
    obtain ⟨s', hreach, hclock, hsweeps, -, -⟩ := h.sweeps batch k
    obtain ⟨s'', -, -, -, honce⟩ := hreach.drains batch
    rw [← h.expired_sweeps, hsweeps, honce]
  · exact h.none_expired hbatch
  · exact Session.once_of_nothing (.inl (h.none_expired hbatch))

/-- Of four holds that have expired three are cancelled by the first sweep and the youngest by the second. -/
theorem fourExpired_drained : Reachable (Rules.desk {}) fourExpired ∧ fourExpired.session.expired = 4 ∧
    (Sweep.once Session.source 3 fourExpired.session).1 = .ok ⟨3, 3, 0, 0⟩ ∧
    (Sweep.once Session.source 3 (fourExpired.session.sweeps 3 1)).1 = .ok ⟨1, 1, 0, 0⟩ ∧
    (fourExpired.session.sweeps 3 2).expired = 0 ∧ fourExpired.session.Drains 3 ∧
    Sweep.once Session.source (-1) fourExpired.session = (.ok ⟨0, 0, 0, 0⟩, fourExpired.session) :=
  ⟨busy_reachable, by decide +kernel, by cbv, by cbv, by cbv, (sweeps_drain busy_reachable 3).1 (by decide),
    (sweeps_drain busy_reachable (-1)).2 (by decide)⟩

end Circulation
