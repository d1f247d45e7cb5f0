import Circulation.Proofs.Releasing
import Circulation.Proofs.Sweeping

/-!
# A sweep amid others

A sweep is safe whatever desk operations others carry out and commit between and during its transactions (`sweep_is_safe`).
It always ends with a report and nothing in it has failed. A hold is counted as cancelled exactly if a commit of the
sweep's own released it. A hold that someone else closed first is skipped, and what has become of its copy since, be it
lent, withdrawn or held again, is left alone. And the sweep closes only holds that were pending and expired when it began.
-/

namespace Circulation

open Lasting

/-! ## What a cancellation may be refused with -/

/-- Whether a request is answered whatever the draft. -/
def Request.Answered (q : Request) : Prop :=
  ∀ w, ∃ a w', Work.answer q w = (.ok a, w')

namespace Procedure

variable {α β : Type}

/-- Whether all requests of a procedure are answered, and it stops with nothing but refusals that make a hold skipped. -/
def Skips : Procedure α → Prop
  | .done _ => True
  | .stop why => ∃ r, why = .refused r ∧ Fate.ofRefusal r = .skipped
  | .clock next => ∀ t, (next t).Skips
  | .ask q next => q.Answered ∧ ∀ a, (next a).Skips

/-- A procedure skips and goes on with one that skips. -/
theorem Skips.bind {p : Procedure α} {f : α → Procedure β} (hp : p.Skips) (hf : ∀ a, (f a).Skips) : (p.bind f).Skips := by
  induction p with
  | done a => exact hf a
  | stop why => exact hp
  | clock next ih => exact fun t => ih t (hp t)
  | ask q next ih => exact ⟨hp.1, fun a => ih a (hp.2 a)⟩

/-- A refusal that makes a hold skipped is one to stop with. -/
theorem skips_refuse {why : Refusal} (h : Fate.ofRefusal why = .skipped) : (refuse why : Procedure α).Skips :=
  ⟨why, rfl, h⟩

/-- What is missing may be refused so that the hold is skipped. -/
theorem skips_require (a : Option α) {why : Refusal} (h : Fate.ofRefusal why = .skipped) : (require a why).Skips := by
  cases a with
  | some a => trivial
  | none => exact skips_refuse h

/-- What is not so may be refused so that the hold is skipped. -/
theorem skips_ensure (condition : Bool) {why : Refusal} (h : Fate.ofRefusal why = .skipped) :
    (ensure condition why).Skips := by
  cases condition with
  | true => trivial
  | false => exact skips_refuse h

/-- A request that is answered whatever the draft does not stop. -/
theorem skips_request {q : Request} (h : q.Answered) : (request q).Skips :=
  ⟨h, fun _ => trivial⟩

/-- A reading of the clock does not stop. -/
theorem skips_now : now.Skips :=
  fun _ => trivial

/-- Amid others, what such a procedure is refused with makes a hold skipped. -/
theorem Skips.run_error {p : Procedure α} (hp : p.Skips) {x x' : Transaction} {s s' : Amid} {why : Stop}
    (h : p.run Amid.source.store (x, s) = (.error why, (x', s'))) : ∃ r, why = .refused r ∧ Fate.ofRefusal r = .skipped := by
  induction p generalizing x s with
  | done a => cases h
  | stop why =>
    cases h
    exact hp
  | clock next ih => exact ih _ (hp _) h
  | ask q next ih =>
    obtain ⟨a, w, hw⟩ := hp.1 ⟨x.draft, s.pass.traffic.ledger.lastId, 0⟩
    simp only [run, Source.store, Amid.source, hw] at h
    exact ih a (hp.2 a) h

end Procedure

/-- A copy is looked up for the lock whatever the draft. -/
theorem Request.answered_lockCopy (id : Int) : (Request.lockCopy id).Answered := by
  intro w
  simp only [Work.answer]
  split
  · exact ⟨_, _, rfl⟩
  · exact ⟨_, _, rfl⟩

/-- Whatever stands against a cancellation makes the hold skipped: the reservation is gone or not pending, or its copy is
gone or not on reserve. -/
theorem Desk.cancelReservation_skips (id : Int) : (cancelReservation id).Skips := by
  have hget : (Holds.get id).Skips :=
    (Procedure.skips_request fun _ => ⟨_, _, rfl⟩).bind fun r => Procedure.skips_require r rfl
  have hlock (copyId : Int) : (lockCopy copyId).Skips :=
    (Procedure.skips_request (Request.answered_lockCopy copyId)).bind fun c => Procedure.skips_require c rfl
  have hfulfil (r : Reservation) : (Holds.fulfil r).Skips :=
    (Procedure.skips_ensure _ rfl).bind fun _ => Procedure.skips_now.bind fun t =>
      (Procedure.skips_request fun _ => ⟨_, _, rfl⟩).bind fun moved => (Procedure.skips_ensure moved rfl).bind fun _ => trivial
  have hmove (c : Copy) : (moveCopy c .available).Skips :=
    Procedure.skips_now.bind fun t =>
      (Procedure.skips_request fun _ => ⟨_, _, rfl⟩).bind fun moved => Procedure.skips_ensure moved rfl
  exact hget.bind fun r => (hlock r.copyId).bind fun c => (Procedure.skips_ensure _ rfl).bind fun _ =>
    (hfulfil r).bind fun r' => (hmove c).bind fun _ => trivial

/-! ## One hold -/

/-- Whether a ledger has a hold, whatever has become of it. -/
def Ledger.Knows (l : Ledger) (hold : Reservation) : Prop :=
  ∃ r, l.tables.reservations.get? hold.id = some r ∧ lasting r = lasting hold

/-- A hold that a ledger knows is known later. -/
theorem Ledger.Knows.since {l l' : Ledger} {hold : Reservation} {committed : List Transaction} (h : l.Knows hold)
    (hs : l.Since l' committed) : l'.Knows hold := by
  obtain ⟨r, hr, hlast⟩ := h
  obtain ⟨r', hr', hlast'⟩ := hs.reservations hold.id r hr
  exact ⟨r', hr', hlast'.trans hlast⟩

namespace Amid

variable {policy : Policy} {k : Nat} {t : Traffic} {s : Amid} {x : Transaction}

/-- A cancellation amid others releases a hold in its draft, or is refused with what makes the hold skipped. -/
theorem run_cancelReservation (hr : Reachable (Rules.desk policy) t) (h : s.Led policy k t none) (id : Int) :
    ∃ result d s', (Desk.cancelReservation id).run source.store (s.begun, s) = (result, ({ s.begun with draft := d }, s')) ∧
      s'.own = s.own ∧
      (∀ r', result = .ok r' → (∃ r c t t', r.id = id ∧ Transaction.Releasing { s.begun with draft := d } r c t t') ∧
        s'.Led policy k t (some { s.begun with draft := d, doing := some (.done []) })) ∧
      ∀ why, result = .error why → (∃ r, why = .refused r ∧ Fate.ofRefusal r = .skipped) ∧ s'.Led policy k t none := by
  have hsound : s.traffic.ledger.Sound := (hr.leads h.leads_traffic).sound.ledger
  have hensures : (Desk.cancelReservation id).Ensures (Rules.desk policy)
      (fun _ d _ => ∃ r c t t', r.id = id ∧ Transaction.Releasing { s.begun with draft := d } r c t t')
      (fun _ _ => True) s.begun.draft s.traffic.moment := by
    refine Desk.cancelReservation_releases (.begin hsound) ?_ ⟨trivial, fun _ _ => trivial, fun _ _ _ _ => trivial⟩
    intro r c _ t t' _ _ hid _ hc hstatus hrow hp hrc
    exact ⟨r, c, t, t', hid, hc, hstatus, hrow, hp, hrc, rfl⟩
  obtain ⟨result, d, s', hrun, hown, hok, herror⟩ := run_led (h.begin (.cancelReservation id)) hensures
  refine ⟨result, d, s', hrun, hown, hok, fun why hwhy => ⟨?_, herror why hwhy⟩⟩
  subst hwhy
  exact (Desk.cancelReservation_skips id).run_error hrun

/-- A cancellation is committed amid others by closing the hold, or refused with a conflict. -/
theorem commit_releasing {hold r : Reservation} {c : Copy} {t₁ t₂ : Instant} (hr : Reachable (Rules.desk policy) t)
    (h : s.Led policy k t (some { x with doing := some (.done []) })) (hd : x.doing = none) (hx : x.Releasing r c t₁ t₂)
    (hid : r.id = hold.id) (hknows : t.ledger.Knows hold) :
    ∃ ended s', source.commit x s = (ended, s') ∧ s'.Led policy k t none ∧
      ((∃ clash, ended = .error (.refused (.conflict clash)) ∧ s'.own = s.own) ∨
        ended = .ok () ∧ ∃ own, s'.own = s.own ++ [own] ∧ own.Cancels s'.traffic.journal hold) := by
  have hrest := h.pass.rest hd
  cases hl : s.pass.traffic.ledger.commit x.draft with
  | error why =>
    obtain ⟨-, clash, rfl⟩ := Ledger.commit_eq_conflict hl
    exact ⟨.error (.refused (.conflict clash)), s.pass, by simp only [source, hl], hrest.rollback, .inl ⟨clash, rfl, rfl⟩⟩
  | ok l =>
    refine ⟨.ok (), s.pass.committed x l, by simp only [source, hl], hrest.committed hd hl, .inr ⟨rfl, _, rfl, ?_⟩⟩
    -- To the others the transaction is one of theirs, so what holds of theirs holds of it.
    have hreach := hr.leads hrest.leads
    have hopened := s.pass.traffic.place_opened (k := k) (some x)
    have hholds := (agreement policy).holds hreach
    have hcom := hreach.sound.committing hopened hl
    have hcloses := hcom.closes (hholds.opened k x hopened).moved hholds.good hx s.pass.traffic.journal.length
    obtain ⟨js, -, hsince⟩ := hrest.leads.since hr
    obtain ⟨r', hr', hlast⟩ := hknows.since hsince
    rw [← hid] at hr'
    cases hcloses.reservation.symm.trans hr'
    exact ⟨⟨r, c, t₁, t₂, hlast, hcloses⟩, x, by simp [committed], hid ▸ hx.closedBy⟩

/-- Amid others a hold is skipped and nothing committed, or it is cancelled by a commit that closes it. -/
theorem handles (hr : Reachable (Rules.desk policy) s.traffic) (h : s.Ready policy k) {hold : Reservation}
    (hknows : s.traffic.ledger.Knows hold) :
    ∃ fate s', Handles source hold.id s fate s' ∧ s'.Led policy k s.traffic none ∧
      (fate = .skipped ∧ s'.own = s.own ∨
        fate = .cancelled ∧ ∃ own, s'.own = s.own ++ [own] ∧ own.Cancels s'.traffic.journal hold) := by
  obtain ⟨result, d, s₂, hrun, hown, hok, herror⟩ := run_cancelReservation hr h.led.pass hold.id
  cases result with
  | error why =>
    obtain ⟨⟨r, rfl, hskipped⟩, hled⟩ := herror why rfl
    refine ⟨.ofRefusal r, s₂, .refused rfl hrun, hled, .inl ⟨hskipped, hown⟩⟩
  | ok r' =>
    obtain ⟨⟨r, c, t₁, t₂, hid, hx⟩, hled⟩ := hok r' rfl
    obtain ⟨ended, s₃, hcommit, hled₃, hended⟩ := commit_releasing hr hled rfl hx hid hknows
    rcases hended with ⟨clash, rfl, hown₃⟩ | ⟨rfl, own, hown₃, hcancels⟩
    · exact ⟨.skipped, s₃, .uncommitted rfl hrun hcommit, hled₃, .inl ⟨rfl, hown₃.trans hown⟩⟩
    · refine ⟨.cancelled, s₃, .cancelled rfl hrun hcommit, hled₃, .inr ⟨rfl, own, ?_, hcancels⟩⟩
      rw [hown₃, hown]
      rfl

end Amid

/-! ## All of them -/

/-- Whether the fates of some holds account for some commits, which stand in a journal: each hold is skipped, or is cancelled
by the next of the commits. -/
inductive Accounts (journal : List Transaction) : List Reservation → List Fate → List OwnCommit → Prop where
  | nil : Accounts journal [] [] []
  | skipped {hold : Reservation} {holds : List Reservation} {fates : List Fate} {owns : List OwnCommit} :
    Accounts journal holds fates owns → Accounts journal (hold :: holds) (.skipped :: fates) owns
  | cancelled {hold : Reservation} {holds : List Reservation} {fates : List Fate} {own : OwnCommit} {owns : List OwnCommit} :
    own.Cancels journal hold → Accounts journal holds fates owns →
      Accounts journal (hold :: holds) (.cancelled :: fates) (own :: owns)

namespace Accounts

variable {journal : List Transaction} {holds : List Reservation} {fates : List Fate} {owns : List OwnCommit}

/-- There is a fate for every hold. -/
theorem length_eq (h : Accounts journal holds fates owns) : fates.length = holds.length := by
  induction h with
  | nil => rfl
  | skipped _ ih => simp [ih]
  | cancelled _ _ ih => simp [ih]

/-- There are as many commits as holds cancelled. -/
theorem count_cancelled (h : Accounts journal holds fates owns) : fates.count .cancelled = owns.length := by
  induction h with
  | nil => rfl
  | skipped _ ih => simp [ih]
  | cancelled _ _ ih => simp [ih]

/-- No hold of them has failed. -/
theorem not_failed (h : Accounts journal holds fates owns) : Fate.failed ∉ fates := by
  induction h with
  | nil => simp
  | skipped _ ih => simp [ih]
  | cancelled _ _ ih => simp [ih]

/-- What is cancelled is cancelled by one of the commits. -/
theorem cancels (h : Accounts journal holds fates owns) {hold : Reservation} (hm : (hold, .cancelled) ∈ holds.zip fates) :
    ∃ own ∈ owns, own.Cancels journal hold := by
  induction h with
  | nil => cases hm
  | skipped _ ih =>
    rcases List.mem_cons.1 hm with heq | hm
    · cases heq
    · exact ih hm
  | @cancelled _ _ _ own _ hcancels _ ih =>
    rcases List.mem_cons.1 hm with heq | hm
    · cases heq
      exact ⟨own, List.mem_cons_self, hcancels⟩
    · obtain ⟨own, hown, hcancels⟩ := ih hm
      exact ⟨own, List.mem_cons_of_mem _ hown, hcancels⟩

/-- Each of the commits cancels a hold, which is counted as cancelled. -/
theorem cancelled_of_mem (h : Accounts journal holds fates owns) {own : OwnCommit} (hm : own ∈ owns) :
    ∃ hold, (hold, .cancelled) ∈ holds.zip fates ∧ own.Cancels journal hold := by
  induction h with
  | nil => cases hm
  | skipped _ ih =>
    obtain ⟨hold, hzip, hcancels⟩ := ih hm
    exact ⟨hold, List.mem_cons_of_mem _ hzip, hcancels⟩
  | @cancelled hold _ _ _ _ hcancels _ ih =>
    rcases List.mem_cons.1 hm with rfl | hm
    · exact ⟨hold, List.mem_cons_self, hcancels⟩
    · obtain ⟨hold, hzip, hcancels⟩ := ih hm
      exact ⟨hold, List.mem_cons_of_mem _ hzip, hcancels⟩

/-- Each hold has one fate. -/
theorem fate_eq (h : Accounts journal holds fates owns) (hids : (holds.map Reservation.id).Nodup) {a b : Reservation}
    {f g : Fate} (ha : (a, f) ∈ holds.zip fates) (hb : (b, g) ∈ holds.zip fates) (hid : a.id = b.id) : f = g := by
  have hzip : ((holds.zip fates).map fun p => p.1.id).Nodup := by
    rw [← Function.comp_def Reservation.id, ← List.map_map, List.map_fst_zip (Nat.le_of_eq h.length_eq.symm)]
    exact hids
  exact congrArg Prod.snd (List.inj_on_of_nodup_map hzip ha hb hid)

variable {hold : Reservation} {fate : Fate}

/-- A hold is counted as cancelled exactly if one of the commits released it. -/
theorem cancelled_iff (h : Accounts journal holds fates owns) (hids : (holds.map Reservation.id).Nodup)
    (hm : (hold, fate) ∈ holds.zip fates) : fate = .cancelled ↔ ∃ own ∈ owns, own.Releases hold := by
  constructor
  · rintro rfl
    obtain ⟨own, hown, hcancels⟩ := h.cancels hm
    exact ⟨own, hown, hcancels.releases⟩
  · rintro ⟨own, hown, hreleases⟩
    obtain ⟨hold', hm', hcancels⟩ := h.cancelled_of_mem hown
    obtain ⟨r, c, t, t', hlast, hcloses⟩ := hcancels.closes
    have hid : r.id = hold'.id := id_eq hlast
    exact h.fate_eq hids hm hm' ((hcloses.eq_of_releases hreleases).trans hid)

/-- A hold that is closed elsewhere in the journal than by one of the commits is skipped. -/
theorem skipped_of_closed {t : Tables} (h : Accounts journal holds fates owns) (ht : Closable.reservations.Tallied t journal)
    (hm : (hold, fate) ∈ holds.zip fates) {i : Nat} {x : Transaction} (hx : journal[i]? = some x)
    (hothers : ∀ own ∈ owns, own.position ≠ i) (hclosed : Closable.reservations.ClosedBy x hold.id) : fate = .skipped := by
  cases fate with
  | skipped => rfl
  | failed => exact absurd (List.of_mem_zip hm).2 h.not_failed
  | cancelled =>
    obtain ⟨own, hown, hcancels⟩ := h.cancels hm
    obtain ⟨y, hy, hyclosed⟩ := hcancels.recorded
    exact absurd (ht.eq_of_closedBy hy hx hyclosed hclosed) (hothers own hown)

/-- No commit touches the copy of a hold that is skipped, if the holds are on different copies. -/
theorem sameOn_of_skipped (h : Accounts journal holds fates owns) (hids : (holds.map Reservation.id).Nodup)
    (hcopies : ∀ a b, a ∈ holds → b ∈ holds → a.copyId = b.copyId → a.id = b.id)
    (hm : (hold, .skipped) ∈ holds.zip fates) {own : OwnCommit} (hown : own ∈ owns) :
    own.met.tables.SameOn own.left.tables hold.copyId := by
  obtain ⟨hold', hm', hcancels⟩ := h.cancelled_of_mem hown
  obtain ⟨r, c, t, t', hlast, hcloses⟩ := hcancels.closes
  refine hcloses.sameOn fun hcopy => ?_
  have hcopy' : r.copyId = hold'.copyId := (Reservation.of_lasting hlast).1
  have hid := hcopies hold hold' (List.of_mem_zip hm).1 (List.of_mem_zip hm').1 (hcopy.trans hcopy')
  cases h.fate_eq hids hm hm' hid

end Accounts

namespace Amid

variable {policy : Policy} {k : Nat} {s : Amid}

/-- Amid others all holds are handled, and their fates account for the commits. -/
theorem handlesAll {holds : List Reservation} (hr : Reachable (Rules.desk policy) s.traffic) (h : s.Ready policy k)
    (hknows : ∀ hold ∈ holds, s.traffic.ledger.Knows hold) :
    ∃ fates owns s', HandlesAll source holds s fates s' ∧ s'.Led policy k s.traffic none ∧ s'.own = s.own ++ owns ∧
      Accounts s'.traffic.journal holds fates owns := by
  induction holds generalizing s with
  | nil => exact ⟨[], [], s, .nil s, h.led, (List.append_nil _).symm, .nil⟩
  | cons hold holds ih =>
    obtain ⟨fate, s₁, hone, hled, hfate⟩ := handles hr h (hknows hold List.mem_cons_self)
    have hleads := hled.leads_traffic
    obtain ⟨js, hjournal, hsince⟩ := hleads.since hr
    obtain ⟨fates, owns, s', hall, hled', hown, haccounts⟩ := ih (hr.leads hleads) hled.toReady
      fun hold' hm => (hknows hold' (List.mem_cons_of_mem hold hm)).since hsince
    obtain ⟨js', hjournal', -⟩ := hled'.leads_traffic.since (hr.leads hleads)
    have hled'' : s'.Led policy k s.traffic none := { hled' with leads := hleads.trans hled'.leads }
    rcases hfate with ⟨rfl, hown₁⟩ | ⟨rfl, own, hown₁, hcancels⟩
    · exact ⟨.skipped :: fates, owns, s', .cons hone hall, hled'', by rw [hown, hown₁], .skipped haccounts⟩
    · refine ⟨.cancelled :: fates, own :: owns, s', .cons hone hall, hled'', ?_, .cancelled ?_ haccounts⟩
      · rw [hown, hown₁, List.append_assoc, List.singleton_append]
      · rw [hjournal']
        exact hcancels.append js'

end Amid

/-! ## The scan -/

/-- The holds that tables have expired at an instant. -/
def Tables.lapsed (t : Tables) (now : Instant) : List Reservation :=
  t.reservations.rows.filter (·.isExpired now)

/-- The holds that tables have expired at an instant, oldest first. -/
def Tables.queue (t : Tables) (now : Instant) : List Reservation :=
  Listed.sort (t.lapsed now)

/-- The holds that tables have expired at an instant, oldest first, a batch at most. -/
def Tables.expired (t : Tables) (start : Instant) (batch : Int) : List Reservation :=
  { Window.ascending with limit := some batch }.apply (Listed.sort (t.reservationsOf { expiredAt := some start }))

namespace Tables

variable {t : Tables} {start : Instant} {batch n : Int} {hold : Reservation}

/-- A hold has expired when it is pending and its date is past. -/
theorem mem_lapsed (h : t.reservations.Keyed n) : hold ∈ t.lapsed start ↔
    t.reservations.get? hold.id = some hold ∧ hold.isPending = true ∧ hold.reservationDate < start := by
  have hrow : hold ∈ t.reservations.rows ↔ t.reservations.get? hold.id = some hold := by
    refine Table.mem_rows.trans ⟨?_, fun hid => ⟨_, hid⟩⟩
    rintro ⟨id, hid⟩
    obtain rfl := (h id hold hid).1
    exact hid
  simp [lapsed, hrow, Reservation.isExpired]

/-- A hold that has expired is listed once. -/
theorem lapsed_nodup (h : t.reservations.Keyed n) (start : Instant) : ((t.lapsed start).map Reservation.id).Nodup :=
  List.pairwise_map.2 ((h.rows_ids.filter _).imp fun hlt => Int.ne_of_lt hlt)

/-- In the queue are the holds that have expired. -/
theorem mem_queue : hold ∈ t.queue start ↔ hold ∈ t.lapsed start :=
  List.mem_mergeSort

/-- A hold is in the queue once. -/
theorem queue_nodup (h : t.reservations.Keyed n) (start : Instant) : ((t.queue start).map Reservation.id).Nodup :=
  ((List.mergeSort_perm _ _).map Reservation.id).nodup_iff.2 (lapsed_nodup h start)

/-- A batch is the first of the queue. -/
theorem expired_eq_take (t : Tables) (start : Instant) (batch : Int) :
    t.expired start batch = (t.queue start).take batch.toNat := by
  have hadmits : ReservationFilter.admits { expiredAt := some start } = fun r => r.isExpired start := by
    funext r
    simp [ReservationFilter.admits, leaves]
  rw [queue, lapsed, ← hadmits]
  rfl

/-- A hold of a batch has expired. -/
theorem mem_expired (h : t.reservations.Keyed n) (hm : hold ∈ t.expired start batch) :
    t.reservations.get? hold.id = some hold ∧ hold.isPending = true ∧ hold.reservationDate < start := by
  rw [expired_eq_take] at hm
  exact (mem_lapsed h).1 (mem_queue.1 (List.mem_of_mem_take hm))

/-- A hold is in a batch once. -/
theorem expired_nodup (h : t.reservations.Keyed n) (start : Instant) (batch : Int) :
    ((t.expired start batch).map Reservation.id).Nodup := by
  rw [expired_eq_take]
  exact (queue_nodup h start).sublist ((List.take_sublist _ _).map _)

end Tables

/-- What a scan amid others finds: the holds that the ledger, when the scan's transaction begins, has expired at the
instant read before. -/
theorem Amid.scan_eq (s : Amid) (batch : Int) : Sweep.scan source batch s =
    (.ok (s.pass.pass.traffic.ledger.tables.expired s.pass.traffic.clock batch), s.pass.pass.pass) := rfl

/-! ## The sweep -/

/-- What a sweep that is safe does: `start` is the instant it read first, `holds` are the holds it scanned, in the order in
which it handled them, and `fates` is how it counted them. -/
structure SafeSweep (start : Instant) (holds : List Reservation) (fates : List Fate) (s' : Amid) : Prop where
  expired : ∀ hold ∈ holds, hold.isPending = true ∧ hold.reservationDate < start
  distinct : (holds.map Reservation.id).Nodup
  count : fates.count .cancelled = s'.own.length
  cancelled_iff : ∀ hold fate, (hold, fate) ∈ holds.zip fates → (fate = .cancelled ↔ ∃ own ∈ s'.own, own.Releases hold)
  closed : ∀ hold fate, (hold, fate) ∈ holds.zip fates → ∀ i x, s'.traffic.journal[i]? = some x →
    (∀ own ∈ s'.own, own.position ≠ i) → Closable.reservations.ClosedBy x hold.id → fate = .skipped
  untouched : ∀ hold, (hold, .skipped) ∈ holds.zip fates → ∀ own ∈ s'.own,
    own.met.tables.SameOn own.left.tables hold.copyId
  own : ∀ own ∈ s'.own, ∃ hold ∈ holds, own.Cancels s'.traffic.journal hold

/-- A sweep that handled the holds that a consistent ledger had expired, and whose fates account for its commits, is safe. -/
theorem Accounts.safe {tables : Tables} {start : Instant} {batch n : Int} {fates : List Fate} {s' : Amid}
    (h : Accounts s'.traffic.journal (tables.expired start batch) fates s'.own) (htables : tables.Consistent)
    (hkeyed : tables.reservations.Keyed n) (htallied : s'.traffic.ledger.tables.Tallied s'.traffic.journal) :
    SafeSweep start (tables.expired start batch) fates s' := by
  have hids := Tables.expired_nodup hkeyed start batch
  constructor
  · exact fun hold hm => (Tables.mem_expired hkeyed hm).2
  · exact hids
  · exact h.count_cancelled
  · exact fun hold fate hm => h.cancelled_iff hids hm
  · exact fun hold fate hm i x hx hothers hclosed => h.skipped_of_closed htallied.reservations hm hx hothers hclosed
  · intro hold hm own hown
    refine h.sameOn_of_skipped hids (fun hold hold' hm hm' hcopy => ?_) hm hown
    -- Two holds on one copy were not both pending at the scan.
    obtain ⟨hrow, hpending, -⟩ := Tables.mem_expired hkeyed hm
    obtain ⟨hrow', hpending', -⟩ := Tables.mem_expired hkeyed hm'
    exact htables.held_eq ⟨hold, hrow, rfl, hpending⟩ ⟨hold', hrow', hcopy.symm, hpending'⟩
  · intro own hown
    obtain ⟨hold, hm, hcancels⟩ := h.cancelled_of_mem hown
    exact ⟨hold, (List.of_mem_zip hm).1, hcancels⟩

/-- From every state that transactions of desk operations lead to, and whatever such transactions of others do and commit
before each of its steps, a sweep ends with a report in which nothing failed, and it is safe. -/
theorem sweep_is_safe {policy : Policy} {k : Nat} {s : Amid} (h : Reachable (Rules.desk policy) s.traffic)
    (hs : s.Ready policy k) (hown : s.own = []) (batch : Int) :
    ∃ holds fates s₁ s', Sweep.scan Amid.source batch s = (.ok holds, s₁) ∧ HandlesAll Amid.source holds s₁ fates s' ∧
      Sweep.once Amid.source batch s = (.ok ⟨holds.length, fates.count .cancelled, fates.count .skipped, 0⟩, s') ∧
      Leads (Rules.desk policy) s.traffic s'.traffic ∧ SafeSweep (Amid.source.now s).1 holds fates s' := by
  have hscan := hs.led.pass.pass
  have hreach := h.leads hscan.leads_traffic
  have hkeyed := hreach.sound.ledger.reservations
  -- What the scan found is still there, whatever has become of it, when the first hold is handled.
  have hready : s.pass.pass.pass.Led policy k s.pass.pass.traffic none := hscan.toReady.led.pass
  obtain ⟨js, -, hsince⟩ := hready.leads_traffic.since hreach
  have hknows : ∀ hold ∈ s.pass.pass.traffic.ledger.tables.expired s.pass.traffic.clock batch,
      s.pass.pass.pass.traffic.ledger.Knows hold :=
    fun hold hm => Ledger.Knows.since ⟨hold, (Tables.mem_expired hkeyed hm).1, rfl⟩ hsince
  obtain ⟨fates, owns, s', hall, hled, hown', haccounts⟩ :=
    Amid.handlesAll (hreach.leads hready.leads_traffic) hready.toReady hknows
  have hleads := (hscan.leads_traffic.trans hready.leads_traffic).trans hled.leads_traffic
  have howns : s'.own = owns := by
    rw [hown']
    exact congrArg (· ++ owns) hown
  subst howns
  refine ⟨_, fates, _, s', s.scan_eq batch, hall, ?_, hleads, ?_⟩
  · have hcounting := SweepReport.counting_eq
      { expired := (s.pass.pass.traffic.ledger.tables.expired s.pass.traffic.clock batch).length } fates
    simp only [Nat.zero_add, List.count_eq_zero.2 haccounts.not_failed] at hcounting
    unfold Sweep.once
    rw [s.scan_eq batch, ← hcounting]
    exact cancelAll_ok_iff.2 ⟨fates, hall, rfl⟩
  · exact haccounts.safe ((agreement policy).holds hreach).good hkeyed ((finality policy).holds (h.leads hleads)).good.2

/-- What somebody else does in one transaction. -/
def visit (os : List Operation) : List Action :=
  .begin 1 :: os.flatMap (fun o => .call 1 (o.procedure {}) :: List.replicate 20 (.advance 1)) ++ [.commit 1]

/-- A desk a month after four copies were held. -/
def fourExpired : Traffic :=
  let s : Traffic := { clock := .epoch }
  let s := ((s.act (.addBook "Emma")).act (.addUser "ann")).act (.addUser "ben")
  let s := ((s.act (.addUser "cid")).act (.addUser "dot")).act (.begin 0)
  let s := (s.serve 0 (Operation.procedure {} (.addCopies 1 4))).serve 0 (Operation.procedure {} (.reserve 6 2))
  let s := (s.serve 0 (Operation.procedure {} (.reserve 7 3))).serve 0 (Operation.procedure {} (.reserve 8 4))
  let s := (s.serve 0 (Operation.procedure {} (.reserve 9 5))).act (.commit 0)
  s.act (.setClock ((Instant.epoch.add? ⟨30 * Span.day⟩).getD .epoch))

/-- The same desk amid others. Before the sweep handles the first hold they release it and lend its copy, while it handles
the second they release that one and hold its copy again, and before the third they release that one and withdraw its copy. -/
def busy : Amid where
  traffic := fourExpired
  others
    | 3 => visit [.cancelReservation 10, .borrow 6 5]
    | 9 => visit [.cancelReservation 11] ++ visit [.reserve 7 2]
    | 14 => visit [.cancelReservation 12, .removeCopy 8]
    | _ => []

theorem busy_reachable : Reachable (Rules.desk {}) busy.traffic := by
  have start : Reachable (Rules.desk {}) { clock := .epoch } := .start .epoch trivial
  have users := ((start.act (.addBook "Emma") trivial).act (.addUser "ann") trivial).act (.addUser "ben") trivial
  have opened := ((users.act (.addUser "cid") trivial).act (.addUser "dot") trivial).act (.begin 0) trivial
  have held := (opened.perform 0 (.addCopies 1 4) False.elim).perform 0 (.reserve 6 2) False.elim
  have held := (held.perform 0 (.reserve 7 3) False.elim).perform 0 (.reserve 8 4) False.elim
  have committed := (held.perform 0 (.reserve 9 5) False.elim).commit 0 False.elim
  exact committed.act (.setClock ((Instant.epoch.add? ⟨30 * Span.day⟩).getD .epoch)) ⟨trivial, False.elim⟩

/-- A visit is made of actions of others. -/
theorem visit_ofOthers (os : List Operation) : ∀ a ∈ visit os, a.OfOthers {} 0 := by
  intro a ha
  simp only [visit, List.cons_append, List.mem_cons, List.mem_append, List.mem_flatMap, List.mem_replicate, List.not_mem_nil,
    or_false] at ha
  rcases ha with rfl | ⟨o, -, rfl | ⟨-, rfl⟩⟩ | rfl
  · exact Nat.one_ne_zero
  · exact ⟨Nat.one_ne_zero, o, rfl⟩
  · exact Nat.one_ne_zero
  · exact Nat.one_ne_zero

/-- The busy desk is ready for a sweep. -/
theorem busy_ready : busy.Ready {} 0 where
  others n a ha := by
    simp only [busy] at ha
    split at ha
    · exact visit_ofOthers _ a ha
    · exact (List.mem_append.1 ha).elim (visit_ofOthers _ a) (visit_ofOthers _ a)
    · exact visit_ofOthers _ a ha
    · nomatch ha
  free := Option.isNone_iff_eq_none.1 (by decide +kernel)

/-- One of the four holds is cancelled. -/
theorem busy_report : (Sweep.once Amid.source 10 busy).1 = .ok ⟨4, 1, 3, 0⟩ := by cbv

/-- The loan, the hold and the withdrawal of the others stand. -/
theorem busy_copies :
    ((Sweep.once Amid.source 10 busy).2.traffic.ledger.tables.copies.rows.map fun c => (c.status, c.isDeleted)) =
      [(.onLoan, false), (.onReserve, false), (.available, true), (.available, false)] := by cbv

/-- Of four holds that the sweep scans one is cancelled and three are skipped, and the rows that others wrote meanwhile are
theirs. -/
theorem busy_is_safe : Reachable (Rules.desk {}) busy.traffic ∧ busy.Ready {} 0 ∧ busy.own = [] ∧
    (Sweep.once Amid.source 10 busy).1 = .ok ⟨4, 1, 3, 0⟩ ∧
    ((Sweep.once Amid.source 10 busy).2.traffic.ledger.tables.copies.rows.map fun c => (c.status, c.isDeleted)) =
      [(.onLoan, false), (.onReserve, false), (.available, true), (.available, false)] ∧
    ∃ holds fates s₁ s', Sweep.scan Amid.source 10 busy = (.ok holds, s₁) ∧ HandlesAll Amid.source holds s₁ fates s' ∧
      Sweep.once Amid.source 10 busy = (.ok ⟨holds.length, fates.count .cancelled, fates.count .skipped, 0⟩, s') ∧
      Leads (Rules.desk {}) busy.traffic s'.traffic ∧ SafeSweep (Amid.source.now busy).1 holds fates s' :=
  ⟨busy_reachable, busy_ready, rfl, busy_report, busy_copies, sweep_is_safe busy_reachable busy_ready rfl 10⟩

end Circulation
