import Circulation.Proofs.Limits
import Circulation.Proofs.Logbook
import Circulation.Proofs.Returns
import Mathlib.Logic.Function.Basic

/-!
# The way out

No copy gets stuck. Whatever transactions of desk operations have committed, a transaction that begins now can take back a copy
that is out, release one that is held and withdraw one that is on the shelf, and it is committed unless another one commits
before it (`Ledger.WayOut`). The other half is about those who are still at work: in a draft every conditional write finds what
was read for it, so none is ever answered that it was not done, and nobody comes to a conflict before the commit
(`Transaction.Unopposed`). A step keeps that (`Traffic.Turns.unhindered`), so it is true of every reachable state.
-/

namespace Circulation

open Lasting Procedure

/-! ## A transaction that commits before any other -/

/-- Whether a draft leaves no reservation pending that it wrote. -/
def Draft.PlacesNone (d : Draft) : Prop :=
  ∀ id r, d.written.reservations.contains id = true → d.tables.reservations.get? id = some r → r.isPending = false

namespace Ledger

/-- Whether a procedure goes through in a transaction that begins now: it has a result, whatever ids others take meanwhile, and
while titles and users are added at most, its draft is committed to a ledger of which `after` is true. -/
def Passes {α : Type} (l : Ledger) (timeline : Nat → Instant) (p : Procedure α) (after : Ledger → Prop) : Prop :=
  p.Concludes timeline (fun _ w => ∀ l', l.Grown l' → ∃ l'', l'.commit w.draft = .ok l'' ∧ after l'') (fun _ _ => False)
    ⟨l.draft, l.lastId, 0⟩

/-- Whether a copy is on the shelf. -/
def Shelves (l : Ledger) (id : Int) : Prop :=
  ∃ c, l.tables.liveCopy? id = some c ∧ c.status = .available

/-- The way out of each status of a copy: it is withdrawn from the shelf, or brought back to it by what ends its loan, as far as
the fine stays in range, or its reservation. -/
inductive WayOut (l : Ledger) (terms : Policy) (timeline : Nat → Instant) (id : Int) : CopyStatus → Prop where
  | available : l.Passes timeline (Desk.removeCopy id) (fun l' => l'.tables.liveCopy? id = none) →
    WayOut l terms timeline id .available
  | onLoan (i : Int) (a : Loan) : l.tables.loans.get? i = some a → a.copyId = id → a.isBorrowed = true →
    ((∃ fine, Overdue.charge a.dueDate (timeline 0) terms.dailyFineRate = .ok fine) →
      l.Passes timeline (Desk.returnCopy terms id) (·.Shelves id)) → WayOut l terms timeline id .onLoan
  | onReserve (i : Int) : l.tables.Held id i → (∀ j, l.tables.Held id j → j = i) →
    l.Passes timeline (Desk.cancelReservation i) (·.Shelves id) → WayOut l terms timeline id .onReserve

variable {l l' : Ledger} {d : Draft} {n : Int}

/-- Nothing stands against a draft that leaves no reservation pending which it wrote, while nobody else commits. -/
theorem clear_of_grown (h : d.Stands l n) (hg : l.Grown l') (hnone : d.PlacesNone) : l'.Clear d where
  locked id v hv := by rw [(h.locked id v hv).1, version, version, hg.versions]
  guards id c row hc hrow := by
    rw [hg.tables] at hrow
    exact (h.guards id c hc).2 row hrow
  settled id f hid hf := by
    rw [hg.tables] at hf
    exact (h.settled id hid).2 f hf
  pending id r j s hw hr hp _ := by simp [hnone id r hw hr] at hp

/-- Such a draft is committed with the row of a copy that it put last. -/
theorem commit_putCopy {c c' : Copy} (h : d.Stands l n) (hg : l.Grown l') (hnone : d.PlacesNone)
    (hrow : d.tables.copies.get? c.id = some c) (hlast : lasting c' = lasting c) :
    ∃ l'', l'.commit (d.putCopy c' c.id) = .ok l'' ∧ l''.tables.copies.get? c.id = some c' := by
  have hs : (d.putCopy c' c.id).Stands l n := h.putCopy c.id c c' hrow hlast
  refine ⟨_, commit_eq_ok_iff.2 ⟨clear_of_grown hs hg hnone, rfl⟩, ?_⟩
  refine (hs.copies.get?_publish _ c.id).trans ?_
  simp [Draft.putCopy]

/-- A draft that put a copy on the shelf is committed with the copy on the shelf. -/
theorem commit_moved {c : Copy} {t : Instant} (h : d.Stands l n) (hg : l.Grown l') (hnone : d.PlacesNone)
    (hrow : d.tables.copies.get? c.id = some c) (hlive : c.isDeleted = false) :
    ∃ l'', l'.commit (d.moved c .available t) = .ok l'' ∧ l''.Shelves c.id := by
  obtain ⟨l'', hok, hcopy⟩ := commit_putCopy h hg hnone hrow
    (show lasting { c with status := .available, updatedAt := t } = lasting c from rfl)
  exact ⟨l'', hok, _, Option.filter_eq_some_iff.2 ⟨hcopy, by simpa [Copy.isDeleted] using hlive⟩, rfl⟩

/-- A draft that did nothing but release a hold is committed with its copy on the shelf. -/
theorem commit_letGo {c : Copy} {r : Reservation} {t t' : Instant} (hl : l.Sound) (hg : l.Grown l')
    (hc : (l.draft.lock c.id).Holding c) (hr : l.tables.reservations.get? r.id = some r) :
    ∃ l'', l'.commit ((l.draft.lock c.id).letGo c r t t') = .ok l'' ∧ l''.Shelves c.id := by
  refine commit_moved (((Draft.Stands.begin hl).lock c.id c hc.liveCopy?).fulfilled hr t) hg (fun i a hw ha => ?_) hc.row hc.live
  -- The only reservation it wrote is the one it fulfilled.
  have hid : i = r.id := by simpa [Draft.lock, draft] using hw
  rw [Draft.fulfilled_reservation, if_pos hid] at ha
  cases ha
  rfl

/-- What passes is carried out and committed by a transaction that begins now and that nobody disturbs. -/
theorem Passes.committed {α : Type} {s : Traffic} {p : Procedure α} {after : Ledger → Prop}
    (h : s.ledger.Passes (fun _ => s.clock) p after) (k : Nat) :
    after (((s.act (.begin k)).serve k p.quietly).act (.commit k)).ledger ∧
      ∃ x, (((s.act (.begin k)).serve k p.quietly).act (.commit k)).journal = s.journal ++ [x] := by
  let x : Transaction := { base := s.ledger, began := s.journal.length, draft := s.ledger.draft }
  obtain ⟨-, w, ⟨hle, hQ⟩, -, hserve⟩ := Traffic.serve_of_concludes (s.keep_self k x) rfl h.le
  obtain ⟨l'', hok, hafter⟩ := hQ (s.taking w.lastId).ledger (Traffic.grown_taking hle)
  have hserve : (s.act (.begin k)).serve k p.quietly = ((s.keep k x).taking w.lastId).keep k { x with draft := w.draft } :=
    hserve
  rw [hserve, Traffic.act_commit_ok (Traffic.keep_self ((s.keep k x).taking w.lastId) k { x with draft := w.draft }) rfl hok]
  exact ⟨hafter, _, rfl⟩

variable {timeline : Nat → Instant} {terms : Policy} {id : Int}

/-- A copy that is out, and whose delay stays in range, is brought back and the return is committed. -/
theorem returnCopy_passes (hl : l.Sound) (h : l.tables.Consistent) {c : Copy} (hc : l.tables.liveCopy? id = some c) {i : Int}
    {a : Loan} (ha : l.tables.loans.get? i = some a) (hcopy : a.copyId = id) (hborrowed : a.isBorrowed = true)
    {fine : Option Decimal} (hfine : Overdue.charge a.dueDate (timeline 0) terms.dailyFineRate = .ok fine) :
    l.Passes timeline (Desk.returnCopy terms id) (·.Shelves id) := by
  have hs := Draft.Stands.begin hl
  have hpass : (Operation.returnCopy id).refusal? terms l.draft.tables = none :=
    (returnCopy_refusal?_eq_none_iff h hl.copies).2 ⟨⟨c, hc⟩, i, a, ha, hcopy, hborrowed⟩
  refine Desk.returnCopy_concludes hs (fun why _ hwhy => ?_) (fun what _ b _ hb hover => ?_) ?_
  · cases hpass.symm.trans hwhy
  · have hfound : l.draft.tables.loanOf? id = some a := hcopy ▸ h.loanOf?_eq ha hborrowed
    cases hfound.symm.trans hb
    cases hfine.symm.trans hover
  · rintro c b d₁ k₀ k j m - rfl - hb hborrowed - hc - hk₀ hf hj - l' hg
    have hlock : (l.draft.lock c.id).Stands l k₀ := (hs.lock c.id c hc.liveCopy?).mono hk₀
    have hb₁ : d₁.tables.loans.get? b.id = some b := by rw [hf.frame.2.loans]; exact hb
    have hrow : d₁.tables.copies.get? c.id = some c := by rw [hf.frame.1.copies]; exact hc.row
    refine commit_moved (((hf.stands hlock).putLoan b.id b (b.closed _) hb₁ hborrowed rfl).newEntry _ hj) hg
      (fun i r hw _ => ?_) hrow hc.live
    have hwritten : d₁.written.reservations = .empty := hf.frame.1.writtenReservations
    simp [Draft.record, Draft.putLoan, Draft.putEntry, Draft.guard, hwritten] at hw

/-- The hold on a copy is cancelled and the cancellation is committed. -/
theorem cancelReservation_passes (hl : l.Sound) (h : l.tables.Consistent) {c : Copy} (hc : l.tables.liveCopy? id = some c)
    {i : Int} (hi : l.tables.Held id i) : l.Passes timeline (Desk.cancelReservation i) (·.Shelves id) := by
  have hs := Draft.Stands.begin hl
  have hstatus : c.status = .onReserve := h.status_of_held (Option.filter_eq_some_iff.1 hc).1 hi
  obtain ⟨r, hr, rfl, hpending⟩ := hi
  refine Desk.cancelReservation_concludes hs
    (fun why _ (hwhy : (Operation.cancelReservation i).refusal? {} l.tables = some why) => ?_) ?_
  · simp [Operation.refusal?, wanting, hr, hc, Reservation.releaseTests, hstatus, hpending] at hwhy
  · rintro c b m - rfl hb - hcopy hc - - l' hg
    cases hr.symm.trans hb
    rw [hcopy]
    exact commit_letGo hl hg hc hb

/-- A copy on the shelf is removed and the removal is committed. -/
theorem removeCopy_passes (hl : l.Sound) {c : Copy} (hc : l.tables.liveCopy? id = some c) (hstatus : c.status = .available) :
    l.Passes timeline (Desk.removeCopy id) fun l' => l'.tables.liveCopy? id = none := by
  have hs := Draft.Stands.begin hl
  refine Desk.removeCopy_concludes hs
    (fun why _ (hwhy : (Operation.removeCopy id).refusal? {} l.tables = some why) => ?_) ?_
  · simp [Operation.refusal?, wanting, hc, Copy.shelfTests, hstatus] at hwhy
  · rintro c m - rfl hc - - l' hg
    have hnone : (l.draft.lock c.id).PlacesNone := fun i r hw _ => by simp [Draft.lock, draft] at hw
    obtain ⟨l'', hok, hcopy⟩ := commit_putCopy (hs.lock c.id c hc.liveCopy?) hg hnone hc.row
      (show lasting { c with deletedAt := some (timeline 0), updatedAt := timeline 0 } = lasting c from rfl)
    exact ⟨l'', hok, by simp [Tables.liveCopy?, hcopy, Option.filter, Copy.isDeleted]⟩

/-- Every copy that is not withdrawn has its way out, in a ledger whose tables are consistent. -/
theorem wayOut (hl : l.Sound) (h : l.tables.Consistent) {c : Copy} (hc : l.tables.liveCopy? id = some c) (terms : Policy)
    (timeline : Nat → Instant) : l.WayOut terms timeline id c.status := by
  have hfits := h.fits id c (Option.filter_eq_some_iff.1 hc).1
  cases hstatus : c.status with
  | available => exact .available (removeCopy_passes hl hc hstatus)
  | onLoan =>
    rw [hstatus] at hfits
    cases hfits with
    | onLoan i hi =>
      obtain ⟨a, ha, hcopy, hborrowed⟩ := hi
      exact .onLoan i a ha hcopy hborrowed fun ⟨_, hfine⟩ => returnCopy_passes hl h hc ha hcopy hborrowed hfine
  | onReserve =>
    rw [hstatus] at hfits
    cases hfits with
    | onReserve i hi hone => exact .onReserve i hi hone (cancelReservation_passes hl h hc hi)

end Ledger

/-! ## Transactions at work -/

/-- No test of an operation is failed with a conflict. -/
theorem Operation.refusal?_ne_conflict (policy : Policy) (t : Tables) (o : Operation) (clash : Clash) :
    o.refusal? policy t ≠ some (.conflict clash) := by
  cases o with
  | borrow copyId userId =>
    exact wanting_ne (by simp) fun c => firstFailed_ne (by simp [Policy.borrowTests, Copy.releaseTests])
  | returnLoan loanId =>
    exact wanting_ne (by simp) fun l => wanting_ne (by simp) fun c => firstFailed_ne (by simp [Loan.closingTests])
  | returnCopy copyId =>
    refine wanting_ne (by simp) fun c => ?_
    cases t.loanOf? c.id with
    | none => simp
    | some l => exact firstFailed_ne (by simp [Loan.closingTests])
  | renew loanId =>
    refine wanting_ne (by simp) fun l => wanting_ne (by simp) fun c => firstFailed_ne ?_
    simp [Loan.closingTests, Policy.renewalTests]
  | reserve copyId userId =>
    exact wanting_ne (by simp) fun c => firstFailed_ne (by simp [Copy.shelfTests, Policy.reserveTests])
  | cancelReservation reservationId =>
    exact wanting_ne (by simp) fun r => wanting_ne (by simp) fun c => firstFailed_ne (by simp [Reservation.releaseTests])
  | addCopy bookId => exact firstFailed_ne (by simp)
  | addCopies bookId count => exact firstFailed_ne (by simp)
  | removeCopy copyId => exact wanting_ne (by simp) fun c => firstFailed_ne (by simp [Copy.shelfTests])
  | settleFine fineId => exact wanting_ne (by simp) fun f => firstFailed_ne (by simp)

/-- A stop that is no conflict. -/
def Stop.Clean (why : Stop) : Prop :=
  ∀ clash, why ≠ .refused (.conflict clash)

/-- Whether a transaction goes on without hindrance: what is left of its procedure has every conditional write done and does not
stop with a conflict, whatever the clock will read. -/
def Transaction.Unhindered (x : Transaction) (n : Int) : Prop :=
  ∀ p, x.doing = some p → ∃ i, ∀ timeline,
    p.Concludes timeline (fun _ _ => True) (fun why _ => why.Clean) ⟨x.draft, n, i⟩

/-- A request of a transaction that goes on without hindrance is done if it is answered, and is no conflict if it is not. -/
theorem Transaction.Unhindered.asked {x : Transaction} {n : Int} (h : x.Unhindered n) {q : Request}
    {next : q.Answer → Procedure (List Loan)} (hd : x.doing = some (.ask q next)) {r : Except Stop q.Answer} {w : Work}
    (hw : Work.answer q ⟨x.draft, n, 0⟩ = (r, w)) : ∃ i, ∀ timeline,
      match r with
      | .ok a => q.accepted a = true ∧
        (next a).Concludes timeline (fun _ _ => True) (fun why _ => why.Clean) { w with readings := i }
      | .error why => why.Clean := by
  obtain ⟨i, hi⟩ := h _ hd
  refine ⟨i, fun timeline => ?_⟩
  have hask := hi timeline n (Int.le_refl n)
  rw [Traffic.answer_readings, hw] at hask
  cases r with
  | ok a => exact hask
  | error why => exact hask

/-- A desk operation goes without hindrance on a draft that stands to its base. -/
theorem Operation.unhindered {base : Ledger} {d : Draft} {n : Int} (hs : d.Stands base n) (policy : Policy) (o : Operation)
    (timeline : Nat → Instant) (i : Nat) :
    (o.procedure policy).Concludes timeline (fun _ _ => True) (fun why _ => why.Clean) ⟨d, n, i⟩ := by
  rw [o.procedure_eq]
  refine (concludes_bind _ _ _).2 ((o.concludes hs).mono (fun _ _ _ => trivial) fun why _ hobeys clash => ?_)
  rintro rfl
  exact o.refusal?_ne_conflict policy d.tables clash hobeys

/-- Whatever an action makes of a transaction, it goes on without hindrance, as long as what it is put to does. -/
theorem Traffic.Turns.unhindered {s : Traffic} {a : Action} {k : Nat} {x x' : Transaction} {ds : List Deed}
    (h : s.Turns a k x x' ds) (hx : x.Unhindered s.ledger.lastId)
    (hcall : ∀ p, a = .call k p → x.doing = none → { x with doing := some p }.Unhindered s.ledger.lastId) :
    x'.Unhindered (s.act a).ledger.lastId := by
  have hle := s.lastId_le_act a
  have wait {y : Transaction} (hy : y.Unhindered s.ledger.lastId) : y.Unhindered (s.act a).ledger.lastId := by
    intro p hp
    obtain ⟨i, hi⟩ := hy p hp
    exact ⟨i, fun timeline => (hi timeline).wait hle⟩
  cases h with
  | kept => exact wait hx
  | called ha hd => exact wait (hcall _ ha hd)
  | ended _ => exact fun _ hp => nomatch hp
  | refused _ => exact fun _ hp => nomatch hp
  | @read next hd =>
    rintro _ ⟨⟩
    obtain ⟨i, hi⟩ := hx _ hd
    refine ⟨i + 1, fun timeline => ?_⟩
    -- The clock has read what it reads now; what it will read is left open.
    have hread := hi (Function.update timeline i s.clock)
    simp only [Concludes, Function.update_self] at hread
    refine (hread.congr fun j hj => ?_).wait hle
    exact (Function.update_of_ne (Nat.ne_of_gt hj) _ _).symm
  | answered hd hw hlast =>
    rintro _ ⟨⟩
    obtain ⟨i, hi⟩ := hx.asked hd hw
    exact ⟨i, fun timeline => (hi timeline).2.wait hlast⟩
  | unanswered hd hw _ =>
    rintro _ ⟨⟩
    obtain ⟨i, hi⟩ := hx.asked hd hw
    exact ⟨i, hi⟩

/-- Every open transaction of desk operations goes on without hindrance. -/
theorem Reachable.unhindered {policy : Policy} {strict : Prop} {s : Traffic} (h : Reachable (Rules.desk policy strict) s)
    {k : Nat} {x : Transaction} (hx : s.opened k = some x) : x.Unhindered s.ledger.lastId := by
  induction h generalizing x with
  | start => cases hx
  | @act s a hr ha ih =>
    rcases Logbook.act_turns { traffic := s } a hx with ⟨rfl, -⟩ | ⟨y, ds, hy, hturns, -⟩
    · exact fun _ hp => nomatch hp
    · refine hturns.unhindered (ih hy) ?_
      rintro p rfl - _ ⟨⟩
      obtain ⟨o, rfl⟩ := (ha y hy).1
      exact ⟨0, fun timeline => o.unhindered (hr.sound.opened k y hy).stands policy timeline 0⟩

/-- Whether nothing stands in the way of a transaction: a conditional write that it is about to put will be done, and it is not
about to stop with a conflict. -/
structure Transaction.Unopposed (x : Transaction) (s : Traffic) : Prop where
  done : ∀ q next a w, x.doing = some (.ask q next) → Work.answer q ⟨x.draft, s.ledger.lastId, 0⟩ = (.ok a, w) →
    q.accepted a = true
  clean : ∀ why, x.doing = some (.stop why) → why.Clean

/-- A transaction that goes on without hindrance is not opposed by the ledger. -/
theorem Transaction.Unhindered.unopposed {s : Traffic} {x : Transaction} (h : x.Unhindered s.ledger.lastId) :
    x.Unopposed s where
  done q next a w hd hw := by
    obtain ⟨i, hi⟩ := h.asked hd hw
    exact (hi fun _ => s.clock).1
  clean why hd := by
    obtain ⟨i, hi⟩ := h _ hd
    exact hi fun _ => s.clock

/-- No copy of a reachable ledger gets stuck, and no transaction of desk operations meets a conflict while it is at work. -/
theorem no_copy_stuck {policy : Policy} {s : Traffic} (h : Reachable (Rules.desk policy) s) :
    (∀ id c, s.ledger.tables.liveCopy? id = some c → ∀ (terms : Policy) (timeline : Nat → Instant),
      s.ledger.WayOut terms timeline id c.status) ∧
    ∀ k x, s.opened k = some x → x.Unopposed s := by
  have hsound := h.sound.ledger
  have hconsistent := ((agreement policy).holds h).good
  refine ⟨fun id c hc terms timeline => ?_, fun k x hx => ?_⟩
  · exact Ledger.wayOut hsound hconsistent hc terms timeline
  · exact (h.unhindered hx).unopposed

/-- A desk with a copy of each status, and a transaction that is about to withdraw one. -/
def oneOfEach : Traffic :=
  let s : Traffic := { clock := .epoch }
  let s := ((s.act (.addBook "Emma")).act (.addUser "ann")).act (.addUser "ben")
  let s := (s.act (.begin 0)).serve 0 (Operation.procedure {} (.addCopies 1 3))
  let s := s.serve 0 (Operation.procedure {} (.borrow 4 2))
  let s := (s.serve 0 (Operation.procedure {} (.reserve 5 3))).act (.commit 0)
  (((s.act (.begin 1)).act (.call 1 (Operation.procedure {} (.removeCopy 6)))).act (.advance 1)).act (.advance 1)

theorem oneOfEach_reachable : Reachable (Rules.desk {}) oneOfEach := by
  have start : Reachable (Rules.desk {}) { clock := .epoch } := .start .epoch trivial
  have users := ((start.act (.addBook "Emma") trivial).act (.addUser "ann") trivial).act (.addUser "ben") trivial
  have copies := (users.act (.begin 0) trivial).perform 0 (.addCopies 1 3) False.elim
  have lent := copies.perform 0 (.borrow 4 2) False.elim
  have held := (lent.perform 0 (.reserve 5 3) False.elim).commit 0 False.elim
  have called := (held.act (.begin 1) trivial).act (.call 1 (Operation.procedure {} (.removeCopy 6)))
    fun _ _ => ⟨⟨.removeCopy 6, rfl⟩, False.elim⟩
  exact (called.act (.advance 1) trivial).act (.advance 1) trivial

/-- The copy that is out is taken back, the one that is held is released and the one on the shelf is withdrawn, each in a
transaction of its own, and the transaction that is about to withdraw it meets no conflict on the way. -/
theorem oneOfEach_not_stuck :
    (((oneOfEach.act (.begin 2)).serve 2 (Operation.procedure {} (.returnCopy 4))).act (.commit 2)).ledger.Shelves 4 ∧
    (((oneOfEach.act (.begin 2)).serve 2 (Operation.procedure {} (.cancelReservation 9))).act (.commit 2)).ledger.Shelves 5 ∧
    (((oneOfEach.act (.begin 2)).serve 2 (Operation.procedure {} (.removeCopy 6))).act (.commit 2)).ledger.tables.liveCopy? 6
      = none ∧
    ∃ x, oneOfEach.opened 1 = some x ∧ (x.next? oneOfEach).bind Deed.request? = some (.withdrawCopy 6 .epoch) ∧
      x.Unopposed oneOfEach := by
  have found (id : Int) (status : CopyStatus)
      (h : (oneOfEach.ledger.tables.liveCopy? id).any (·.status = status) = true) :
      oneOfEach.ledger.WayOut {} (fun _ => oneOfEach.clock) id status := by
    obtain ⟨c, hc, hstatus⟩ := (Option.any_eq_true _ _).1 h
    have hwayOut := (no_copy_stuck oneOfEach_reachable).1 id c hc {} fun _ => oneOfEach.clock
    rwa [of_decide_eq_true hstatus] at hwayOut
  have hloans : (oneOfEach.ledger.tables.loans.rows.all fun a =>
      (Overdue.charge a.dueDate oneOfEach.clock ({} : Policy).dailyFineRate).isOk) = true := by decide +kernel
  have hheld : oneOfEach.ledger.tables.reservations.ids = [9] := by decide +kernel
  obtain ⟨x, hx⟩ := Option.isSome_iff_exists.1 (show (oneOfEach.opened 1).isSome = true by decide +kernel)
  have hnext : (oneOfEach.opened 1).bind (fun x => (x.next? oneOfEach).bind Deed.request?) =
      some (.withdrawCopy 6 .epoch) := by decide +kernel
  rw [hx, Option.bind_some] at hnext
  refine ⟨?_, ?_, ?_, x, hx, hnext, (no_copy_stuck oneOfEach_reachable).2 1 x hx⟩
  · cases found 4 .onLoan (by decide +kernel) with
    | onLoan i a ha _ _ hpasses =>
      have hok := List.all_eq_true.1 hloans a (Table.mem_rows.2 ⟨i, ha⟩)
      cases hfine : Overdue.charge a.dueDate oneOfEach.clock ({} : Policy).dailyFineRate with
      | ok fine => exact ((hpasses ⟨fine, hfine⟩).committed 2).1
      | error what => simp [hfine, Except.isOk, Except.toBool] at hok
  · cases found 5 .onReserve (by decide +kernel) with
    | onReserve i hi _ hpasses =>
      obtain ⟨r, hr, -⟩ := hi
      have hid : i ∈ oneOfEach.ledger.tables.reservations.ids := Table.mem_ids.2 (Table.contains_of_get? hr)
      obtain rfl : i = 9 := by simpa [hheld] using hid
      exact (hpasses.committed 2).1
  · cases found 6 .available (by decide +kernel) with
    | available hpasses => exact (hpasses.committed 2).1

end Circulation
