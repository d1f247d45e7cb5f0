import Circulation.Proofs.Draining

/-!
# A source alone

Sweeps are safe amid what others do, and drain the holds that have expired with nobody else at work; the first is said of a
ledger as a source of transactions, the second of a session. With nobody else at work the source is the session that has its
ledger: they give the same answers and come to the same ledger, request by request, and so a sweep of the one is a sweep of
the other (`Amid.Alone.once`). Left alone for as many sweeps as there are batches, the source is drained like the session
(`Amid.Alone.drained`).
-/

namespace Circulation

/-- Two outcomes that are alike have one result, in states that are. -/
theorem exists_of_alike {α σ τ : Type} {R : σ → τ → Prop} {p : α × σ} {q : α × τ} (h : p.1 = q.1 ∧ R p.2 q.2) :
    ∃ a s t, p = (a, s) ∧ q = (a, t) ∧ R s t :=
  ⟨p.1, p.2, q.2, rfl, Prod.ext h.1.symm rfl, h.2⟩

/-- A procedure runs alike on two stores that answer alike. -/
theorem Procedure.run_alike {α σ τ : Type} {store : Store σ} {store' : Store τ} {R : σ → τ → Prop}
    (hnow : ∀ s t, R s t → (store.now s).1 = (store'.now t).1 ∧ R (store.now s).2 (store'.now t).2)
    (hanswer : ∀ q s t, R s t → (store.answer q s).1 = (store'.answer q t).1 ∧ R (store.answer q s).2 (store'.answer q t).2)
    (p : Procedure α) {s : σ} {t : τ} (h : R s t) :
    (p.run store s).1 = (p.run store' t).1 ∧ R (p.run store s).2 (p.run store' t).2 := by
  induction p generalizing s t with
  | done a => exact ⟨rfl, h⟩
  | stop why => exact ⟨rfl, h⟩
  | clock next ih =>
    obtain ⟨heq, hr⟩ := hnow s t h
    simp only [run, heq]
    exact ih _ hr
  | ask q next ih =>
    obtain ⟨a, s', t', hs, ht, hr⟩ := exists_of_alike (hanswer q s t h)
    simp only [run, hs, ht]
    cases a with
    | ok a => exact ih a hr
    | error why => exact ⟨rfl, hr⟩

namespace Amid

/-- Whether a source is amid nobody and has the ledger and the clock of a session. -/
structure Alone (a : Amid) (s : Session) : Prop where
  others : ∀ n, a.others n = []
  ledger : a.traffic.ledger = s.ledger
  clock : a.traffic.clock = s.clock

/-- Whether it is so while each has a transaction open, on one draft. -/
structure AloneIn (y : Transaction × Amid) (z : OpenWork × Session) : Prop where
  draft : y.1.draft = z.1.draft
  plan : z.1.plan = []
  alone : y.2.Alone z.2

namespace Alone

variable {a : Amid} {s : Session}

/-- With nobody else at work no step changes the ledger or the clock. -/
theorem pass (h : a.Alone s) : a.pass.Alone s where
  others := h.others
  ledger := by simp only [Amid.pass, h.others, List.foldl_nil, h.ledger]
  clock := by simp only [Amid.pass, h.others, List.foldl_nil, h.clock]

theorem taking (h : a.Alone s) (n : Int) : (a.taking n).Alone { s with ledger := { s.ledger with lastId := n } } :=
  ⟨h.others, congrArg (fun l : Ledger => { l with lastId := n }) h.ledger, h.clock⟩

/-- Both begin a transaction on one ledger. -/
theorem begin (h : a.Alone s) : AloneIn (a.pass.begun, a.pass) (s.begin [], s) :=
  ⟨congrArg Ledger.draft h.pass.ledger, rfl, h.pass⟩

end Alone

namespace AloneIn

variable {y : Transaction × Amid} {z : OpenWork × Session}

/-- A request has one answer for both, and changes both drafts alike. -/
theorem answer (h : AloneIn y z) (q : Request) : (source.answer q y).1 = (Session.source.answer q z).1 ∧
    AloneIn (source.answer q y).2 (Session.source.answer q z).2 := by
  obtain ⟨counts, hwork⟩ := Session.work_eq (s := z.2) h.plan (Procedure.request q)
  rw [Procedure.run_request] at hwork
  simp only [source, Session.source, hwork, h.draft, h.alone.pass.ledger]
  exact ⟨rfl, rfl, h.plan, h.alone.pass.taking _⟩

/-- A procedure has one outcome for both. -/
theorem run {α : Type} (h : AloneIn y z) (p : Procedure α) : (p.run source.store y).1 = (p.run Session.source.store z).1 ∧
    AloneIn (p.run source.store y).2 (p.run Session.source.store z).2 := by
  refine p.run_alike (fun y z h => ?_) (fun q y z h => h.answer q) h
  exact ⟨h.alone.pass.clock, h.draft, h.plan, h.alone.pass⟩

/-- A commit goes through for both or for neither, to one ledger. -/
theorem commit {x : Transaction} {a : Amid} {w : OpenWork} {s : Session} (h : AloneIn (x, a) (w, s)) :
    (source.commit x a).1 = (Session.source.commit w s).1 ∧ (source.commit x a).2.Alone (Session.source.commit w s).2 := by
  have hdraft : x.draft = w.draft := h.draft
  have hpass : a.pass.Alone s := h.alone.pass
  simp only [source, Session.source, Session.commit, hdraft, hpass.ledger]
  cases s.ledger.commit w.draft with
  | ok l => exact ⟨rfl, hpass.others, rfl, hpass.clock⟩
  | error why => exact ⟨rfl, hpass⟩

end AloneIn

namespace Alone

variable {a : Amid} {s : Session}

/-- A hold has one fate for both. -/
theorem cancelOne (h : a.Alone s) (id : Int) :
    (Sweep.cancelOne source id a).1 = (Sweep.cancelOne Session.source id s).1 ∧
      (Sweep.cancelOne source id a).2.Alone (Sweep.cancelOne Session.source id s).2 := by
  obtain ⟨result, y, z, hy, hz, halone⟩ := exists_of_alike (h.begin.run (Desk.cancelReservation id))
  have hbegin : source.begin a = (.ok a.pass.begun, a.pass) := rfl
  have hbegin' : Session.source.begin s = (.ok (s.begin []), s) := rfl
  simp only [Sweep.cancelOne, hbegin, hbegin', hy, hz]
  cases result with
  | ok r =>
    obtain ⟨hended, hafter⟩ := halone.commit
    exact ⟨congrArg Sweep.fateOf hended, hafter⟩
  | error why => exact ⟨rfl, halone.alone⟩

/-- Holds that are handled one after the other have one report for both. -/
theorem cancelAll (h : a.Alone s) (holds : List Reservation) (report : SweepReport) :
    (Sweep.cancelAll source holds report a).1 = (Sweep.cancelAll Session.source holds report s).1 ∧
      (Sweep.cancelAll source holds report a).2.Alone (Sweep.cancelAll Session.source holds report s).2 := by
  induction holds generalizing a s report with
  | nil => exact ⟨rfl, h⟩
  | cons hold holds ih =>
    obtain ⟨fate, a', s', hy, hz, halone⟩ := exists_of_alike (h.cancelOne hold.id)
    simp only [Sweep.cancelAll, hy, hz]
    cases fate with
    | ok fate => exact ih halone (report.count fate)
    | error why => exact ⟨rfl, halone⟩

/-- Both find the same holds expired. -/
theorem scan (h : a.Alone s) (batch : Int) : (Sweep.scan source batch a).1 = (Sweep.scan Session.source batch s).1 ∧
    (Sweep.scan source batch a).2.Alone (Sweep.scan Session.source batch s).2 := by
  obtain ⟨hfound, halone⟩ := h.pass.begin.run (Holds.expired s.clock batch)
  have hnow : source.now a = (s.clock, a.pass) := by rw [← h.pass.clock]; rfl
  have hbegin : source.begin a.pass = (.ok a.pass.pass.begun, a.pass.pass) := rfl
  simp only [Sweep.scan, hnow, hbegin]
  exact ⟨hfound, halone.alone⟩

/-- Alone, a sweep of a source is a sweep of the session: it has the same report and leaves the same ledger. -/
theorem once (h : a.Alone s) (batch : Int) :
    (Sweep.once source batch a).1 = (Sweep.once Session.source batch s).1 ∧
      (Sweep.once source batch a).2.Alone (Sweep.once Session.source batch s).2 := by
  obtain ⟨found, a', s', hy, hz, halone⟩ := exists_of_alike (h.scan batch)
  simp only [Sweep.once, hy, hz]
  cases found with
  | ok holds => exact halone.cancelAll holds _
  | error why => exact ⟨rfl, halone⟩

end Alone

/-- What is left of a source after some sweeps, one after the other. -/
def sweeps (a : Amid) (batch : Int) : Nat → Amid
  | 0 => a
  | k + 1 => (Sweep.once source batch (a.sweeps batch k)).2

namespace Alone

/-- Alone, some sweeps of a source are as many sweeps of the session. -/
theorem sweeps {a : Amid} {s : Session} (h : a.Alone s) (batch : Int) (k : Nat) :
    (a.sweeps batch k).Alone (s.sweeps batch k) := by
  induction k with
  | zero => exact h
  | succ k ih => exact (ih.once batch).2

variable {policy : Policy} {a : Amid} {s : Traffic}

/-- Left alone on a ledger that transactions of desk operations lead to, a source cancels the oldest holds that have expired, as
many batches of them as it makes sweeps, puts their copies back on the shelf and leaves all else as it was. -/
theorem swept (h : a.Alone s.session) (hs : Reachable (Rules.desk policy) s) (batch : Int) (k : Nat) :
    ∃ holds, s.ledger.tables.Oldest s.clock (k * batch.toNat) holds ∧
      s.ledger.tables.Swept s.clock holds (a.sweeps batch k).traffic.ledger.tables := by
  obtain ⟨s', -, -, hsweeps, hswept, -⟩ := hs.sweeps batch k
  have hledger : (a.sweeps batch k).traffic.ledger = s'.ledger := by
    rw [(h.sweeps batch k).ledger, hsweeps]
    rfl
  exact ⟨_, Tables.oldest_take hs.sound.ledger.reservations s.clock _, hledger ▸ hswept⟩

/-- As many sweeps as there are batches leave no hold that has expired. -/
theorem drained (h : a.Alone s.session) (hs : Reachable (Rules.desk policy) s) {batch : Int} (hbatch : 0 < batch) :
    (a.sweeps batch (s.session.expired ⌈/⌉ batch.toNat)).traffic.ledger.tables.lapsed s.clock = [] := by
  have hdrained := hs.none_expired hbatch
  obtain ⟨s', -, hclock, hsweeps, -, -⟩ := hs.sweeps batch (s.session.expired ⌈/⌉ batch.toNat)
  rw [(h.sweeps batch _).ledger, hsweeps, ← hclock]
  rw [hsweeps] at hdrained
  exact List.length_eq_zero_iff.1 hdrained

end Alone

end Amid

end Circulation
