import Circulation.Proofs.Logbook

/-!
# Conditions of writes

A conditional write asks something of a row: that a copy is not withdrawn and in some status, that a loan is out and was
renewed so often, that a reservation is in some status, that a fine is outstanding. It was so in the draft; by the time of
the commit it may have ceased to be so in the ledger. Main statement: a commit that goes through meets a ledger where the
first condition that the transaction put to a row still holds, except of a copy or a reservation that another transaction
wrote meanwhile with no lock in common, and it is refused otherwise (`conditions_hold_at_commit`). The exception is real, and
what another transaction wrote is lost by it: loans and fines are asked for again, and of copies and reservations the commit
knows only the locks on copies (`unlocked_writes_overlooked`).
-/

namespace Circulation

/-- What a conditional write asks of a row. -/
inductive Condition where
  /-- That a copy is not withdrawn and in a status. -/
  | copy (id : Int) (status : CopyStatus)
  /-- That a loan is out and was renewed so often. -/
  | loan (id : Int) (renewals : Int)
  /-- That a reservation is in a status. -/
  | reservation (id : Int) (status : ReservationStatus)
  /-- That a fine is outstanding. -/
  | fine (id : Int)
  deriving DecidableEq

namespace Condition

/-- Whether two conditions are on one row. -/
def sameRow : Condition → Condition → Bool
  | .copy i _, .copy j _ => i = j
  | .loan i _, .loan j _ => i = j
  | .reservation i _, .reservation j _ => i = j
  | .fine i, .fine j => i = j
  | _, _ => false

/-- Whether there is such a row. -/
def known (t : Tables) : Condition → Bool
  | .copy id _ => t.copies.contains id
  | .loan id _ => t.loans.contains id
  | .reservation id _ => t.reservations.contains id
  | .fine id => t.fines.contains id

/-- Whether the row is as the condition asks. -/
def holds (t : Tables) : Condition → Bool
  | .copy id status => (t.copies.get? id).any fun c => !c.isDeleted && c.status = status
  | .loan id renewals => (t.loans.get? id).any fun l => l.isBorrowed && l.renewCount = renewals
  | .reservation id status => (t.reservations.get? id).any (·.status = status)
  | .fine id => (t.fines.get? id).any (!·.settled)

/-- Whether a draft wrote the row. -/
def wrote (d : Draft) : Condition → Bool
  | .copy id _ => d.written.copies.contains id
  | .loan id _ => d.written.loans.contains id
  | .reservation id _ => d.written.reservations.contains id
  | .fine id => d.written.fines.contains id

/-- Whether the commit asks for it again. Of copies it asks after locks, and of reservations whether they collide. -/
def askedAgain : Condition → Bool
  | .copy _ _ => false
  | .loan _ _ => true
  | .reservation _ _ => false
  | .fine _ => true

/-- Whether some tables have the row as others have it. -/
def Untouched (t t' : Tables) : Condition → Prop
  | .copy id _ => t'.copies.get? id = t.copies.get? id
  | .loan id _ => t'.loans.get? id = t.loans.get? id
  | .reservation id _ => t'.reservations.get? id = t.reservations.get? id
  | .fine id => t'.fines.get? id = t.fines.get? id

/-- Whether it escapes the commit of a transaction what became of the row: the commit does not ask for the condition again,
and one of those that committed meanwhile wrote the row and locked no copy that the transaction locked. -/
def Overlooked (c : Condition) (x : Transaction) (committed : List Transaction) : Prop :=
  c.askedAgain = false ∧ ∃ e ∈ committed, c.wrote e.draft = true ∧
    ∀ id, e.draft.locked.contains id = true → x.draft.locked.contains id = false

end Condition

/-- The condition of a conditional write that was answered with its having been written. -/
def Deed.condition? : Deed → Option Condition
  | .asked (.moveCopy id expected _ _) (.ok true) => some (.copy id expected)
  | .asked (.withdrawCopy id _) (.ok true) => some (.copy id .available)
  | .asked (.updateLoan loan expected) (.ok true) => some (.loan loan.id expected)
  | .asked (.moveReservation id expected _ _) (.ok true) => some (.reservation id expected)
  | .asked (.settleFine id _) (.ok true) => some (.fine id)
  | _ => none

/-- The conditions that were met by the writes of some deeds, in order. -/
def Deed.conditions (ds : List Deed) : List Condition :=
  ds.filterMap Deed.condition?

namespace Condition

variable {c c' : Condition} {t t' t'' : Tables} {d d' : Draft} {m n n' : Int} {w : Work} {q : Request}
  {a : Except Stop q.Answer}

theorem Untouched.refl (t : Tables) (c : Condition) : c.Untouched t t := by
  cases c with
  | _ => rfl

theorem Untouched.trans (h : c.Untouched t t') (h' : c.Untouched t' t'') : c.Untouched t t'' := by
  cases c with
  | _ => exact Eq.trans h' h

/-- A row left untouched meets a condition as it did. -/
theorem Untouched.holds (h : c.Untouched t t') : c.holds t' = c.holds t := by
  cases c with
  | _ => simp only [Condition.holds, show _ = _ from h]

/-- A row left untouched is there if it was. -/
theorem Untouched.known (h : c.Untouched t t') : c.known t' = c.known t := by
  cases c with
  | _ => simp only [Condition.known, Table.contains, show _ = _ from h]

/-- The id of the row. -/
def id : Condition → Int
  | .copy id _ => id
  | .loan id _ => id
  | .reservation id _ => id
  | .fine id => id

/-- Conditions on one row are under one id. -/
theorem id_eq_of_sameRow (h : c.sameRow c' = true) : c.id = c'.id := by
  cases c <;> cases c' <;> simp_all [sameRow, Condition.id]

/-- A row that is known is held by the tables. -/
theorem known_holds (h : c.known t = true) : t.Holds c.id := by
  cases c with
  | copy => exact .inl h
  | loan => exact .inr (.inl h)
  | reservation => exact .inr (.inr (.inr (.inl h)))
  | fine => exact .inr (.inr (.inr (.inr h)))

/-- A row that is there is not one under a new id. -/
theorem not_sameRow_new {base : Ledger} (h : c.known d.tables = true) (hs : d.Stands base n) (hn : n < c'.id) :
    c.sameRow c' = false := by
  cases hrow : c.sameRow c' with
  | false => rfl
  | true =>
    have hle := hs.le_of_holds (known_holds h)
    rw [id_eq_of_sameRow hrow] at hle
    omega

/-- Putting a copy leaves all other rows untouched. -/
theorem untouched_putCopy {r : Copy} {id : Int} {status : CopyStatus} (h : c.sameRow (.copy id status) = false) :
    c.Untouched d.tables (d.putCopy r id).tables := by
  cases c with
  | copy i _ =>
    have hne : i ≠ id := by simpa [sameRow] using h
    simp [Untouched, Draft.putCopy, hne]
  | _ => rfl

/-- Putting a loan leaves all other rows untouched. -/
theorem untouched_putLoan {r : Loan} {id renewals : Int} (h : c.sameRow (.loan id renewals) = false) :
    c.Untouched d.tables (d.putLoan r id).tables := by
  cases c with
  | loan i _ =>
    have hne : i ≠ id := by simpa [sameRow] using h
    simp [Untouched, Draft.putLoan, hne]
  | _ => rfl

/-- Putting a reservation leaves all other rows untouched. -/
theorem untouched_putReservation {r : Reservation} {id : Int} {status : ReservationStatus}
    (h : c.sameRow (.reservation id status) = false) : c.Untouched d.tables (d.putReservation r id).tables := by
  cases c with
  | reservation i _ =>
    have hne : i ≠ id := by simpa [sameRow] using h
    simp [Untouched, Draft.putReservation, hne]
  | _ => rfl

/-- Putting a fine leaves all other rows untouched. -/
theorem untouched_putFine {r : Fine} {id : Int} (h : c.sameRow (.fine id) = false) :
    c.Untouched d.tables (d.putFine r id).tables := by
  cases c with
  | fine i =>
    have hne : i ≠ id := by simpa [sameRow] using h
    simp [Untouched, Draft.putFine, hne]
  | _ => rfl

/-- Whether a draft notes what the commit is to ask for again. -/
def noted (d : Draft) : Condition → Bool
  | .loan id _ => d.written.loans.contains id
  | .fine id => d.settled.contains id
  | _ => true

/-- What a draft notes it does not forget. -/
theorem noted_grows (h : d.Grows d') (hc : c.noted d = true) : c.noted d' = true := by
  cases c with
  | copy | reservation => rfl
  | loan id => exact h.writtenLoans id hc
  | fine id => exact h.settled id hc

/-- Whether a conditional write was made: its condition held, it is noted, and the other rows are as they were. -/
structure Met (c : Condition) (d d' : Draft) : Prop where
  holds : c.holds d.tables = true
  noted : c.noted d' = true
  others : ∀ c' : Condition, c'.sameRow c = false → c'.Untouched d.tables d'.tables

/-- A change of a copy is not made, or its condition was met. -/
theorem changeCopy_cases (d : Draft) (id : Int) (status : CopyStatus) (change : Copy → Copy) :
    d.changeCopy id (fun r => !r.isDeleted && r.status = status) change = (false, d) ∨
      ∃ d', d.changeCopy id (fun r => !r.isDeleted && r.status = status) change = (true, d') ∧ (copy id status).Met d d' := by
  unfold Draft.changeCopy
  split
  · rename_i r hr
    split
    · rename_i h
      refine .inr ⟨_, rfl, ?_, rfl, fun c' => untouched_putCopy⟩
      simpa [Condition.holds, hr] using h
    · exact .inl rfl
  · exact .inl rfl

/-- An update of a loan is not made, or its condition was met. -/
theorem updateLoan_cases (d : Draft) (l : Loan) (expected : Int) : d.updateLoan l expected = (false, d) ∨
    ∃ d', d.updateLoan l expected = (true, d') ∧ (loan l.id expected).Met d d' := by
  unfold Draft.updateLoan
  split
  · rename_i r hr
    split
    · rename_i h
      refine .inr ⟨_, rfl, ?_, by simp [noted, Draft.putLoan], fun c' hc' => ?_⟩
      · simpa [Condition.holds, hr] using h
      · exact untouched_putLoan (d := d.guard l.id expected) hc'
    · exact .inl rfl
  · exact .inl rfl

/-- A move of a reservation is not made, or its condition was met. -/
theorem moveReservation_cases (d : Draft) (id : Int) (expected status : ReservationStatus) (t : Instant) :
    d.moveReservation id expected status t = (false, d) ∨
      ∃ d', d.moveReservation id expected status t = (true, d') ∧ (reservation id expected).Met d d' := by
  unfold Draft.moveReservation
  split
  · rename_i r hr
    split
    · rename_i h
      refine .inr ⟨_, rfl, ?_, rfl, fun c' => untouched_putReservation⟩
      simpa [Condition.holds, hr] using h
    · exact .inl rfl
  · exact .inl rfl

/-- A settlement of a fine is not made, or its condition was met. -/
theorem settleFine_cases (d : Draft) (id : Int) (t : Instant) : d.settleFine id t = (false, d) ∨
    ∃ d', d.settleFine id t = (true, d') ∧ (fine id).Met d d' := by
  unfold Draft.settleFine
  split
  · rename_i r hr
    split
    · exact .inl rfl
    · rename_i h
      refine .inr ⟨_, rfl, ?_, by simp [noted], fun c' => untouched_putFine⟩
      simpa [Condition.holds, hr] using h
  · exact .inl rfl

/-- The answer of a conditional write says whether it was made; if it was not, the draft is as it was. -/
theorem write_cases {r : Bool × Draft} {e : Deed} {a : Except Stop Bool}
    (hr : r = (false, d) ∨ ∃ d', r = (true, d') ∧ c.Met d d') (hw : Work.write ⟨d, m, 0⟩ r = (a, w))
    (hmade : a = .ok true → e.condition? = some c) (hnot : a = .ok false → e.condition? = none) :
    (∃ c : Condition, e.condition? = some c ∧ c.Met d w.draft) ∨
      e.condition? = none ∧ ∀ c : Condition, c.known d.tables = true → c.Untouched d.tables w.draft.tables := by
  rcases hr with rfl | ⟨d', rfl, hmet⟩
  · cases hw
    exact .inr ⟨hnot rfl, fun c _ => .refl _ c⟩
  · cases hw
    exact .inl ⟨c, hmade rfl, hmet⟩

/-- A request is a conditional write that was made, or it touches no row that is there. -/
theorem answered_cases {base : Ledger} (hs : d.Stands base m) (hw : Work.answer q ⟨d, m, 0⟩ = (a, w)) :
    (∃ c : Condition, (Deed.asked q a).condition? = some c ∧ c.Met d w.draft) ∨
      (Deed.asked q a).condition? = none ∧
        ∀ c : Condition, c.known d.tables = true → c.Untouched d.tables w.draft.tables := by
  have fresh {c : Condition} (c' : Condition) (hc : c.known d.tables = true) (hid : c'.id = m + 1) : c.sameRow c' = false :=
    not_sameRow_new hc hs (by omega)
  cases q with
  | lockCopy | outstandingTotal =>
    simp only [Work.answer] at hw
    split at hw
    · cases hw
      exact .inr ⟨rfl, fun c _ => .refl _ c⟩
    · cases hw
      exact .inr ⟨rfl, fun c _ => .refl _ c⟩
  | insertCopy bookId t =>
    simp only [Work.answer] at hw
    split at hw
    · cases hw
      exact .inr ⟨rfl, fun c hc => untouched_putCopy (fresh (.copy (m + 1) .available) hc rfl)⟩
    · cases hw
      exact .inr ⟨rfl, fun c _ => .refl _ c⟩
  | moveCopy id expected status t =>
    exact write_cases (changeCopy_cases d id expected _) hw (by rintro rfl; rfl) (by rintro rfl; rfl)
  | withdrawCopy id t =>
    exact write_cases (changeCopy_cases d id .available _) hw (by rintro rfl; rfl) (by rintro rfl; rfl)
  | insertLoan l =>
    cases hw
    exact .inr ⟨rfl, fun c hc => untouched_putLoan (fresh (.loan (m + 1) 0) hc rfl)⟩
  | updateLoan l expected =>
    exact write_cases (updateLoan_cases d l expected) hw (by rintro rfl; rfl) (by rintro rfl; rfl)
  | insertEntry e =>
    cases hw
    refine .inr ⟨rfl, fun c _ => ?_⟩
    cases c with
    | _ => rfl
  | insertReservation r =>
    cases hw
    exact .inr ⟨rfl, fun c hc => untouched_putReservation (fresh (.reservation (m + 1) .pending) hc rfl)⟩
  | moveReservation id expected status t =>
    exact write_cases (moveReservation_cases d id expected status t) hw (by rintro rfl; rfl) (by rintro rfl; rfl)
  | insertFine f =>
    cases hw
    exact .inr ⟨rfl, fun c hc => untouched_putFine (fresh (.fine (m + 1)) hc rfl)⟩
  | settleFine id t =>
    exact write_cases (settleFine_cases d id t) hw (by rintro rfl; rfl) (by rintro rfl; rfl)
  | _ =>
    cases hw
    exact .inr ⟨rfl, fun c _ => .refl _ c⟩

/-- The first condition that deeds put to a row that is there held where they began, and is noted where they end. -/
theorem met_of_first {base : Ledger} {ds : List Deed} (h : d.Did n ds d' n') (hs : d.Stands base n)
    (hknown : c.known d.tables = true) (hfirst : (Deed.conditions ds).find? c.sameRow = some c) :
    c.holds d.tables = true ∧ c.noted d' = true := by
  induction h with
  | nil => cases hfirst
  | called p _ ih => exact ih hs hknown hfirst
  | read t _ ih => exact ih hs hknown hfirst
  | @asked d d' n m n' ds q a w hm hw h ih =>
    have hs' := (hs.mono hm).change (Draft.change_of_answered hw)
    -- A request that is not a write on the row leaves it to the deeds that follow.
    have later (htouch : c.Untouched d.tables w.draft.tables) (hrest : (Deed.conditions ds).find? c.sameRow = some c) :
        c.holds d.tables = true ∧ c.noted d' = true := by
      have := ih hs' (htouch.known ▸ hknown) hrest
      rwa [htouch.holds] at this
    rcases answered_cases (hs.mono hm) hw with ⟨c', hc', hmet⟩ | ⟨hnone, htouch⟩
    · rw [Deed.conditions, List.filterMap_cons_some hc', List.find?_cons] at hfirst
      cases hrow : c.sameRow c' with
      | true =>
        rw [hrow] at hfirst
        cases hfirst
        exact ⟨hmet.holds, noted_grows (h.grows hs') hmet.noted⟩
      | false =>
        rw [hrow] at hfirst
        exact later (hmet.others c hrow) hfirst
    · rw [Deed.conditions, List.filterMap_cons_none hnone] at hfirst
      exact later (htouch c hknown) hfirst

/-- A commit touches no row that the draft did not write. -/
theorem untouched_commit {l l' : Ledger} {x : Transaction} {committed : List Transaction} (h : Committing l x committed l')
    (hc : c.wrote x.draft = false) : c.Untouched l.tables l'.tables := by
  cases c with
  | copy id => exact (h.copies id).trans (if_neg (by simpa [wrote] using hc))
  | loan id => exact (h.loans id).trans (if_neg (by simpa [wrote] using hc))
  | reservation id => exact (h.reservations id).trans (if_neg (by simpa [wrote] using hc))
  | fine id => exact (h.fines id).trans (if_neg (by simpa [wrote] using hc))

variable {rules : Rules} {s : Traffic} {k : Nat} {x : Transaction}

/-- A row that nobody wrote who committed since a transaction began is as it was then. -/
theorem untouched_since (h : Reachable rules s) (hx : s.opened k = some x)
    (hfree : ∀ e ∈ s.journal.drop x.began, c.wrote e.draft = false) : c.Untouched x.base.tables s.ledger.tables := by
  refine h.moved (fun l l' js => (∀ e ∈ js, c.wrote e.draft = false) → c.Untouched l.tables l'.tables) ?_ ?_ ?_ hx hfree
  · intro l l' hg _
    rw [hg.tables]
    cases c with
    | _ => rfl
  · intro l l' l'' js js' h h' hjs
    exact (h fun e he => hjs e (List.mem_append_left _ he)).trans (h' fun e he => hjs e (List.mem_append_right _ he))
  · intro l l' y js hcom hjs
    exact untouched_commit hcom (hjs y (List.mem_singleton_self y))

/-- What is noted to be asked for again holds in the ledger that a commit goes through to. -/
theorem holds_of_clear {l : Ledger} {committed : List Transaction} (hs : x.draft.Stands x.base l.lastId)
    (hsince : x.base.Since l committed) (hclear : l.Clear x.draft) (hask : c.askedAgain = true)
    (hbase : c.holds x.base.tables = true) (hnoted : c.noted x.draft = true) : c.holds l.tables = true := by
  cases c with
  | copy | reservation => cases hask
  | loan id renewals =>
    obtain ⟨a, ha, hcond⟩ := Option.any_eq_true _ _ |>.1 hbase
    obtain ⟨b, hb, -⟩ := hsince.loans id a ha
    obtain ⟨v, hv⟩ := Table.contains_iff.1 (hs.guarded id hnoted (Table.contains_of_get? ha))
    -- The guard is the renewal count that the base has.
    have hguard := (hs.guards id v hv).2 a ha
    obtain ⟨hout, hcount⟩ := hclear.guards id v b hv hb
    simp only [Bool.and_eq_true, decide_eq_true_eq] at hcond
    simp [Condition.holds, hb, hout, hcount, ← hguard.2, hcond.2]
  | fine id =>
    obtain ⟨a, ha, -⟩ := Option.any_eq_true _ _ |>.1 hbase
    obtain ⟨b, hb, -⟩ := hsince.fines id a ha
    simp [Condition.holds, hb, hclear.settled id b hnoted hb]

end Condition

/-- A commit that goes through meets a ledger where the first condition that the transaction put to a row it found still
holds, or it overlooks what became of the row. When the condition has ceased to hold and that is not overlooked the commit is
refused. -/
theorem conditions_hold_at_commit {rules : Rules} {b : Logbook} (h : Recorded rules b) {k : Nat} {x : Transaction}
    (hx : b.traffic.opened k = some x) {c : Condition} (hknown : c.known x.base.tables = true)
    (hfirst : (Deed.conditions (b.pages k)).find? c.sameRow = some c) :
    (∀ l, b.traffic.ledger.commit x.draft = .ok l →
      c.holds b.traffic.ledger.tables = true ∨ c.Overlooked x (b.traffic.journal.drop x.began)) ∧
    (c.holds b.traffic.ledger.tables = false → ¬c.Overlooked x (b.traffic.journal.drop x.began) →
      ∃ clash, b.traffic.ledger.commit x.draft = .error (.conflict clash)) := by
  have ho := h.reachable.sound.opened k x hx
  obtain ⟨n, -, hdid⟩ := h.did hx
  obtain ⟨hbase, hnoted⟩ := Condition.met_of_first hdid (.begin ho.base) hknown hfirst
  have holds (hclear : b.traffic.ledger.Clear x.draft) :
      c.holds b.traffic.ledger.tables = true ∨ c.Overlooked x (b.traffic.journal.drop x.began) := by
    cases hask : c.askedAgain with
    | true => exact .inl (Condition.holds_of_clear ho.stands ho.since hclear hask hbase hnoted)
    | false =>
      by_cases hfree : ∀ e ∈ b.traffic.journal.drop x.began, c.wrote e.draft = false
      · exact .inl ((Condition.untouched_since h.reachable hx hfree).holds.trans hbase)
      · simp only [not_forall, Bool.not_eq_false] at hfree
        obtain ⟨e, he, hwrote⟩ := hfree
        have hcom := h.reachable.sound.committing hx (Ledger.commit_eq_ok_iff.2 ⟨hclear, rfl⟩)
        refine .inr ⟨hask, e, he, hwrote, fun id hlocked => ?_⟩
        cases hxl : x.draft.locked.contains id with
        | false => rfl
        | true => simp [hcom.not_locked hxl e he] at hlocked
  refine ⟨fun l hl => holds (Ledger.commit_eq_ok_iff.1 hl).1, fun hceased hover => Ledger.commit_of_not_clear fun hclear => ?_⟩
  rcases holds hclear with hholds | hoverlooked
  · simp [hholds] at hceased
  · exact hover hoverlooked

/-- The loan of the desk below, renewed once. -/
def renewedOnce : Loan :=
  { NewLoan.toRow ⟨3, 1, 2, .epoch, .epoch⟩ 4 with renewCount := 1 }

/-- A desk where three transactions write at once, with no lock in common. The first moved a copy and closed the hold on it,
and has committed. The second moved them too, the copy under a lock, and renewed a loan, as did the third. -/
def strangers : Logbook :=
  let b : Logbook := { traffic := { clock := .epoch } }
  let b := (b.act (.addBook "Emma")).act (.addUser "ann")
  let b := (b.act (.begin 0)).serve 0 (Request.insertCopy 1 .epoch).alone 2
  let b := b.serve 0 (Request.insertLoan ⟨3, 1, 2, .epoch, .epoch⟩).alone 2
  let b := (b.serve 0 (Request.insertReservation ⟨3, 1, 2, .epoch, .epoch⟩).alone 2).act (.commit 0)
  let b := ((b.act (.begin 0)).act (.begin 1)).act (.begin 2)
  let b := b.serve 0 (Request.moveCopy 3 .available .onLoan .epoch).alone 2
  let b := b.serve 0 (Request.moveReservation 5 .pending .fulfilled .epoch).alone 2
  let b := b.serve 1 (Request.lockCopy 3).alone 2
  let b := b.serve 1 (Request.moveCopy 3 .available .onReserve .epoch).alone 2
  let b := b.serve 1 (Request.moveReservation 5 .pending .fulfilled .epoch).alone 2
  let b := b.serve 1 (Request.updateLoan renewedOnce 0).alone 2
  let b := b.serve 2 (Request.updateLoan renewedOnce 0).alone 2
  b.act (.commit 0)

/-- A transaction of any requests may put a request. -/
theorem Recorded.put {b : Logbook} (h : Recorded Rules.anything b) (k : Nat) (q : Request) (steps : Nat) :
    Recorded Rules.anything (b.serve k q.alone steps) :=
  h.serve (fun _ _ => ⟨trivial, False.elim⟩) steps

theorem strangers_recorded : Recorded Rules.anything strangers := by
  have start : Recorded Rules.anything { traffic := { clock := .epoch } } := .start .epoch trivial
  have users := (start.act (.addBook "Emma") trivial).act (.addUser "ann") trivial
  have lent := ((users.act (.begin 0) trivial).put 0 (.insertCopy 1 .epoch) 2).put 0
    (.insertLoan ⟨3, 1, 2, .epoch, .epoch⟩) 2
  have rows := lent.put 0 (.insertReservation ⟨3, 1, 2, .epoch, .epoch⟩) 2
  have begun := (((rows.act (.commit 0) fun _ _ => False.elim).act (.begin 0) trivial).act (.begin 1) trivial).act (.begin 2)
    trivial
  have first := (begun.put 0 (.moveCopy 3 .available .onLoan .epoch) 2).put 0
    (.moveReservation 5 .pending .fulfilled .epoch) 2
  have second := ((first.put 1 (.lockCopy 3) 2).put 1 (.moveCopy 3 .available .onReserve .epoch) 2).put 1
    (.moveReservation 5 .pending .fulfilled .epoch) 2
  have renewed := (second.put 1 (.updateLoan renewedOnce 0) 2).put 2 (.updateLoan renewedOnce 0) 2
  exact renewed.act (.commit 0) fun _ _ => False.elim

/-- The second may commit, though neither is the copy available any more nor the hold pending, as its first writes on them
asked. -/
theorem unlocked_writes_overlooked : Recorded Rules.anything strangers ∧ ∃ x l, strangers.traffic.opened 1 = some x ∧
    x.doing = none ∧ strangers.traffic.ledger.commit x.draft = .ok l ∧
    ∀ c ∈ [Condition.copy 3 .available, .reservation 5 .pending], c.known x.base.tables = true ∧
      (Deed.conditions (strangers.pages 1)).find? c.sameRow = some c ∧ c.holds strangers.traffic.ledger.tables = false := by
  have hx : strangers.traffic.opened 1 = some ((strangers.traffic.opened 1).get (by decide +kernel)) := (Option.some_get _).symm
  refine ⟨strangers_recorded, _, _, hx, ?_, Ledger.commit_eq_ok_iff.2 ⟨?_, rfl⟩, ?_⟩
  · exact Option.isNone_iff_eq_none.1 (by decide +kernel)
  · exact Ledger.clash?_eq_none_iff.1 (by decide +kernel)
  · decide +kernel

/-- Once the second has committed, the loan has not the renewal count that the third expected, and the third is refused. -/
theorem strangers_third_refused : ∃ x, (strangers.act (.commit 1)).traffic.opened 2 = some x ∧
    (Condition.loan 4 0).known x.base.tables = true ∧
    (Deed.conditions ((strangers.act (.commit 1)).pages 2)).find? (Condition.loan 4 0).sameRow = some (.loan 4 0) ∧
    (Condition.loan 4 0).holds (strangers.act (.commit 1)).traffic.ledger.tables = false ∧
    ∃ clash, (strangers.act (.commit 1)).traffic.ledger.commit x.draft = .error (.conflict clash) := by
  have hx : (strangers.act (.commit 1)).traffic.opened 2 =
    some (((strangers.act (.commit 1)).traffic.opened 2).get (by decide +kernel)) := (Option.some_get _).symm
  have recorded := strangers_recorded.act (.commit 1) fun _ _ => False.elim
  have known : (Condition.loan 4 0).known
    (((strangers.act (.commit 1)).traffic.opened 2).get (by decide +kernel)).base.tables = true := by decide +kernel
  have first : (Deed.conditions ((strangers.act (.commit 1)).pages 2)).find? (Condition.loan 4 0).sameRow =
    some (.loan 4 0) := by decide +kernel
  have ceased : (Condition.loan 4 0).holds (strangers.act (.commit 1)).traffic.ledger.tables = false := by decide +kernel
  exact ⟨_, hx, known, first, ceased, (conditions_hold_at_commit recorded hx known first).2 ceased fun h => nomatch h.1⟩

end Circulation
