import Circulation.Proofs.Acceptance

/-!
# Two ways to return

A copy that is out can be returned by its own id and by the id of its loan. The desk gets to the same copy and the same loan
either way: the one finds the first borrowed loan of the copy, the other reads the loan before and after it locks the copy. In
consistent tables there is one borrowed loan of a copy at most, so both do the same (`Desk.returnLoan_run_eq`), and either goes
through exactly when a copy that is not withdrawn is out (`returns_agree`).
-/

namespace Circulation

open Procedure

variable {policy : Policy} {timeline : Nat → Instant} {w : Work}

/-- In consistent tables the one borrowed loan of a copy is found. -/
theorem Tables.Consistent.loanOf?_eq {t : Tables} (h : t.Consistent) {i : Int} {l : Loan} (hl : t.loans.get? i = some l)
    (hborrowed : l.isBorrowed = true) : t.loanOf? l.copyId = some l := by
  refine Table.find?_rows_eq hl (by simp [hborrowed]) fun j l' hl' hp => ?_
  simp only [Bool.and_eq_true, decide_eq_true_eq] at hp
  exact h.out_eq ⟨l', hl', hp.1, hp.2⟩ ⟨l, hl, rfl, hborrowed⟩

/-- No test stands against the return of a copy exactly when it is there and out. -/
theorem returnCopy_refusal?_eq_none_iff {t : Tables} {copyId n : Int} (h : t.Consistent) (hk : t.copies.Keyed n) :
    (Operation.returnCopy copyId).refusal? policy t = none ↔
      (∃ c, t.liveCopy? copyId = some c) ∧ ∃ i, t.Out copyId i := by
  refine wanting_eq_none_iff.trans ⟨fun ⟨c, hc, hpass⟩ => ⟨⟨c, hc⟩, ?_⟩, fun ⟨⟨c, hc⟩, i, hout⟩ => ⟨c, hc, ?_⟩⟩
  · obtain ⟨hrow, -⟩ := Option.filter_eq_some_iff.1 hc
    obtain rfl := (hk copyId c hrow).1
    cases hfind : t.loanOf? c.id with
    | none => simp [hfind] at hpass
    | some l =>
      obtain ⟨⟨i, hl⟩, hp⟩ := Table.get?_of_find?_rows hfind
      simp only [Bool.and_eq_true, decide_eq_true_eq] at hp
      exact ⟨i, l, hl, hp.1, hp.2⟩
  · obtain ⟨hrow, -⟩ := Option.filter_eq_some_iff.1 hc
    have hid : c.id = copyId := (hk copyId c hrow).1
    have hstatus := h.status_of_out hrow hout
    obtain ⟨l, hl, rfl, hborrowed⟩ := hout
    simp [hid, h.loanOf?_eq hl hborrowed, Loan.closingTests, hstatus, hborrowed]

/-! ## Runs -/

/-- A loan that is there is got, with nothing changed. -/
theorem Lending.get_run {loanId : Int} {l : Loan} (hl : w.draft.tables.loans.get? loanId = some l) :
    (get loanId).run (Work.store timeline) w = (.ok l, w) := by
  simp only [get, request, bind_eq, Procedure.bind, run, Work.store, Work.answer, Work.read, hl, require]

/-- The active loan of a copy is the first that is out on it. -/
theorem Lending.active_run (copyId : Int) :
    (active copyId).run (Work.store timeline) w = (.ok (w.draft.tables.loanOf? copyId), w) :=
  run_request ..

namespace Desk

/-- A copy that is not withdrawn is locked. -/
theorem lockCopy_run {copyId : Int} {c : Copy} (hc : w.draft.tables.liveCopy? copyId = some c) :
    (lockCopy copyId).run (Work.store timeline) w = (.ok c, { w with draft := w.draft.lock copyId }) := by
  have hc : w.draft.liveCopy? copyId = some c := hc
  simp only [lockCopy, request, bind_eq, Procedure.bind, run, Work.store, Work.answer, hc, require]

/-- A loan that is returned by its id is closed under the lock on its copy. -/
theorem returnLoan_run {loanId : Int} {l : Loan} {c : Copy} (hl : w.draft.tables.loans.get? loanId = some l)
    (hc : w.draft.tables.liveCopy? l.copyId = some c) : (returnLoan policy loanId).run (Work.store timeline) w =
      (closeLoan policy c l).run (Work.store timeline) { w with draft := w.draft.lock l.copyId } := by
  have hagain : ({ w with draft := w.draft.lock l.copyId } : Work).draft.tables.loans.get? loanId = some l := hl
  simp only [returnLoan, lockLoan, bind_eq, pure_eq, run_bind, Lending.get_run hl, lockCopy_run hc, Lending.get_run hagain,
    run_done]

/-- A copy that is returned by its id has the loan closed that is found on it, under the lock. -/
theorem returnCopy_run {copyId : Int} {l : Loan} {c : Copy} (hc : w.draft.tables.liveCopy? copyId = some c)
    (hl : w.draft.tables.loanOf? c.id = some l) : (returnCopy policy copyId).run (Work.store timeline) w =
      (closeLoan policy c l).run (Work.store timeline) { w with draft := w.draft.lock copyId } := by
  have hfound : ({ w with draft := w.draft.lock copyId } : Work).draft.tables.loanOf? c.id = some l := hl
  simp only [returnCopy, bind_eq, run_bind, lockCopy_run hc, Lending.active_run, hfound, require, run_done]

/-- To return the copy of a borrowed loan is to return the loan. -/
theorem returnLoan_run_eq (h : w.draft.tables.Consistent) {n : Int} (hk : w.draft.tables.copies.Keyed n) {loanId : Int}
    {l : Loan} (hl : w.draft.tables.loans.get? loanId = some l) (hborrowed : l.isBorrowed = true) {c : Copy}
    (hc : w.draft.tables.liveCopy? l.copyId = some c) : (returnLoan policy loanId).run (Work.store timeline) w =
      (returnCopy policy l.copyId).run (Work.store timeline) w := by
  have hid : c.id = l.copyId := (hk _ c (Option.filter_eq_some_iff.1 hc).1).1
  rw [returnLoan_run hl hc, returnCopy_run hc (hid ▸ h.loanOf?_eq hl hborrowed)]

end Desk

/-- A copy that a draft holds is a copy that is not withdrawn. -/
theorem Draft.Holding.liveCopy? {d : Draft} {c : Copy} (h : d.Holding c) : d.tables.liveCopy? c.id = some c :=
  Option.filter_eq_some_iff.2 ⟨h.row, by simp [h.live]⟩

section

variable {base : Ledger}

/-- A copy is taken back when it is not withdrawn and out. -/
theorem Desk.returnCopy_decided (h : w.draft.tables.Consistent) (hs : w.draft.Stands base w.lastId) (copyId : Int) :
    Decided ((Operation.returnCopy copyId).refusal? policy w.draft.tables)
      ((∃ c, w.draft.tables.liveCopy? copyId = some c) ∧ ∃ i, w.draft.tables.Out copyId i)
      (fun what => ∃ i l, w.draft.tables.loans.get? i = some l ∧ l.copyId = copyId ∧ l.isBorrowed = true ∧
        Overdue.charge l.dueDate (timeline w.readings) policy.dailyFineRate = .error what)
      ((returnCopy policy copyId).result timeline w) := by
  refine Concludes.decided (returnCopy_refusal?_eq_none_iff h hs.copies.keyed)
    (returnCopy_concludes hs (fun _ _ hwhy => hwhy) (fun _ _ _ hpass _ _ => hpass) ?_)
    (returnCopy_concludes hs (fun _ _ _ _ hwhat => nomatch hwhat) ?_
      fun _ _ _ _ _ _ _ _ _ _ _ _ _ _ _ _ _ _ _ => trivial)
  · exact fun _ _ _ _ _ _ _ hpass _ _ _ _ _ _ _ _ _ _ _ => hpass
  · rintro what _ l _ hfind hover _ ⟨⟩
    obtain ⟨⟨i, hl⟩, hp⟩ := Table.get?_of_find?_rows hfind
    simp only [Bool.and_eq_true, decide_eq_true_eq] at hp
    exact ⟨i, l, hl, hp.1, hp.2, hover⟩

/-- A loan that is taken back was borrowed, and its copy was not withdrawn. -/
theorem Desk.returnLoan_reads (hs : w.draft.Stands base w.lastId) {loanId : Int} {l' : Loan}
    (hr : (returnLoan policy loanId).result timeline w = .ok l') : ∃ l, w.draft.tables.loans.get? loanId = some l ∧
      l.isBorrowed = true ∧ ∃ c, w.draft.tables.liveCopy? l.copyId = some c := by
  have hreturn : (returnLoan policy loanId).Concludes timeline (fun _ _ => ∃ l, w.draft.tables.loans.get? loanId = some l ∧
      l.isBorrowed = true ∧ ∃ c, w.draft.tables.liveCopy? l.copyId = some c) (fun _ _ => True) w := by
    refine returnLoan_concludes hs (fun _ _ _ => trivial) (fun _ _ _ _ _ _ => trivial) ?_
    rintro c l - - - - - - rfl hl hborrowed hcopy hc - - - - -
    exact ⟨l, hl, hborrowed, c, hcopy ▸ hc.liveCopy?⟩
  obtain ⟨-, hread⟩ := hreturn.result_ok hr
  exact hread

end

/-- In every transaction of desk operations that is at rest, a copy is taken back exactly when it is not withdrawn and a
borrowed loan is of it, as far as its fine stays in range; that is to take back the loan, with the same result and with the
same left behind; and a loan is taken back exactly when it is borrowed and its copy is taken back. -/
theorem returns_agree {policy : Policy} {s : Traffic} (h : Reachable (Rules.desk policy) s) {k : Nat} {x : Transaction}
    (hx : s.opened k = some x) (hd : x.doing = none) (terms : Policy) (timeline : Nat → Instant) {w : Work}
    (hdraft : w.draft = x.draft) (hlast : s.ledger.lastId ≤ w.lastId) :
    (∀ copyId, Decided ((Operation.returnCopy copyId).refusal? terms w.draft.tables)
      ((∃ c, w.draft.tables.liveCopy? copyId = some c) ∧ ∃ i, w.draft.tables.Out copyId i)
      (fun what => ∃ i l, w.draft.tables.loans.get? i = some l ∧ l.copyId = copyId ∧ l.isBorrowed = true ∧
        Overdue.charge l.dueDate (timeline w.readings) terms.dailyFineRate = .error what)
      ((Desk.returnCopy terms copyId).result timeline w)) ∧
    (∀ copyId i, (∃ c, w.draft.tables.liveCopy? copyId = some c) → w.draft.tables.Out copyId i →
      (Desk.returnLoan terms i).run (Work.store timeline) w = (Desk.returnCopy terms copyId).run (Work.store timeline) w) ∧
    ∀ loanId, (∃ l', (Desk.returnLoan terms loanId).result timeline w = .ok l') ↔
      ∃ l, w.draft.tables.loans.get? loanId = some l ∧ l.isBorrowed = true ∧
        ∃ l', (Desk.returnCopy terms l.copyId).result timeline w = .ok l' := by
  have hconsistent := ((((agreement policy).holds h).opened k x hx).rest hd fun hs => hs.elim).1
  have hs := (h.sound.opened k x hx).stands.mono hlast
  rw [← hdraft] at hconsistent hs
  have hsame {loanId : Int} {l : Loan} (hl : w.draft.tables.loans.get? loanId = some l) (hborrowed : l.isBorrowed = true)
      (hc : ∃ c, w.draft.tables.liveCopy? l.copyId = some c) : (Desk.returnLoan terms loanId).run (Work.store timeline) w =
        (Desk.returnCopy terms l.copyId).run (Work.store timeline) w := by
    obtain ⟨c, hc⟩ := hc
    exact Desk.returnLoan_run_eq hconsistent hs.copies.keyed hl hborrowed hc
  refine ⟨Desk.returnCopy_decided hconsistent hs, fun copyId i hc hout => ?_, fun loanId => ⟨fun ⟨l', hr⟩ => ?_, ?_⟩⟩
  · obtain ⟨l, hl, rfl, hborrowed⟩ := hout
    exact hsame hl hborrowed hc
  · obtain ⟨l, hl, hborrowed, hc⟩ := Desk.returnLoan_reads hs hr
    exact ⟨l, hl, hborrowed, l', by rw [Procedure.result, ← hsame hl hborrowed hc]; exact hr⟩
  · rintro ⟨l, hl, hborrowed, l', hr⟩
    have hdecided : Decided _ _ _ ((Desk.returnCopy terms l.copyId).result timeline w) :=
      Desk.returnCopy_decided hconsistent hs l.copyId
    have hthere := (hdecided.granted fun what hover => by simp [hr] at hover).1 ⟨l', hr⟩
    exact ⟨l', by rw [Procedure.result, hsame hl hborrowed hthere.1]; exact hr⟩

/-- The copy that is lent may be returned by its id and by the id of its loan. -/
theorem lentAndHeld_returns : ∃ x l, lentAndHeld.opened 1 = some x ∧ x.doing = none ∧ x.draft.tables.Out 4 6 ∧
    (Desk.returnCopy {} 4).result (fun _ => .epoch) ⟨x.draft, lentAndHeld.ledger.lastId, 0⟩ = .ok l ∧
    (Desk.returnLoan {} 6).run (Work.store fun _ => .epoch) ⟨x.draft, lentAndHeld.ledger.lastId, 0⟩ =
      (Desk.returnCopy {} 4).run (Work.store fun _ => .epoch) ⟨x.draft, lentAndHeld.ledger.lastId, 0⟩ := by
  obtain ⟨x, hx⟩ := Option.isSome_iff_exists.1 (show (lentAndHeld.opened 1).isSome = true by decide +kernel)
  have hrest : (lentAndHeld.opened 1).all (·.doing.isNone) = true := by decide +kernel
  have hlive : (lentAndHeld.opened 1).all (fun x => (x.draft.tables.liveCopy? 4).isSome) = true := by decide +kernel
  have hloan : (lentAndHeld.opened 1).bind (fun x => (x.draft.tables.loans.get? 6).filter
      fun l => l.copyId = 4 && l.isBorrowed) |>.isSome := by decide +kernel
  have hok : (lentAndHeld.opened 1).all (fun x => ((Desk.returnCopy {} 4).result (fun _ => .epoch)
      ⟨x.draft, lentAndHeld.ledger.lastId, 0⟩).isOk) = true := by decide +kernel
  simp only [hx, Option.all_some, Option.isNone_iff_eq_none, Option.bind_some] at hrest hlive hloan hok
  obtain ⟨row, hrow⟩ := Option.isSome_iff_exists.1 hloan
  obtain ⟨hrow, hout⟩ := Option.filter_eq_some_iff.1 hrow
  simp only [Bool.and_eq_true, decide_eq_true_eq] at hout
  have hsame := (returns_agree lentAndHeld_reachable hx hrest {} (fun _ => .epoch)
    (w := ⟨x.draft, lentAndHeld.ledger.lastId, 0⟩) rfl (Int.le_refl _)).2.1 4 6 (Option.isSome_iff_exists.1 hlive)
    ⟨row, hrow, hout⟩
  cases hr : (Desk.returnCopy {} 4).result (fun _ => .epoch) ⟨x.draft, lentAndHeld.ledger.lastId, 0⟩ with
  | error why => simp [hr, Except.isOk, Except.toBool] at hok
  | ok l => exact ⟨x, l, hx, hrest, ⟨row, hrow, hout⟩, hr, hsame⟩

end Circulation
