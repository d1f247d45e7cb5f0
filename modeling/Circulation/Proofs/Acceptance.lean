import Circulation.Proofs.Agreement
import Circulation.Proofs.Decisions

/-!
# Who may borrow and who may reserve

A copy may be lent to a user who is below the cap on loans and has no loan on its title, when it is on the shelf or held by a
reservation of that user's own; it may be reserved when it is on the shelf, by a user who is not above the cap on reservations
and has neither a loan nor a reservation on its title. The desk grants exactly those requests and refuses the others with the
first test they fail (`requests_decided`). It looks at one pending reservation of the copy only; that there is no other is due
to the agreement of the tables.
-/

namespace Circulation

namespace Tables

variable {t : Tables} {copyId userId : Int}

/-- Whether a pending reservation of a user holds a copy. -/
def HeldFor (t : Tables) (copyId userId : Int) : Prop :=
  ∃ i r, t.reservations.get? i = some r ∧ r.copyId = copyId ∧ r.isPending = true ∧ r.userId = userId

/-- In consistent tables the one pending reservation on a copy is found. -/
theorem Consistent.holdOn?_eq (h : t.Consistent) {i : Int} {r : Reservation} (hr : t.reservations.get? i = some r)
    (hpending : r.isPending = true) : t.holdOn? r.copyId = some r := by
  refine Table.find?_rows_eq hr (by simp [hpending]) fun j r' hr' hp => ?_
  simp only [Bool.and_eq_true, decide_eq_true_eq] at hp
  exact h.held_eq ⟨r', hr', hp.1, hp.2⟩ ⟨r, hr, rfl, hpending⟩

/-- In consistent tables the reservation that is found on a copy is a user's when one on it is. -/
theorem Consistent.holdOn?_any_iff (h : t.Consistent) :
    (t.holdOn? copyId).any (·.userId = userId) = true ↔ t.HeldFor copyId userId := by
  constructor
  · intro hany
    obtain ⟨r, hfind, huser⟩ := (Option.any_eq_true _ _).1 hany
    obtain ⟨⟨i, hr⟩, hp⟩ := Table.get?_of_find?_rows hfind
    simp only [Bool.and_eq_true, decide_eq_true_eq] at hp huser
    exact ⟨i, r, hr, hp.1, hp.2, huser⟩
  · -- No two pending reservations are on one copy, so the one that is found is the user's.
    rintro ⟨i, r, hr, rfl, hpending, huser⟩
    simp [h.holdOn?_eq hr hpending, huser]

end Tables

/-- Whether a copy may be lent to a user. -/
structure Copy.Lendable (c : Copy) (policy : Policy) (t : Tables) (userId : Int) : Prop where
  cap : ((t.borrowedBy userId).length : Int) < policy.maxLoans
  title : t.borrowedOnTitle userId c.bookId = []
  ready : c.status = .available ∨ c.status = .onReserve ∧ t.HeldFor c.id userId

/-- Whether a copy may be reserved by a user. -/
structure Copy.Reservable (c : Copy) (policy : Policy) (t : Tables) (userId : Int) : Prop where
  available : c.status = .available
  cap : ((t.pendingOf userId).length : Int) ≤ policy.maxReservations
  lent : t.borrowedOnTitle userId c.bookId = []
  title : t.pendingOnTitle userId c.bookId = []

section

variable {policy : Policy} {t : Tables} {copyId userId : Int}

/-- No test stands against a loan exactly when the copy is there and may be lent. -/
theorem borrow_refusal?_eq_none_iff (h : t.Consistent) : (Operation.borrow copyId userId).refusal? policy t = none ↔
    ∃ c, t.liveCopy? copyId = some c ∧ c.Lendable policy t userId := by
  refine wanting_eq_none_iff.trans (exists_congr fun c => and_congr_right fun _ => ?_)
  simp only [firstFailed_eq_none_iff, Policy.borrowTests, Copy.releaseTests, List.cons_append, List.nil_append,
    List.forall_mem_cons, decide_eq_true_eq, Bool.or_eq_true, h.holdOn?_any_iff, List.length_eq_zero_iff]
  constructor
  · rintro ⟨hcap, htitle, hloan, hreserve, -⟩
    refine ⟨hcap, htitle, ?_⟩
    cases hstatus : c.status with
    | available => exact .inl rfl
    | onLoan => exact absurd hstatus hloan
    | onReserve => exact .inr ⟨rfl, hreserve.resolve_left fun hnot => hnot hstatus⟩
  · rintro ⟨hcap, htitle, hready⟩
    rcases hready with hstatus | ⟨hstatus, hheld⟩
    · exact ⟨hcap, htitle, by simp [hstatus], .inl (by simp [hstatus]), List.forall_mem_nil _⟩
    · exact ⟨hcap, htitle, by simp [hstatus], .inr hheld, List.forall_mem_nil _⟩

/-- No test stands against a reservation exactly when the copy is there and may be reserved. -/
theorem reserve_refusal?_eq_none_iff : (Operation.reserve copyId userId).refusal? policy t = none ↔
    ∃ c, t.liveCopy? copyId = some c ∧ c.Reservable policy t userId := by
  refine wanting_eq_none_iff.trans (exists_congr fun c => and_congr_right fun _ => ?_)
  simp only [firstFailed_eq_none_iff, Policy.reserveTests, Copy.shelfTests, List.cons_append, List.nil_append,
    List.forall_mem_cons, decide_eq_true_eq, List.length_eq_zero_iff]
  constructor
  · rintro ⟨hloan, hreserve, hcap, hlent, htitle, -⟩
    refine ⟨?_, hcap, hlent, htitle⟩
    cases hstatus : c.status with
    | available => rfl
    | onLoan => exact absurd hstatus hloan
    | onReserve => exact absurd hstatus hreserve
  · rintro ⟨hstatus, hcap, hlent, htitle⟩
    exact ⟨by simp [hstatus], by simp [hstatus], hcap, hlent, htitle, List.forall_mem_nil _⟩

end

/-- Whether a result is as a decision has it: it is refused with what the decision names and with nothing else, and as far as
arithmetic stays in range there is one exactly when the request is allowed. -/
structure Decided {α : Type} (refusal? : Option Refusal) (allowed : Prop) (outOfRange : Overflow → Prop)
    (r : Except Stop α) : Prop where
  refused : ∀ why, r = .error (.refused why) ↔ refusal? = some why
  granted : (∀ what, r ≠ .error (.overflowed what)) → ((∃ a, r = .ok a) ↔ allowed)
  overflowed : ∀ what, r = .error (.overflowed what) → allowed ∧ outOfRange what

/-- A procedure that obeys a decision has a result as the decision has it. -/
theorem Procedure.Concludes.decided {α : Type} {p : Procedure α} {timeline : Nat → Instant} {w : Work}
    {refusal? : Option Refusal} {allowed : Prop} {outOfRange : Overflow → Prop} (hallowed : refusal? = none ↔ allowed)
    (h : p.Concludes timeline (fun _ _ => refusal? = none) (fun why _ => why.Obeys refusal?) w)
    (hrange : p.Concludes timeline (fun _ _ => True) (fun why _ => ∀ what, why = .overflowed what → outOfRange what) w) :
    Decided refusal? allowed outOfRange (p.result timeline w) where
  refused := h.refused_iff
  granted hin := (h.granted_iff hin).trans hallowed
  overflowed what hr := by
    obtain ⟨-, hobeys⟩ := h.result_error hr
    obtain ⟨-, hout⟩ := hrange.result_error hr
    exact ⟨hallowed.1 hobeys, hout what rfl⟩

/-- In every transaction of desk operations that is at rest, a loan is granted exactly to those to whom the copy may be lent and
a reservation exactly to those who may reserve it, as far as arithmetic stays in range; all others are refused with the first
test that they fail. -/
theorem requests_decided {policy : Policy} {s : Traffic} (h : Reachable (Rules.desk policy) s) {k : Nat} {x : Transaction}
    (hx : s.opened k = some x) (hd : x.doing = none) (terms : Policy) (copyId userId : Int) (timeline : Nat → Instant)
    {n : Int} (hn : s.ledger.lastId ≤ n) (readings : Nat) :
    Decided ((Operation.borrow copyId userId).refusal? terms x.draft.tables)
        (∃ c, x.draft.tables.liveCopy? copyId = some c ∧ c.Lendable terms x.draft.tables userId)
        (fun what => ∃ j, readings ≤ j ∧ terms.loanPeriod.bind (timeline j).after = .error what)
        ((Desk.borrow terms copyId userId).result timeline ⟨x.draft, n, readings⟩) ∧
      Decided ((Operation.reserve copyId userId).refusal? terms x.draft.tables)
        (∃ c, x.draft.tables.liveCopy? copyId = some c ∧ c.Reservable terms x.draft.tables userId)
        (fun what => terms.reservationHold.bind (timeline readings).after = .error what)
        ((Desk.reserve terms copyId userId).result timeline ⟨x.draft, n, readings⟩) := by
  have hconsistent := (((agreement policy).holds h).opened k x hx).rest hd fun hs => hs.elim
  have hs := (h.sound.opened k x hx).stands.mono hn
  constructor
  · refine Procedure.Concludes.decided (borrow_refusal?_eq_none_iff hconsistent.1)
      (Desk.borrow_concludes hs (fun _ _ hwhy => hwhy) (fun _ _ _ hpass _ _ => hpass) ?_)
      (Desk.borrow_concludes hs (fun _ _ _ _ hwhat => nomatch hwhat) ?_ fun _ _ _ _ _ _ _ _ _ _ _ _ _ _ _ _ => trivial)
    · exact fun _ _ _ _ _ _ _ hpass _ _ _ _ _ _ _ _ => hpass
    · rintro what _ j _ hj hover _ ⟨⟩
      exact ⟨j, hj, hover⟩
  · refine Procedure.Concludes.decided reserve_refusal?_eq_none_iff
      (Desk.reserve_concludes hs (fun _ _ hwhy => hwhy) (fun _ _ hpass _ => hpass) ?_)
      (Desk.reserve_concludes hs (fun _ _ _ _ hwhat => nomatch hwhat) ?_ fun _ _ _ _ _ _ _ _ _ _ _ => trivial)
    · exact fun _ _ _ _ hpass _ _ _ _ _ _ => hpass
    · rintro what _ _ hover _ ⟨⟩
      exact hover

/-- The copy that is held is granted to the user who holds it. -/
theorem lentAndHeld_decided : ∃ x, lentAndHeld.opened 1 = some x ∧ x.doing = none ∧
    (Operation.borrow 5 3).refusal? {} x.draft.tables = none ∧
    (Operation.borrow 5 2).refusal? {} x.draft.tables = some (.ineligible .titleBorrowed) ∧
    Decided ((Operation.borrow 5 3).refusal? {} x.draft.tables)
      (∃ c, x.draft.tables.liveCopy? 5 = some c ∧ c.Lendable {} x.draft.tables 3)
      (fun what => ∃ j, 0 ≤ j ∧ ({} : Policy).loanPeriod.bind Instant.epoch.after = .error what)
      ((Desk.borrow {} 5 3).result (fun _ => .epoch) ⟨x.draft, lentAndHeld.ledger.lastId, 0⟩) := by
  obtain ⟨x, hx⟩ := Option.isSome_iff_exists.1 (show (lentAndHeld.opened 1).isSome = true by decide +kernel)
  have hrest : (lentAndHeld.opened 1).all (·.doing.isNone) = true := by decide +kernel
  have hown : (lentAndHeld.opened 1).all (fun x => (Operation.borrow 5 3).refusal? {} x.draft.tables = none) = true := by
    decide +kernel
  have hother : (lentAndHeld.opened 1).map (fun x => (Operation.borrow 5 2).refusal? {} x.draft.tables) =
      some (some (.ineligible .titleBorrowed)) := by decide +kernel
  simp only [hx, Option.all_some, Option.isNone_iff_eq_none, decide_eq_true_eq] at hrest hown
  simp only [hx, Option.map_some, Option.some.injEq] at hother
  exact ⟨x, hx, hrest, hown, hother,
    (requests_decided lentAndHeld_reachable hx hrest {} 5 3 (fun _ => .epoch) (Int.le_refl _) 0).1⟩

end Circulation
