import Circulation.Proofs.Conflicts

/-!
# Collisions

Two pending reservations collide if they are on one copy, or of one user on one title. The commit compares the reservations
that a draft leaves pending with those in the ledger, so no two that came with different commits collide, whatever the
transactions asked for; but it does not compare them with each other. Main statement: two reservations in a ledger collide
only if one transaction left both pending, and a commit that would bring about any other collision is refused
(`collisions_come_together`).
-/

namespace Circulation

/-- Whether the reservations under two ids are pending, and on one copy or of one user on one title. -/
def Tables.Collide (t : Tables) (i j : Int) : Prop :=
  i ≠ j ∧ ∃ r s, t.reservations.get? i = some r ∧ t.reservations.get? j = some s ∧ r.isPending = true ∧
    s.isPending = true ∧ (s.copyId = r.copyId ∨ s.userId = r.userId ∧ s.bookId = r.bookId)

instance (t : Tables) (i j : Int) : Decidable (t.Collide i j) :=
  decidable_of_iff (i ≠ j ∧ ∃ r ∈ t.reservations.get? i, ∃ s ∈ t.reservations.get? j, r.isPending = true ∧
    s.isPending = true ∧ (s.copyId = r.copyId ∨ s.userId = r.userId ∧ s.bookId = r.bookId)) <| by
      simp only [Tables.Collide, Option.mem_def]
      grind

/-- Whether a transaction wrote two reservations and leaves them colliding. -/
def Transaction.LeavesColliding (x : Transaction) (i j : Int) : Prop :=
  x.draft.written.reservations.contains i = true ∧ x.draft.written.reservations.contains j = true ∧
    x.draft.tables.Collide i j

instance (x : Transaction) (i j : Int) : Decidable (x.LeavesColliding i j) :=
  inferInstanceAs (Decidable (_ ∧ _ ∧ _))

namespace Tables.Collide

variable {t t' : Tables} {i j : Int}

theorem symm (h : t.Collide i j) : t.Collide j i := by
  obtain ⟨hij, r, s, hr, hs, hrp, hsp, heq⟩ := h
  exact ⟨hij.symm, s, r, hs, hr, hsp, hrp, heq.imp Eq.symm fun ⟨huser, hbook⟩ => ⟨huser.symm, hbook.symm⟩⟩

theorem congr (hi : t'.reservations.get? i = t.reservations.get? i) (hj : t'.reservations.get? j = t.reservations.get? j) :
    t'.Collide i j ↔ t.Collide i j := by
  simp only [Collide, hi, hj]

end Tables.Collide

namespace Committing

variable {l l' : Ledger} {x : Transaction} {committed : List Transaction} {i j : Int}

/-- What a transaction wrote collides with nothing that it leaves as it met it. -/
theorem not_collide (h : Committing l x committed l') (hi : x.draft.written.reservations.contains i = true)
    (hj : x.draft.written.reservations.contains j = false) : ¬l'.tables.Collide i j := by
  rintro ⟨hij, r, s, hr, hs, hrp, hsp, heq⟩
  rw [h.reservations, if_pos hi] at hr
  rw [h.reservations, if_neg (by simp [hj])] at hs
  have hclear := h.clear.pending i r j s hi hr hrp hs
  have hri : r.id = i := (h.stands.reservations.keyed i r hr).1
  have hsj : s.id = j := (h.sound.reservations j s hs).1
  have hcollides : Ledger.collides r s = true := Ledger.collides_iff.2 ⟨by rw [hri, hsj]; exact hij.symm, hsp, heq⟩
  simp [hcollides] at hclear

/-- After a commit two reservations collide that collided before and were not written, or that it left colliding. -/
theorem collide_iff (h : Committing l x committed l') : l'.tables.Collide i j ↔
    l.tables.Collide i j ∧ x.draft.written.reservations.contains i = false ∧
      x.draft.written.reservations.contains j = false ∨ x.LeavesColliding i j := by
  have left (id : Int) (hid : x.draft.written.reservations.contains id = false) :
      l'.tables.reservations.get? id = l.tables.reservations.get? id := by
    rw [h.reservations, if_neg (by simp [hid])]
  have wrote (id : Int) (hid : x.draft.written.reservations.contains id = true) :
      l'.tables.reservations.get? id = x.draft.tables.reservations.get? id := by
    rw [h.reservations, if_pos hid]
  constructor
  · intro hcol
    cases hi : x.draft.written.reservations.contains i with
    | false =>
      cases hj : x.draft.written.reservations.contains j with
      | false => exact .inl ⟨(Tables.Collide.congr (left i hi) (left j hj)).1 hcol, rfl, rfl⟩
      | true => exact absurd hcol.symm (h.not_collide hj hi)
    | true =>
      cases hj : x.draft.written.reservations.contains j with
      | false => exact absurd hcol (h.not_collide hi hj)
      | true => exact .inr ⟨hi, hj, (Tables.Collide.congr (wrote i hi) (wrote j hj)).1 hcol⟩
  · rintro (⟨hcol, hi, hj⟩ | ⟨hi, hj, hcol⟩)
    · exact (Tables.Collide.congr (left i hi) (left j hj)).2 hcol
    · exact (Tables.Collide.congr (wrote i hi) (wrote j hj)).2 hcol

end Committing

variable {rules : Rules} {s : Traffic}

/-- Two reservations of a ledger that collide were left so by one transaction. -/
theorem Reachable.left_colliding (h : Reachable rules s) {i j : Int} (hcol : s.ledger.tables.Collide i j) :
    ∃ e ∈ s.journal, e.LeavesColliding i j := by
  induction h with
  | start t _ =>
    obtain ⟨-, r, _, hr, -⟩ := hcol
    cases hr
  | @act s a h _ ih =>
    rcases s.act_ledger_cases a with ⟨hj, hg⟩ | ⟨k, x, l, rfl, hx, -, hl, he⟩
    · rw [hg.tables] at hcol
      rw [hj]
      exact ih hcol
    · rw [he] at hcol ⊢
      rcases (h.sound.committing hx hl).collide_iff.1 hcol with ⟨hold, -, -⟩ | hnew
      · obtain ⟨e, he, hleaves⟩ := ih hold
        exact ⟨e, List.mem_append_left _ he, hleaves⟩
      · exact ⟨x, by simp, hnew⟩

/-- Two reservations of a ledger collide only if one transaction left them so. A commit brings about no collision but those
that the transaction itself left: one that would bring about another is refused and changes nothing. -/
theorem collisions_come_together (h : Reachable rules s) :
    (∀ i j, s.ledger.tables.Collide i j → ∃ e ∈ s.journal, e.LeavesColliding i j) ∧
    ∀ k x, s.opened k = some x → x.doing = none → ∀ i j,
      (∀ l, s.ledger.commit x.draft = .ok l → (l.tables.Collide i j ↔
        s.ledger.tables.Collide i j ∧ x.draft.written.reservations.contains i = false ∧
          x.draft.written.reservations.contains j = false ∨ x.LeavesColliding i j)) ∧
      ((Ledger.publishAll s.ledger.tables x.draft).Collide i j → ¬s.ledger.tables.Collide i j → ¬x.LeavesColliding i j →
        (∃ clash, s.ledger.commit x.draft = .error (.conflict clash)) ∧ s.act (.commit k) = s.drop k) := by
  refine ⟨fun i j => h.left_colliding, fun k x hx hd i j => ⟨fun l hl => (h.sound.committing hx hl).collide_iff, ?_⟩⟩
  intro hcol hbefore hown
  have hrefused : ∃ clash, s.ledger.commit x.draft = .error (.conflict clash) := by
    refine Ledger.commit_of_not_clear fun hclear => ?_
    have hcom := h.sound.committing hx (Ledger.commit_eq_ok_iff.2 ⟨hclear, rfl⟩)
    rcases hcom.collide_iff.1 hcol with ⟨hold, -, -⟩ | hnew
    · exact hbefore hold
    · exact hown hnew
  refine ⟨hrefused, ?_⟩
  obtain ⟨clash, hclash⟩ := hrefused
  simp only [Traffic.act_commit hx hd, Traffic.commit, hclash]

/-- A desk where one transaction held a copy for two users and committed, and another that began before holds the copy too. -/
def heldTwice : Traffic :=
  let s : Traffic := { clock := .epoch }
  let s := ((s.act (.addBook "Emma")).act (.addUser "ann")).act (.addUser "ben")
  let s := ((s.act (.begin 0)).serve 0 (Request.insertCopy 1 .epoch).alone).act (.commit 0)
  let s := (s.act (.begin 0)).act (.begin 1)
  let s := s.serve 0 (Request.insertReservation ⟨4, 1, 2, .epoch, .epoch⟩).alone
  let s := s.serve 0 (Request.insertReservation ⟨4, 1, 3, .epoch, .epoch⟩).alone
  (s.serve 1 (Request.insertReservation ⟨4, 1, 3, .epoch, .epoch⟩).alone).act (.commit 0)

/-- A transaction of any requests may put a request. -/
theorem Reachable.put (h : Reachable Rules.anything s) (k : Nat) (q : Request) :
    Reachable Rules.anything (s.serve k q.alone) :=
  h.serve (fun _ _ => trivial) False.elim

theorem heldTwice_reachable : Reachable Rules.anything heldTwice := by
  have start : Reachable Rules.anything { clock := .epoch } := .start .epoch trivial
  have users := ((start.act (.addBook "Emma") trivial).act (.addUser "ann") trivial).act (.addUser "ben") trivial
  have added := ((users.act (.begin 0) trivial).put 0 (.insertCopy 1 .epoch)).commit 0 False.elim
  have begun := (added.act (.begin 0) trivial).act (.begin 1) trivial
  have held := (begun.put 0 (.insertReservation ⟨4, 1, 2, .epoch, .epoch⟩)).put 0
    (.insertReservation ⟨4, 1, 3, .epoch, .epoch⟩)
  exact (held.put 1 (.insertReservation ⟨4, 1, 3, .epoch, .epoch⟩)).commit 0 False.elim

/-- The two holds of the first transaction are in the ledger and collide; the commit of the second is refused. -/
theorem heldTwice_collides : heldTwice.ledger.tables.Collide 5 6 ∧ (∃ e ∈ heldTwice.journal, e.LeavesColliding 5 6) ∧
    ∃ x, heldTwice.opened 1 = some x ∧ x.doing = none ∧ ∃ clash, heldTwice.ledger.commit x.draft = .error (.conflict clash) := by
  have hcol : heldTwice.ledger.tables.Collide 5 6 := by decide +kernel
  have hx : heldTwice.opened 1 = some ((heldTwice.opened 1).get (by decide +kernel)) := (Option.some_get _).symm
  have hd : ((heldTwice.opened 1).get (by decide +kernel)).doing = none := Option.isNone_iff_eq_none.1 (by decide +kernel)
  obtain ⟨hleft, hcommit⟩ := collisions_come_together heldTwice_reachable
  refine ⟨hcol, hleft 5 6 hcol, _, hx, hd, ((hcommit 1 _ hx hd 7 5).2 ?_ ?_ ?_).1⟩
  · decide +kernel
  · decide +kernel
  · decide +kernel

end Circulation
