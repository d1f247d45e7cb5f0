import Circulation.Proofs.Agreement
import Circulation.Proofs.Logbook

/-!
# Exclusion

What two transactions never both have. The lock on a copy is a version noted when the transaction began, and nobody waits
for it; but of two transactions that locked one copy and committed, the later began when the earlier had been committed
(`locked_apart`), whatever they asked the store for, and an open one that began too early is refused (`lock_exclusive`).
Reservations of one user on one title may be placed on different copies, where locks do not meet. The commit compares
them, and no two are pending in the ledger (`one_hold_per_title`).
-/

namespace Circulation

variable {rules : Rules}

namespace Traffic

variable {s : Traffic} {c : Int} {i k : Nat} {x y : Transaction}

/-- What is so far down the journal was committed since fewer commits had been made. -/
theorem mem_journal_drop (hx : s.journal[i]? = some x) {n : Nat} (hn : n ≤ i) : x ∈ s.journal.drop n := by
  refine List.mem_of_getElem? (i := i - n) ?_
  rw [List.getElem?_drop, Nat.add_sub_cancel' hn]
  exact hx

/-- Nothing may be committed that locked a copy on which a lock was committed since it began. -/
theorem Sound.not_clear_of_locked (h : s.Sound) (hx : s.journal[i]? = some x) (hxc : x.draft.locked.contains c = true)
    (hy : s.opened k = some y) (hyc : y.draft.locked.contains c = true) (hi : y.began ≤ i) : ¬s.ledger.Clear y.draft := by
  intro hclear
  have hcom := h.committing hy (Ledger.commit_eq_ok_iff.2 ⟨hclear, rfl⟩)
  have hnot := hcom.not_locked hyc x (mem_journal_drop hx hi)
  simp [hxc] at hnot

end Traffic

/-- Of two committed transactions that locked one copy the later began when the earlier had been committed. -/
theorem Reachable.locked_apart {s : Traffic} (h : Reachable rules s) {c : Int} {i j : Nat} {x y : Transaction}
    (hx : s.journal[i]? = some x) (hy : s.journal[j]? = some y) (hij : i < j) (hxc : x.draft.locked.contains c = true)
    (hyc : y.draft.locked.contains c = true) : i < y.began := by
  induction h generalizing i j x y with
  | start t _ => simp at hx
  | @act s a h _ ih =>
    rcases s.act_ledger_cases a with ⟨hj, -⟩ | ⟨k, z, l, rfl, hz, -, hl, he⟩
    · rw [hj] at hx hy
      exact ih hx hy hij hxc hyc
    · simp only [he] at hx hy
      have hlen := (List.getElem?_eq_some_iff.1 hy).1
      rw [List.length_append, List.length_singleton] at hlen
      rw [List.getElem?_append_left (by omega)] at hx
      rcases Nat.lt_or_ge j s.journal.length with hlt | hge
      · rw [List.getElem?_append_left hlt] at hy
        exact ih hx hy hij hxc hyc
      · -- The later one is being committed, so nobody locked the copy since it began.
        obtain rfl : j = s.journal.length := by omega
        rw [List.getElem?_concat_length] at hy
        cases hy
        refine Nat.lt_of_not_le fun hle => ?_
        exact h.sound.not_clear_of_locked hx hxc hz hyc hle (Ledger.commit_eq_ok_iff.1 hl).1

/-- A committed transaction locked what its page says it was answered. -/
theorem Recorded.locked_of_filed {b : Logbook} (h : Recorded rules b) {c : Int} {i : Nat} {x : Transaction}
    {ds : List Deed} (hx : b.traffic.journal[i]? = some x) (hds : b.filed[i]? = some ds)
    (hc : ds.any (Deed.locks c) = true) : x.draft.locked.contains c = true := by
  obtain ⟨hi, rfl⟩ := List.getElem?_eq_some_iff.1 hx
  obtain ⟨hj, rfl⟩ := List.getElem?_eq_some_iff.1 hds
  obtain ⟨n, hdid⟩ := h.filed.get hi hj
  exact hdid.locked_of_locks hc

/-- The lock on a copy is exclusive. When a transaction has committed that was answered the lock on a copy, then of it and any
other that was answered that lock and committed, one began when the other had been committed. One that is still open and
began before is refused. -/
theorem lock_exclusive {b : Logbook} (h : Recorded rules b) {c : Int} {i : Nat} {x : Transaction} {ds : List Deed}
    (hx : b.traffic.journal[i]? = some x) (hds : b.filed[i]? = some ds) (hc : ds.any (Deed.locks c) = true) :
    (∀ j y es, b.traffic.journal[j]? = some y → b.filed[j]? = some es → es.any (Deed.locks c) = true → i ≠ j →
      i < y.began ∨ j < x.began) ∧
    ∀ k y, b.traffic.opened k = some y → (b.pages k).any (Deed.locks c) = true → y.began ≤ i →
      ∃ clash, b.traffic.ledger.commit y.draft = .error (.conflict clash) := by
  have hxc := h.locked_of_filed hx hds hc
  refine ⟨fun j y es hy hes hc' hij => ?_, fun k y hy hc' hle => ?_⟩
  · have hyc := h.locked_of_filed hy hes hc'
    rcases Nat.lt_or_gt_of_ne hij with hlt | hgt
    · exact .inl (h.reachable.locked_apart hx hy hlt hxc hyc)
    · exact .inr (h.reachable.locked_apart hy hx hgt hyc hxc)
  · obtain ⟨n, -, hdid⟩ := h.did hy
    have hyc := hdid.locked_of_locks hc'
    exact Ledger.commit_of_not_clear (h.reachable.sound.not_clear_of_locked hx hxc hy hyc hle)

/-- A desk where a copy was lent and taken back by two transactions, one after the other, while a third, which began before
either of them committed, tries to lend it too. -/
def lentTwice : Logbook :=
  let b : Logbook := { traffic := { clock := .epoch } }
  let b := ((b.act (.addBook "Emma")).act (.addUser "ann")).act (.addUser "ben")
  let b := ((b.act (.begin 0)).serve 0 (Operation.procedure {} (.addCopy 1)) 4).act (.commit 0)
  let b := (b.act (.begin 0)).act (.begin 1)
  let b := b.serve 0 (Operation.procedure {} (.borrow 4 2)) 9
  let b := b.serve 1 (Operation.procedure {} (.borrow 4 3)) 9
  let b := (b.act (.commit 0)).act (.begin 0)
  (b.serve 0 (Operation.procedure {} (.returnCopy 4)) 8).act (.commit 0)

theorem lentTwice_recorded : Recorded (Rules.desk {}) lentTwice := by
  have start : Recorded (Rules.desk {}) { traffic := { clock := .epoch } } := .start .epoch trivial
  have users := ((start.act (.addBook "Emma") trivial).act (.addUser "ann") trivial).act (.addUser "ben") trivial
  have added := ((users.act (.begin 0) trivial).perform 0 (.addCopy 1) 4).act (.commit 0) fun _ _ => False.elim
  have begun := (added.act (.begin 0) trivial).act (.begin 1) trivial
  have lent := ((begun.perform 0 (.borrow 4 2) 9).perform 1 (.borrow 4 3) 9).act (.commit 0) fun _ _ => False.elim
  exact ((lent.act (.begin 0) trivial).perform 0 (.returnCopy 4) 8).act (.commit 0) fun _ _ => False.elim

/-- The two committed one after the other, and the third is refused. -/
theorem lentTwice_exclusive : ∃ x y z ds es,
    lentTwice.traffic.journal[1]? = some x ∧ lentTwice.filed[1]? = some ds ∧ ds.any (Deed.locks 4) = true ∧
    lentTwice.traffic.journal[2]? = some y ∧ lentTwice.filed[2]? = some es ∧ es.any (Deed.locks 4) = true ∧
    (1 < y.began ∨ 2 < x.began) ∧ lentTwice.traffic.opened 1 = some z ∧
    (lentTwice.pages 1).any (Deed.locks 4) = true ∧ z.began ≤ 1 ∧
    ∃ clash, lentTwice.traffic.ledger.commit z.draft = .error (.conflict clash) := by
  have committed (i : Nat) (hi : (lentTwice.traffic.journal[i]?).isSome = true) :
      lentTwice.traffic.journal[i]? = some ((lentTwice.traffic.journal[i]?).get hi) := (Option.some_get hi).symm
  have filed (i : Nat) (hi : (lentTwice.filed[i]?).isSome = true) :
      lentTwice.filed[i]? = some ((lentTwice.filed[i]?).get hi) := (Option.some_get hi).symm
  have hx := committed 1 (by decide +kernel)
  have hy := committed 2 (by decide +kernel)
  have hds := filed 1 (by decide +kernel)
  have hes := filed 2 (by decide +kernel)
  have hz : lentTwice.traffic.opened 1 = some ((lentTwice.traffic.opened 1).get (by decide +kernel)) :=
    (Option.some_get _).symm
  have exclusive := lock_exclusive lentTwice_recorded hx hds (c := 4) (by decide +kernel)
  refine ⟨_, _, _, _, _, hx, hds, by decide +kernel, hy, hes, by decide +kernel, ?_, hz, by decide +kernel,
    by decide +kernel, ?_⟩
  · exact exclusive.1 2 _ _ hy hes (by decide +kernel) (by decide)
  · exact exclusive.2 1 _ hz (by decide +kernel) (by decide +kernel)

/-- Of one user on one title no two reservations are pending, in any ledger that transactions of desk operations lead to. -/
theorem one_hold_per_title {policy : Policy} {s : Traffic} (h : Reachable (Rules.desk policy) s) {i j : Int}
    {r r' : Reservation} (hr : s.ledger.tables.reservations.get? i = some r) (hp : r.isPending = true)
    (hr' : s.ledger.tables.reservations.get? j = some r') (hp' : r'.isPending = true) (huser : r.userId = r'.userId)
    (hbook : r.bookId = r'.bookId) : i = j :=
  ((agreement policy).holds h).good.titles i j r r' hr hr' hp hp' huser hbook

/-- A desk where one user has reserved two copies of a title in two transactions at once, and asked for both to be
committed. -/
def heldAtOnce : Traffic :=
  let s : Traffic := { clock := .epoch }
  let s := (s.act (.addBook "Emma")).act (.addUser "ann")
  let s := ((s.act (.begin 0)).serve 0 (Operation.procedure {} (.addCopies 1 2))).act (.commit 0)
  let s := (s.act (.begin 0)).act (.begin 1)
  let s := (s.serve 0 (Operation.procedure {} (.reserve 3 2))).serve 1 (Operation.procedure {} (.reserve 4 2))
  (s.act (.commit 0)).act (.commit 1)

theorem heldAtOnce_reachable : Reachable (Rules.desk {}) heldAtOnce := by
  have start : Reachable (Rules.desk {}) { clock := .epoch } := .start .epoch trivial
  have users := (start.act (.addBook "Emma") trivial).act (.addUser "ann") trivial
  have copies := ((users.act (.begin 0) trivial).perform 0 (.addCopies 1 2) False.elim).commit 0 False.elim
  have begun := (copies.act (.begin 0) trivial).act (.begin 1) trivial
  have held := (begun.perform 0 (.reserve 3 2) False.elim).perform 1 (.reserve 4 2) False.elim
  exact (held.commit 0 False.elim).commit 1 False.elim

/-- One of them is pending, and no other. -/
theorem heldAtOnce_holds_one : ∃ r, heldAtOnce.ledger.tables.reservations.get? 5 = some r ∧ r.isPending = true ∧
    r.userId = 2 ∧ r.bookId = 1 ∧ heldAtOnce.ledger.lastId = 6 ∧
    ∀ j r', heldAtOnce.ledger.tables.reservations.get? j = some r' → r'.isPending = true → r.userId = r'.userId →
      r.bookId = r'.bookId → 5 = j :=
  have row : heldAtOnce.ledger.tables.reservations.get? 5 =
    some ((heldAtOnce.ledger.tables.reservations.get? 5).get (by decide +kernel)) := (Option.some_get _).symm
  ⟨_, row, by decide +kernel, by decide +kernel, by decide +kernel, by decide +kernel,
    fun _ _ hr' hp' huser hbook => one_hold_per_title heldAtOnce_reachable row (by decide +kernel) hr' hp' huser hbook⟩

end Circulation
