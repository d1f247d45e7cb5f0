import Circulation.Proofs.Agreement

/-!
# Conflicts

Why a commit is refused. A transaction interferes with another when it committed a lock on a copy the other locked, the
settlement of a fine the other settled, or a pending reservation that stands against one the other placed. Without
interference a commit is refused all the same when the transaction placed a reservation that stands against one it
fulfilled itself: the commit compares with the ledger as it is before that fulfilment is published. There is no other
reason (`commit_refused_iff`).
-/

namespace Circulation

/-- A pending reservation collides with another on its copy, or of its user on its title. -/
theorem Ledger.collides_iff {r s : Reservation} : Ledger.collides r s = true ↔
    s.id ≠ r.id ∧ s.isPending = true ∧ (s.copyId = r.copyId ∨ s.userId = r.userId ∧ s.bookId = r.bookId) := by
  simp [Ledger.collides, and_assoc]

namespace Transaction

/-- Whether a transaction that commits first gets in the way of another. -/
def Interferes (e x : Transaction) : Prop :=
  (∃ id, e.draft.locked.contains id = true ∧ x.draft.locked.contains id = true) ∨
    (∃ id, e.draft.settled.contains id = true ∧ x.draft.settled.contains id = true) ∨
    ∃ i j r s, x.draft.written.reservations.contains i = true ∧ x.draft.tables.reservations.get? i = some r ∧
      r.isPending = true ∧ e.draft.written.reservations.contains j = true ∧
      e.draft.tables.reservations.get? j = some s ∧ Ledger.collides r s = true

/-- Whether a transaction leaves a reservation pending that stands against one it found pending and fulfilled. -/
def CollidesWithOwn (x : Transaction) : Prop :=
  ∃ i j r s s', x.draft.written.reservations.contains i = true ∧ x.draft.tables.reservations.get? i = some r ∧
    r.isPending = true ∧ x.base.tables.reservations.get? j = some s ∧ Ledger.collides r s = true ∧
    x.draft.tables.reservations.get? j = some s' ∧ s'.isPending = false

end Transaction

/-- What is known of a transaction of desk operations that asks to be committed. -/
structure Asking (l : Ledger) (x : Transaction) (committed : List Transaction) : Prop where
  sound : l.Sound
  stands : x.draft.Stands x.base l.lastId
  since : x.base.Since l committed
  apart : x.Apart l.tables
  base : x.base.tables.Consistent
  consistent : x.draft.tables.Consistent
  covered : x.draft.Covered x.base
  unmoved : x.base.Unmoved l committed

namespace Asking

variable {l : Ledger} {x : Transaction} {committed : List Transaction}

theorem of_reachable {policy : Policy} {s : Traffic} (h : Reachable (Rules.desk policy) s) {k : Nat}
    (hx : s.opened k = some x) (hd : x.doing = none) : Asking s.ledger x (s.journal.drop x.began) := by
  have ho := h.sound.opened k x hx
  have hopen := ((agreement policy).holds h).opened k x hx
  obtain ⟨hconsistent, hcovered⟩ := hopen.rest hd fun hs => hs.elim
  exact ⟨h.sound.ledger, ho.stands, ho.since, ho.apart, hopen.base, hconsistent, hcovered, hopen.moved⟩

/-- A loan row that a draft changed is as it was while nobody else locked its copy. -/
theorem loan_unmoved (h : Asking l x committed) (hfree : ∀ e ∈ committed, ¬e.Interferes x) {id : Int} {row : Loan}
    (hw : x.draft.written.loans.contains id = true) (hrow : l.tables.loans.get? id = some row) :
    x.base.tables.loans.get? id = some row := by
  have hdraft := h.stands.loans.held id hw
  obtain ⟨a, ha⟩ := Table.contains_iff.1 hdraft
  have hid := h.apart.old (.inr (.inl hdraft)) (.inr (.inl (Table.contains_of_get? hrow)))
  obtain ⟨b, hb, hab⟩ := h.stands.loans.exists_base ha hid
  have hcopy : a.copyId = b.copyId := (Loan.of_lasting hab).1
  have hlocked := h.covered.loans id a hw ha
  have hsame := h.unmoved b.copyId (h.base.loans id b hb) fun e he => by
    cases hle : e.draft.locked.contains b.copyId with
    | false => rfl
    | true => exact absurd (.inl ⟨b.copyId, hle, hcopy ▸ hlocked⟩) (hfree e he)
  cases ((hsame.loans id b rfl).1 hb).symm.trans hrow
  exact hb

/-- Nothing stands against a commit that nobody interfered with and that does not stand against itself. -/
theorem clear (h : Asking l x committed) (hfree : ∀ e ∈ committed, ¬e.Interferes x) (hown : ¬x.CollidesWithOwn) :
    l.Clear x.draft where
  locked id v hv := by
    obtain ⟨hver, -⟩ := h.stands.locked id v hv
    rw [hver]
    refine ((h.since.unmoved id).2 fun e he => ?_).symm
    cases hle : e.draft.locked.contains id with
    | false => rfl
    | true => exact absurd (.inl ⟨id, hle, Table.contains_of_get? hv⟩) (hfree e he)
  guards id c row hc hrow := by
    obtain ⟨hw, hguard⟩ := h.stands.guards id c hc
    exact hguard row (h.loan_unmoved hfree hw hrow)
  settled id f hset hf := by
    obtain ⟨hw, hbase⟩ := h.stands.settled id hset
    have hdraft := h.stands.fines.held id hw
    obtain ⟨a, ha⟩ := Table.contains_iff.1 hdraft
    have hid := h.apart.old (.inr (.inr (.inr (.inr hdraft)))) (.inr (.inr (.inr (.inr (Table.contains_of_get? hf)))))
    obtain ⟨b, hb, -⟩ := h.stands.fines.exists_base ha hid
    cases hs : f.settled with
    | false => rfl
    | true =>
      obtain ⟨e, he, hes⟩ := h.since.settled id b f hb (hbase b hb) hf hs
      exact absurd (.inr (.inl ⟨id, hes, hset⟩)) (hfree e he)
  pending i r j s hw hr hrp hs := by
    cases hcol : Ledger.collides r s with
    | false => rfl
    | true =>
      rcases h.since.placed j s hs with hb | ⟨e, he, hew, hes⟩
      · obtain ⟨s', hs', hss'⟩ := h.stands.reservations.kept j s hb
        cases hsp : s'.isPending with
        | false => exact absurd ⟨i, j, r, s, s', hw, hr, hrp, hb, hcol, hs', hsp⟩ hown
        | true =>
          -- Both are pending in the draft, which has no two that stand against each other.
          obtain ⟨hne, hp, heq⟩ := Ledger.collides_iff.1 hcol
          obtain ⟨hcopy, hbook, huser⟩ := Reservation.of_lasting hss'
          rw [← hcopy, ← huser, ← hbook] at heq
          have hij := h.consistent.not_collides hr hs' hrp hsp heq
          have hri := (h.stands.reservations.keyed i r hr).1
          have hsj := (h.sound.reservations j s hs).1
          exact absurd (hsj.trans (hij.symm.trans hri.symm)) hne
      · exact absurd (.inr (.inr ⟨i, j, r, s, hw, hr, hrp, hew, hes, hcol⟩)) (hfree e he)

/-- A commit that stands against itself is not clear. -/
theorem not_clear (h : Asking l x committed) (hown : x.CollidesWithOwn) : ¬l.Clear x.draft := by
  intro hclear
  obtain ⟨i, j, r, s, s', hw, hr, hrp, hb, hcol, hs', hfulfilled⟩ := hown
  obtain ⟨-, hp, -⟩ := Ledger.collides_iff.1 hcol
  -- The reservation was fulfilled under the lock on its copy, so it is still pending in the ledger.
  have hwj : x.draft.written.reservations.contains j = true := by
    cases hwj : x.draft.written.reservations.contains j with
    | true => rfl
    | false =>
      have := h.stands.reservations.base_of_unwritten hs' hwj
      cases hb.symm.trans this
      simp [hp] at hfulfilled
  obtain ⟨t, ht, hst⟩ := h.stands.reservations.kept j s hb
  cases hs'.symm.trans ht
  have hcopy : s'.copyId = s.copyId := (Reservation.of_lasting hst).1
  have hlocked : x.draft.locked.contains s.copyId = true := hcopy ▸ h.covered.reservations j s' hwj hs'
  obtain ⟨v, hv⟩ := Table.contains_iff.1 hlocked
  have hver := (h.stands.locked s.copyId v hv).1.symm.trans (hclear.locked s.copyId v hv).symm
  have hsame := h.unmoved s.copyId (h.base.reservations j s hb) ((h.since.unmoved s.copyId).1 hver)
  have hl := (hsame.reservations j s rfl).1 hb
  have := hclear.pending i r j s hw hr hrp hl
  simp [hcol] at this

end Asking

/-- The commit of a transaction at rest is refused only when one that committed since it began interfered with it, or when
it stands against itself; and then it is refused. -/
theorem commit_refused_iff {policy : Policy} {s : Traffic} {k : Nat} {x : Transaction}
    (h : Reachable (Rules.desk policy) s) (hx : s.opened k = some x) (hd : x.doing = none) :
    ((∃ why, s.ledger.commit x.draft = .error why) → (∃ e ∈ s.journal.drop x.began, e.Interferes x) ∨ x.CollidesWithOwn) ∧
      (x.CollidesWithOwn → ∃ clash, s.ledger.commit x.draft = .error (.conflict clash)) ∧
      (s.journal.length = x.began → ((∃ l, s.ledger.commit x.draft = .ok l) ↔ ¬x.CollidesWithOwn)) := by
  have hasking := Asking.of_reachable h hx hd
  have hok : s.ledger.Clear x.draft → ∃ l, s.ledger.commit x.draft = .ok l := fun hclear =>
    ⟨_, Ledger.commit_eq_ok_iff.2 ⟨hclear, rfl⟩⟩
  refine ⟨fun ⟨why, hwhy⟩ => ?_, fun hown => Ledger.commit_of_not_clear (hasking.not_clear hown), fun halone => ?_⟩
  · refine Classical.byContradiction fun hnot => ?_
    obtain ⟨hfree, hown⟩ := not_or.1 hnot
    have hclear := hasking.clear (fun e he hi => hfree ⟨e, he, hi⟩) hown
    exact (Ledger.commit_eq_conflict hwhy).1 hclear
  · have hnil : s.journal.drop x.began = [] := List.drop_of_length_le (Nat.le_of_eq halone)
    rw [hnil] at hasking
    refine ⟨fun ⟨l, hl⟩ hown => hasking.not_clear hown (Ledger.commit_eq_ok_iff.1 hl).1, fun hown => hok ?_⟩
    exact hasking.clear (fun e he => nomatch he) hown

/-- A desk with one transaction open, which nobody else is at work beside: it released the hold of one user on a copy and
held the copy for another. -/
def handedOn : Traffic :=
  let s : Traffic := { clock := .epoch }
  let s := ((s.act (.addBook "Emma")).act (.addUser "ann")).act (.addUser "ben")
  let s := (s.act (.begin 0)).serve 0 (Operation.procedure {} (.addCopy 1))
  let s := (s.serve 0 (Operation.procedure {} (.reserve 4 2))).act (.commit 0)
  let s := (s.act (.begin 0)).serve 0 (Operation.procedure {} (.cancelReservation 5))
  s.serve 0 (Operation.procedure {} (.reserve 4 3))

theorem handedOn_reachable : Reachable (Rules.desk {}) handedOn := by
  have start : Reachable (Rules.desk {}) { clock := .epoch } := .start .epoch trivial
  have users := ((start.act (.addBook "Emma") trivial).act (.addUser "ann") trivial).act (.addUser "ben") trivial
  have added := (users.act (.begin 0) trivial).perform 0 (.addCopy 1) False.elim
  have held := (added.perform 0 (.reserve 4 2) False.elim).commit 0 False.elim
  have released := (held.act (.begin 0) trivial).perform 0 (.cancelReservation 5) False.elim
  exact released.perform 0 (.reserve 4 3) False.elim

/-- The one transaction of that desk. -/
def handingOn : Transaction :=
  (handedOn.opened 0).get (by decide +kernel)

/-- The transaction that hands on a copy collides with the hold that it released. -/
theorem handingOn_collidesWithOwn : handingOn.CollidesWithOwn :=
  ⟨6, 5, (handingOn.draft.tables.reservations.get? 6).get (by decide +kernel),
    (handingOn.base.tables.reservations.get? 5).get (by decide +kernel),
    (handingOn.draft.tables.reservations.get? 5).get (by decide +kernel), by decide +kernel, (Option.some_get _).symm,
    by decide +kernel, (Option.some_get _).symm, by decide +kernel, (Option.some_get _).symm, by decide +kernel⟩

/-- The transaction was refused nothing and nobody committed meanwhile, and its commit is refused. -/
theorem handingOn_commit_refused : handedOn.opened 0 = some handingOn ∧ handingOn.refused = false ∧
    handedOn.journal.length = handingOn.began ∧ ∃ clash, handedOn.ledger.commit handingOn.draft = .error (.conflict clash) :=
  have opened : handedOn.opened 0 = some handingOn := (Option.some_get _).symm
  have rest : handingOn.doing = none := Option.isNone_iff_eq_none.1 (by decide +kernel)
  ⟨opened, by decide +kernel, by decide +kernel,
    (commit_refused_iff handedOn_reachable opened rest).2.1 handingOn_collidesWithOwn⟩

end Circulation
