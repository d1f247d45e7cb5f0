import Circulation.Proofs.Agreement
import Circulation.Proofs.Closing

/-!
# Closing is final

However transactions of desk operations are interleaved, each row is closed by one committed transaction at most, no
closed row is ever changed, and no row ever disappears (`closing_is_final`). A commit publishes whole rows from a draft
that may be old, so what protects a closed row differs from kind to kind: a loan that a draft changed is guarded, a fine
it settled must be outstanding, and copies and reservations are as the draft found them since nobody else locked their
copy (`Committing.published_copies`, `Committing.published_reservations`).
-/

namespace Circulation

namespace Closable

variable {α : Type} (K : Closable α)

/-- Whether a transaction closes the row under an id: it leaves it closed, and did not find it so. -/
def ClosedBy (x : Transaction) (id : Int) : Prop :=
  K.Closed x.draft.tables id ∧ ¬K.Closed x.base.tables id

/-- Whether the closed rows of a kind are those that some transactions closed, each closed by one of them. -/
structure Tallied (t : Tables) (committed : List Transaction) : Prop where
  closed_iff : ∀ id, K.Closed t id ↔ ∃ x ∈ committed, K.ClosedBy x id
  once : committed.Pairwise fun x y => ∀ id, K.ClosedBy x id → ¬K.ClosedBy y id

/-- How a commit publishes the rows of a kind. A row that the ledger has closed is one that the draft did not write, or
began with. -/
structure Published (l : Ledger) (x : Transaction) (l' : Ledger) : Prop where
  rows : ∀ id, (K.rows l'.tables).get? id = if (K.written x.draft.written).contains id then
    (K.rows x.draft.tables).get? id else (K.rows l.tables).get? id
  unwritten : ∀ id, (K.written x.draft.written).contains id = false →
    (K.rows x.draft.tables).get? id = (K.rows x.base.tables).get? id
  held : ∀ id, (K.written x.draft.written).contains id = true → (K.rows x.draft.tables).contains id = true
  found : ∀ id a, (K.written x.draft.written).contains id = true → (K.rows l.tables).get? id = some a →
    K.closed a = true → (K.rows x.base.tables).get? id = some a

variable {K} {l l' : Ledger} {x : Transaction} {committed : List Transaction} {id : Int}

/-- What a transaction closes it writes. -/
theorem Published.written (h : K.Published l x l') (hx : K.ClosedBy x id) :
    (K.written x.draft.written).contains id = true := by
  obtain ⟨⟨a, ha, hclosed⟩, hbase⟩ := hx
  refine Classical.byContradiction fun hw => hbase ⟨a, ?_, hclosed⟩
  rw [← h.unwritten id (by simpa using hw)]
  exact ha

/-- What a transaction closes is not closed in the ledger that its commit meets. -/
theorem Published.not_closed (h : K.Published l x l') (hx : K.ClosedBy x id) : ¬K.Closed l.tables id := by
  rintro ⟨a, ha, hclosed⟩
  exact hx.2 ⟨a, h.found id a (h.written hx) ha hclosed, hclosed⟩

/-- A commit leaves closed rows as they are. -/
theorem Published.keep (h : K.Published l x l') (hdraft : K.Keep x.base.tables x.draft.tables) :
    K.Keep l.tables l'.tables := by
  intro id a ha
  rw [h.rows]
  split
  · rename_i hw
    obtain ⟨b, hb⟩ := Table.contains_iff.1 (h.held id hw)
    refine ⟨b, hb, fun hclosed => ?_⟩
    have hfound := hdraft.get? (h.found id a hw ha hclosed) hclosed
    exact Option.some.inj (hb.symm.trans hfound)
  · exact ⟨a, ha, fun _ => rfl⟩

/-- What is closed after a commit was closed before, or is closed by it. -/
theorem Published.closed_iff (h : K.Published l x l') (hdraft : K.Keep x.base.tables x.draft.tables)
    (hledger : K.Keep x.base.tables l.tables) : K.Closed l'.tables id ↔ K.Closed l.tables id ∨ K.ClosedBy x id := by
  constructor
  · rintro ⟨a, ha, hclosed⟩
    rw [h.rows] at ha
    split at ha
    · by_cases hbase : K.Closed x.base.tables id
      · exact .inl (hledger.closed hbase)
      · exact .inr ⟨⟨a, ha, hclosed⟩, hbase⟩
    · exact .inl ⟨a, ha, hclosed⟩
  · rintro (hl | hx)
    · exact (h.keep hdraft).closed hl
    · obtain ⟨a, ha, hclosed⟩ := hx.1
      exact ⟨a, by rw [h.rows, if_pos (h.written hx), ha], hclosed⟩

theorem Tallied.start (hempty : K.rows {} = .empty) : K.Tallied {} [] := by
  refine ⟨fun id => ⟨fun ⟨a, ha, _⟩ => ?_, fun ⟨x, hx, _⟩ => nomatch hx⟩, .nil⟩
  rw [hempty] at ha
  nomatch ha

theorem Tallied.congr {t t' : Tables} (h : K.Tallied t committed) (ht : K.rows t' = K.rows t) : K.Tallied t' committed where
  closed_iff id := by
    rw [← h.closed_iff id, Closed, Closed, ht]
  once := h.once

/-- A commit closes what nobody closed before. -/
theorem Tallied.commit (h : K.Tallied l.tables committed) (hp : K.Published l x l')
    (hdraft : K.Keep x.base.tables x.draft.tables) (hledger : K.Keep x.base.tables l.tables) :
    K.Tallied l'.tables (committed ++ [x]) where
  closed_iff id := by
    rw [hp.closed_iff hdraft hledger, h.closed_iff id]
    simp only [List.mem_append, List.mem_singleton, or_and_right, exists_or, exists_eq_left]
  once := by
    refine List.pairwise_append.2 ⟨h.once, List.pairwise_singleton _ x, fun y hy z hz id hclosed hx => ?_⟩
    obtain rfl := List.mem_singleton.1 hz
    exact hp.not_closed hx ((h.closed_iff id).2 ⟨y, hy, hclosed⟩)

/-- A row is closed at one place in the journal. -/
theorem Tallied.eq_of_closedBy {t : Tables} (h : K.Tallied t committed) {i j : Nat} {x y : Transaction}
    (hx : committed[i]? = some x) (hy : committed[j]? = some y) (hxid : K.ClosedBy x id) (hyid : K.ClosedBy y id) : i = j := by
  obtain ⟨hi, rfl⟩ := List.getElem?_eq_some_iff.1 hx
  obtain ⟨hj, rfl⟩ := List.getElem?_eq_some_iff.1 hy
  have honce := List.pairwise_iff_getElem.1 h.once
  rcases Nat.lt_trichotomy i j with hlt | heq | hgt
  · exact absurd hyid (honce i j hi hj hlt id hxid)
  · exact heq
  · exact absurd hxid (honce j i hj hi hgt id hyid)

end Closable

/-! ## What protects a closed row -/

namespace Committing

variable {l l' : Ledger} {x : Transaction} {committed : List Transaction} {id : Int}

/-- An entry that a draft wrote is as the draft found it, if the ledger has it. -/
theorem entry_found (h : Committing l x committed l') {a : LoanEntry}
    (hw : x.draft.written.entries.contains id = true) (ha : l.tables.entries.get? id = some a) :
    x.base.tables.entries.get? id = some a := by
  have hheld := h.stands.entries.held id hw
  have hid := h.apart.old (.inr (.inr (.inl hheld))) (.inr (.inr (.inl (Table.contains_of_get? ha))))
  obtain ⟨b, hb⟩ := Table.contains_iff.1 (h.stands.entries.old id hheld hid)
  obtain ⟨a', ha', hab⟩ := h.since.entries id b hb
  cases ha'.symm.trans ha
  rw [hb, show a = b from hab]

/-- A copy that a draft wrote is as the draft found it, if the ledger has it. -/
theorem copy_found (h : Committing l x committed l') (hcov : x.draft.Covered x.base)
    (hmoved : x.base.Unmoved l committed) {a : Copy} (hw : x.draft.written.copies.contains id = true)
    (ha : l.tables.copies.get? id = some a) : x.base.tables.copies.get? id = some a := by
  have hheld := h.stands.copies.held id hw
  have hid := h.apart.old (.inl hheld) (.inl (Table.contains_of_get? ha))
  have hlocked := (hcov.copies id hw).resolve_right (Int.not_lt.2 hid)
  rw [← (h.sameOn_locked hmoved (h.stands.copies.old id hheld hid) hlocked).copy, ha]

/-- A reservation that a draft wrote is as the draft found it, if the ledger has it. -/
theorem reservation_found (h : Committing l x committed l') (hbase : x.base.tables.Consistent)
    (hcov : x.draft.Covered x.base) (hmoved : x.base.Unmoved l committed) {a : Reservation}
    (hw : x.draft.written.reservations.contains id = true) (ha : l.tables.reservations.get? id = some a) :
    x.base.tables.reservations.get? id = some a := by
  have hheld := h.stands.reservations.held id hw
  have hid := h.apart.old (.inr (.inr (.inr (.inl hheld))))
    (.inr (.inr (.inr (.inl (Table.contains_of_get? ha)))))
  obtain ⟨b, hb⟩ := Table.contains_iff.1 hheld
  obtain ⟨r, hr, hbr⟩ := h.stands.reservations.exists_base hb hid
  -- The draft wrote the reservation under the lock on its copy, which is the copy it always was of.
  have hlocked := hcov.reservations id b hw hb
  rw [(Reservation.of_lasting hbr).1] at hlocked
  have hsame := h.sameOn_locked hmoved (hbase.reservations id r hr) hlocked
  cases ((hsame.reservations id r rfl).1 hr).symm.trans ha
  exact hr

/-- A commit publishes copies: a withdrawn one that the draft wrote was withdrawn when the draft began, since its lock keeps
others off. -/
theorem published_copies (h : Committing l x committed l') (hcov : x.draft.Covered x.base)
    (hmoved : x.base.Unmoved l committed) : Closable.copies.Published l x l' :=
  ⟨h.copies, h.stands.copies.unwritten, h.stands.copies.held, fun _ _ hw ha _ => h.copy_found hcov hmoved hw ha⟩

/-- A commit publishes loans: the ledger has none returned that the draft wrote, or its guard would refuse the commit. -/
theorem published_loans (h : Committing l x committed l') : Closable.loans.Published l x l' := by
  refine ⟨h.loans, h.stands.loans.unwritten, h.stands.loans.held, fun id a hw ha hclosed => ?_⟩
  simp [Closable.loans, h.loan_open hw ha] at hclosed

/-- A commit publishes entries: one that the draft wrote and the ledger has was there when the draft began. -/
theorem published_entries (h : Committing l x committed l') : Closable.entries.Published l x l' :=
  ⟨h.entries, h.stands.entries.unwritten, h.stands.entries.held, fun _ _ hw ha _ => h.entry_found hw ha⟩

/-- A commit publishes reservations: a fulfilled one that the draft wrote was fulfilled when the draft began, since the lock on
its copy keeps others off. -/
theorem published_reservations (h : Committing l x committed l') (hbase : x.base.tables.Consistent)
    (hcov : x.draft.Covered x.base) (hmoved : x.base.Unmoved l committed) :
    Closable.reservations.Published l x l' :=
  ⟨h.reservations, h.stands.reservations.unwritten, h.stands.reservations.held,
    fun _ _ hw ha _ => h.reservation_found hbase hcov hmoved hw ha⟩

/-- A commit publishes fines: the ledger has none settled that the draft wrote, or its settlement would refuse the commit. -/
theorem published_fines (h : Committing l x committed l') : Closable.fines.Published l x l' := by
  refine ⟨h.fines, h.stands.fines.unwritten, h.stands.fines.held, fun id a hw ha hclosed => ?_⟩
  simp [Closable.fines, h.fine_open hw ha] at hclosed

/-- A commit leaves closed rows as they are. -/
theorem keep (h : Committing l x committed l') (hbase : x.base.tables.Consistent) (hcov : x.draft.Covered x.base)
    (hmoved : x.base.Unmoved l committed) (hdraft : x.base.tables.Keep x.draft.tables) : l.tables.Keep l'.tables where
  copies := (h.published_copies hcov hmoved).keep hdraft.copies
  loans := h.published_loans.keep hdraft.loans
  entries := h.published_entries.keep hdraft.entries
  reservations := (h.published_reservations hbase hcov hmoved).keep hdraft.reservations
  fines := h.published_fines.keep hdraft.fines

end Committing

/-! ## The discipline -/

/-- Whether the closed copies, loans, reservations and fines are those that some transactions closed, each closed by one of
them. -/
structure Tables.Tallied (t : Tables) (committed : List Transaction) : Prop where
  copies : Closable.copies.Tallied t committed
  loans : Closable.loans.Tallied t committed
  reservations : Closable.reservations.Tallied t committed
  fines : Closable.fines.Tallied t committed

namespace Tables.Tallied

variable {t t' : Tables} {committed : List Transaction}

theorem start : Tables.Tallied {} [] :=
  ⟨.start rfl, .start rfl, .start rfl, .start rfl⟩

/-- Nothing is changed but titles and users. -/
theorem congr (h : t.Tallied committed) (ht : t' = { t with books := t'.books, users := t'.users }) :
    t'.Tallied committed := by
  rw [ht]
  exact ⟨h.copies.congr rfl, h.loans.congr rfl, h.reservations.congr rfl, h.fines.congr rfl⟩

/-- A commit adds to the tally what the transaction closed, which nobody had closed before it. -/
theorem commit {l l' : Ledger} {x : Transaction} {since : List Transaction} (h : l.tables.Tallied committed)
    (hcom : Committing l x since l') (hbase : x.base.tables.Consistent) (hcov : x.draft.Covered x.base)
    (hmoved : x.base.Unmoved l since) (hdraft : x.base.tables.Keep x.draft.tables)
    (hledger : x.base.tables.Keep l.tables) : l'.tables.Tallied (committed ++ [x]) where
  copies := h.copies.commit (hcom.published_copies hcov hmoved) hdraft.copies hledger.copies
  loans := h.loans.commit hcom.published_loans hdraft.loans hledger.loans
  reservations := h.reservations.commit (hcom.published_reservations hbase hcov hmoved) hdraft.reservations hledger.reservations
  fines := h.fines.commit hcom.published_fines hdraft.fines hledger.fines

end Tables.Tallied

/-- The discipline of closed rows, which rests on the one of consistent tables. -/
def finality (policy : Policy) : Discipline (Rules.desk policy) where
  Good l t js := (agreement policy).Good l t js ∧ l.tables.Tallied js
  Fit base d hand m := (agreement policy).Fit base d hand m ∧ base.tables.Keep d.tables
  Moved l l' js := (agreement policy).Moved l l' js ∧ l.tables.Keep l'.tables
  good_start t ht := ⟨(agreement policy).good_start t ht, .start⟩
  good_grown hg h := ⟨(agreement policy).good_grown hg h.1, h.2.congr hg.tables⟩
  good_later ht h := ⟨(agreement policy).good_later ht h.1, h.2⟩
  moved_grown hg := ⟨(agreement policy).moved_grown hg, .of_eq hg.tables⟩
  moved_trans h h' := ⟨(agreement policy).moved_trans h.1 h'.1, h.2.trans h'.2⟩
  fit_begin hs h := ⟨(agreement policy).fit_begin hs h.1, .refl _⟩
  fit_later hl h := ⟨(agreement policy).fit_later hl h.1, h.2⟩
  fit_call := by
    rintro base d hand m p - hs - hfit ⟨o, rfl⟩
    refine (o.keeps (I := fun d m => (agreement policy).Fit base d hand m ∧ base.tables.Keep d.tables) hs hfit
      (fun _ _ _ hl h => ⟨(agreement policy).fit_later hl h.1, h.2⟩) ?_).mono (fun _ _ _ h => h.2) fun _ _ h _ => h
    intro d m d' m' hs hmove h
    exact ⟨⟨hmove.consistent hs h.1.1, .move hmove hs.le h.1.2⟩, h.2.trans (hmove.keep hs)⟩
  commit hbegan hcom hl hbase hmoved hfit := by
    obtain ⟨hgood, hunmoved⟩ := (agreement policy).commit hbegan hcom hl.1 hbase.1 hmoved.1 hfit.1
    obtain ⟨⟨-, hcov⟩, hdraft⟩ := hfit
    exact ⟨⟨hgood, hl.2.commit hcom hbase.1 hcov hmoved.1 hdraft hmoved.2⟩, hunmoved,
      hcom.keep hbase.1 hcov hmoved.1 hdraft⟩

/-- In every state that transactions of desk operations lead to, the returned loans, fulfilled reservations, settled fines
and withdrawn copies are those that committed transactions closed, and no two of these closed the same one. From any such
state to a later one no copy, loan, entry, reservation or fine disappears, and none that is closed, and no entry, is
changed. -/
theorem closing_is_final {policy : Policy} {s s' : Traffic} (h : Reachable (Rules.desk policy) s)
    (hl : Leads (Rules.desk policy) s s') :
    s'.ledger.tables.Tallied s'.journal ∧ s.ledger.tables.Keep s'.ledger.tables := by
  have hgood := ((finality policy).holds (h.leads hl)).good
  obtain ⟨js, -, hmoved⟩ := (finality policy).moved h hl
  exact ⟨hgood.2, hmoved.2⟩

/-- A desk a month after one copy was lent and another held. Two transactions took the copy back, and one of them has been
committed. -/
def takenBack : Traffic :=
  let s : Traffic := { clock := .epoch }
  let s := ((s.act (.addBook "Emma")).act (.addUser "ann")).act (.addUser "ben")
  let s := (s.act (.begin 0)).serve 0 (Operation.procedure {} (.addCopies 1 2))
  let s := (s.serve 0 (Operation.procedure {} (.borrow 4 2))).serve 0 (Operation.procedure {} (.reserve 5 3))
  let s := (s.act (.commit 0)).act (.setClock ((Instant.epoch.add? ⟨30 * Span.day⟩).getD .epoch))
  let s := ((s.act (.begin 0)).act (.begin 1)).serve 0 (Operation.procedure {} (.returnLoan 6))
  (s.serve 1 (Operation.procedure {} (.returnLoan 6))).act (.commit 0)

/-- The same desk after the other one asked to be committed and a third settled the fine, released the hold and withdrew
the copy. -/
def allClosed : Traffic :=
  let s := ((takenBack.act (.commit 1)).act (.begin 0)).serve 0 (Operation.procedure {} (.settleFine 9))
  let s := s.serve 0 (Operation.procedure {} (.cancelReservation 8))
  (s.serve 0 (Operation.procedure {} (.removeCopy 4))).act (.commit 0)

theorem takenBack_reachable : Reachable (Rules.desk {}) takenBack := by
  have start : Reachable (Rules.desk {}) { clock := .epoch } := .start .epoch trivial
  have users := ((start.act (.addBook "Emma") trivial).act (.addUser "ann") trivial).act (.addUser "ben") trivial
  have copies := (users.act (.begin 0) trivial).perform 0 (.addCopies 1 2) False.elim
  have taken := (copies.perform 0 (.borrow 4 2) False.elim).perform 0 (.reserve 5 3) False.elim
  have later := (taken.commit 0 False.elim).act (.setClock ((Instant.epoch.add? ⟨30 * Span.day⟩).getD .epoch))
    ⟨trivial, False.elim⟩
  have first := ((later.act (.begin 0) trivial).act (.begin 1) trivial).perform 0 (.returnLoan 6) False.elim
  exact (first.perform 1 (.returnLoan 6) False.elim).commit 0 False.elim

/-- What follows at that desk are desk operations. -/
theorem takenBack_leads : Leads (Rules.desk {}) takenBack allClosed := by
  have refused : Leads (Rules.desk {}) takenBack (takenBack.act (.commit 1)) := Leads.refl.commit 1 False.elim
  have settled := (refused.act (.begin 0) trivial).perform 0 (.settleFine 9) False.elim
  have released := settled.perform 0 (.cancelReservation 8) False.elim
  exact (released.perform 0 (.removeCopy 4) False.elim).commit 0 False.elim

/-- There one row of each kind is closed by one transaction, and stays closed. -/
theorem allClosed_is_final : Reachable (Rules.desk {}) takenBack ∧ Leads (Rules.desk {}) takenBack allClosed ∧
    takenBack.journal.length = 2 ∧ allClosed.journal.length = 3 ∧
    (allClosed.ledger.tables.loans.get? 6).map (·.status) = some .returned ∧
    (allClosed.ledger.tables.fines.get? 9).map (·.settled) = some true ∧
    (allClosed.ledger.tables.reservations.get? 8).map (·.status) = some .fulfilled ∧
    (allClosed.ledger.tables.copies.get? 4).map (·.isDeleted) = some true ∧
    allClosed.ledger.tables.Tallied allClosed.journal ∧ takenBack.ledger.tables.Keep allClosed.ledger.tables :=
  ⟨takenBack_reachable, takenBack_leads, by decide +kernel, by decide +kernel, by decide +kernel, by decide +kernel,
    by decide +kernel, by decide +kernel, closing_is_final takenBack_reachable takenBack_leads⟩

end Circulation
