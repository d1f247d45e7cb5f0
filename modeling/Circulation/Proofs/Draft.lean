import Circulation.Proofs.Follows

/-!
# What requests do to a draft

`Change` lists everything that one request can do to a draft: nothing, a lock, a new row, or a changed row that was in
the state its condition asked for (`change_of_answer`). `Stands` is what every draft owes the ledger it began on,
whatever it was asked to do: it still has every row, unwritten ones unchanged, and its notes of locks, guards and settled
fines say how the rows were when it began (`Stands.change`).
-/

namespace Circulation

open Lasting

namespace Draft

/-- Everything that one request can do to a draft, with the last id given out. -/
inductive Change (d : Draft) (n : Int) : Draft → Int → Prop where
  | none : Change d n d n
  | lock (id : Int) (c : Copy) : d.liveCopy? id = some c → Change d n (d.lock id) n
  | newCopy (c : NewCopy) (k : Int) :
    n < k → d.tables.books.contains c.bookId = true → Change d n (d.putCopy (c.toRow k) k) k
  | newLoan (l : NewLoan) (k : Int) : n < k → Change d n (d.putLoan (l.toRow k) k) k
  | newEntry (e : NewLoanEntry) (k : Int) : n < k → Change d n (d.putEntry (e.toRow k) k) k
  | newReservation (r : NewReservation) (k : Int) : n < k → Change d n (d.putReservation (r.toRow k) k) k
  | newFine (f : NewFine) (k : Int) : n < k → Change d n (d.putFine (f.toRow k) k) k
  | copy (id : Int) (c c' : Copy) :
    d.tables.copies.get? id = some c → c.isDeleted = false → lasting c' = lasting c → Change d n (d.putCopy c' id) n
  | loan (id : Int) (l l' : Loan) :
    d.tables.loans.get? id = some l → l.isBorrowed = true → lasting l' = lasting l →
      Change d n ((d.guard id l.renewCount).putLoan l' id) n
  | reservation (id : Int) (r r' : Reservation) :
    d.tables.reservations.get? id = some r → lasting r' = lasting r → Change d n (d.putReservation r' id) n
  | fine (id : Int) (f f' : Fine) :
    d.tables.fines.get? id = some f → f.settled = false → f'.settled = true → lasting f' = lasting f →
      Change d n { d.putFine f' id with settled := d.settled.add id } n

/-- A conditional change of a copy is a change. -/
theorem change_of_changeCopy (d : Draft) (n id : Int) (holds : Copy → Bool) (change : Copy → Copy)
    (hlive : ∀ c, holds c = true → c.isDeleted = false) (hlast : ∀ c, lasting (change c) = lasting c) :
    Change d n (d.changeCopy id holds change).2 n := by
  unfold changeCopy
  split
  · rename_i c hc
    split
    · rename_i h
      exact .copy id c (change c) hc (hlive c h) (hlast c)
    · exact .none
  · exact .none

/-- An update of a loan, done or not, is a change of the draft. -/
theorem change_of_updateLoan (d : Draft) (n : Int) (loan : Loan) (expected : Int) :
    Change d n (d.updateLoan loan expected).2 n := by
  unfold updateLoan
  split
  · rename_i row hrow
    split
    · rename_i h
      simp only [Bool.and_eq_true, decide_eq_true_eq] at h
      obtain ⟨hb, he⟩ := h
      subst he
      exact .loan loan.id row _ hrow hb rfl
    · exact .none
  · exact .none

/-- A move of a reservation, done or not, is a change of the draft. -/
theorem change_of_moveReservation (d : Draft) (n id : Int) (expected status : ReservationStatus) (now : Instant) :
    Change d n (d.moveReservation id expected status now).2 n := by
  unfold moveReservation
  split
  · rename_i r hr
    split
    · exact .reservation id r _ hr rfl
    · exact .none
  · exact .none

/-- A settlement of a fine, done or not, is a change of the draft. -/
theorem change_of_settleFine (d : Draft) (n id : Int) (now : Instant) : Change d n (d.settleFine id now).2 n := by
  unfold settleFine
  split
  · rename_i f hf
    split
    · exact .none
    · rename_i h
      exact .fine id f _ hf (by simpa using h) rfl rfl
  · exact .none

/-- What a request does to a draft is a change. -/
theorem change_of_answer (q : Request) (w : Work) :
    Change w.draft w.lastId (Work.answer q w).2.draft (Work.answer q w).2.lastId := by
  cases q with
  | lockCopy id =>
    simp only [Work.answer]
    split
    · rename_i c hc
      exact .lock id c hc
    · exact .none
  | insertCopy bookId now =>
    simp only [Work.answer]
    split
    · rename_i h
      exact .newCopy ⟨bookId, now⟩ _ (Int.lt_succ _) h
    · exact .none
  | moveCopy id expected status now =>
    exact change_of_changeCopy _ _ id _ _ (fun c h => by simp at h; exact h.1) (fun _ => rfl)
  | withdrawCopy id now =>
    exact change_of_changeCopy _ _ id _ _ (fun c h => by simp at h; exact h.1) (fun _ => rfl)
  | insertLoan loan => exact .newLoan loan _ (Int.lt_succ _)
  | updateLoan loan expected => exact change_of_updateLoan _ _ loan expected
  | insertEntry entry => exact .newEntry entry _ (Int.lt_succ _)
  | insertReservation reservation => exact .newReservation reservation _ (Int.lt_succ _)
  | moveReservation id expected status now => exact change_of_moveReservation _ _ id expected status now
  | insertFine fine => exact .newFine fine _ (Int.lt_succ _)
  | settleFine id now => exact change_of_settleFine _ _ id now
  | outstandingTotal userId =>
    simp only [Work.answer]
    split
    · exact .none
    · exact .none
  | _ => exact .none

/-- And so is what becomes of the draft when the answer is known. -/
theorem change_of_answered {q : Request} {w w' : Work} {a : Except Stop q.Answer} (h : Work.answer q w = (a, w')) :
    Change w.draft w.lastId w'.draft w'.lastId := by
  have hc := change_of_answer q w
  rwa [h] at hc

/-- No change takes an id back. -/
theorem Change.le {d d' : Draft} {n n' : Int} (h : d.Change n d' n') : n ≤ n' := by
  cases h <;> omega

/-- A change gives up no lock. -/
theorem Change.locked {d d' : Draft} {n n' c : Int} (h : d.Change n d' n') (hc : d.locked.contains c = true) :
    d'.locked.contains c = true := by
  cases h with
  | lock id => simp [Draft.lock, hc]
  | _ => exact hc

end Draft

/-! ## What a draft owes its base -/

/-- Whether there is a row under an id, of whatever kind a transaction writes. -/
def Tables.Holds (t : Tables) (id : Int) : Prop :=
  t.copies.contains id = true ∨ t.loans.contains id = true ∨ t.entries.contains id = true ∨
    t.reservations.contains id = true ∨ t.fines.contains id = true

/-- Whether every committed row is under its own id, none beyond the last one given out. -/
structure Ledger.Sound (l : Ledger) : Prop where
  copies : l.tables.copies.Keyed l.lastId
  loans : l.tables.loans.Keyed l.lastId
  entries : l.tables.entries.Keyed l.lastId
  reservations : l.tables.reservations.Keyed l.lastId
  fines : l.tables.fines.Keyed l.lastId

/-- No row of a sound ledger is under an id not yet given out. -/
theorem Ledger.Sound.le_lastId {l : Ledger} (h : l.Sound) {id : Int} (hid : l.tables.Holds id) : id ≤ l.lastId := by
  rcases hid with hid | hid | hid | hid | hid <;> obtain ⟨a, ha⟩ := Table.contains_iff.1 hid
  · exact (h.copies id a ha).2
  · exact (h.loans id a ha).2
  · exact (h.entries id a ha).2
  · exact (h.reservations id a ha).2
  · exact (h.fines id a ha).2

namespace Draft

/-- What a draft owes the ledger it began on: rows follow those it began with, and what it notes of locks, guards and
settled fines is how the ledger had them. A change of a loan that was there is guarded, and a change of a fine that was
there is its settlement. -/
structure Stands (base : Ledger) (d : Draft) (n : Int) : Prop where
  le : base.lastId ≤ n
  books : d.tables.books = base.tables.books
  users : d.tables.users = base.tables.users
  versions : d.versions = base.versions
  copies : base.tables.copies.Follows base.lastId d.tables.copies d.written.copies n
  loans : base.tables.loans.Follows base.lastId d.tables.loans d.written.loans n
  entries : base.tables.entries.Follows base.lastId d.tables.entries d.written.entries n
  reservations : base.tables.reservations.Follows base.lastId d.tables.reservations d.written.reservations n
  fines : base.tables.fines.Follows base.lastId d.tables.fines d.written.fines n
  locked : ∀ id v, d.locked.get? id = some v → v = base.version id ∧ d.tables.copies.contains id = true
  guards : ∀ id c, d.guards.get? id = some c →
    d.written.loans.contains id = true ∧
      ∀ l, base.tables.loans.get? id = some l → l.isBorrowed = true ∧ l.renewCount = c
  guarded : ∀ id, d.written.loans.contains id = true → base.tables.loans.contains id = true →
    d.guards.contains id = true
  settled : ∀ id, d.settled.contains id = true →
    d.written.fines.contains id = true ∧ ∀ f, base.tables.fines.get? id = some f → f.settled = false
  unsettled : ∀ id, d.written.fines.contains id = true → base.tables.fines.contains id = true →
    d.settled.contains id = true

namespace Stands

variable {base : Ledger} {d d' : Draft} {n n' : Int}

/-- A draft that has done nothing stands to the ledger it is taken from. -/
theorem begin (h : base.Sound) : base.draft.Stands base base.lastId where
  le := Int.le_refl _
  books := rfl
  users := rfl
  versions := rfl
  copies := .begin h.copies
  loans := .begin h.loans
  entries := .begin h.entries
  reservations := .begin h.reservations
  fines := .begin h.fines
  locked _ _ h := by cases h
  guards _ _ h := by cases h
  guarded _ h := by cases h
  settled _ h := by cases h
  unsettled _ h := by cases h

theorem mono (h : d.Stands base n) (hn : n ≤ n') : d.Stands base n' :=
  { h with
    le := Int.le_trans h.le hn
    copies := h.copies.mono hn
    loans := h.loans.mono hn
    entries := h.entries.mono hn
    reservations := h.reservations.mono hn
    fines := h.fines.mono hn }

/-- A draft stands with the lock on a copy that it sees. -/
theorem lock (h : d.Stands base n) (id : Int) (c : Copy) (hc : d.liveCopy? id = some c) :
    (d.lock id).Stands base n :=
  { h with
    locked := by
      intro j v hv
      rw [Draft.lock, Table.get?_insertNew] at hv
      split at hv
      · rename_i hj
        obtain ⟨rfl, -⟩ := hj
        cases hv
        refine ⟨by rw [h.versions]; rfl, ?_⟩
        obtain ⟨hc, -⟩ := Option.filter_eq_some_iff.1 hc
        exact Table.contains_of_get? hc
      · exact h.locked j v hv }

/-- A draft stands when it guards a loan that is out and changes what may change of it. -/
theorem putLoan (h : d.Stands base n) (id : Int) (l l' : Loan) (hl : d.tables.loans.get? id = some l)
    (hb : l.isBorrowed = true) (hlast : lasting l' = lasting l) :
    ((d.guard id l.renewCount).putLoan l' id).Stands base n :=
  { h with
    loans := h.loans.insert_old hl hlast
    guards := by
      intro j c hc
      simp only [Draft.putLoan, Draft.guard, Table.contains_add, Bool.or_eq_true, decide_eq_true_eq] at hc ⊢
      rw [Table.get?_insertNew] at hc
      split at hc
      · rename_i hj
        obtain ⟨rfl, hnew⟩ := hj
        cases hc
        refine ⟨.inl rfl, fun b hb' => ?_⟩
        -- The first change of a loan finds it as it was when the draft began.
        have hnot : d.written.loans.contains j = false := by
          rcases Bool.eq_false_or_eq_true (d.written.loans.contains j) with hw | hw
          · exact absurd (h.guarded j hw (Table.contains_of_get? hb')) (by simp [hnew])
          · exact hw
        have := h.loans.base_of_unwritten hl hnot
        cases hb'.symm.trans this
        exact ⟨hb, rfl⟩
      · exact ⟨.inr (h.guards j c hc).1, (h.guards j c hc).2⟩
    guarded := by
      intro j hj hbase
      simp only [Draft.putLoan, Draft.guard, Table.contains_add, Bool.or_eq_true, decide_eq_true_eq,
        Table.contains_insertNew] at hj ⊢
      exact hj.imp_right fun hw => h.guarded j hw hbase }

/-- A draft stands when it changes what may change of a copy. -/
theorem putCopy (h : d.Stands base n) (id : Int) (c c' : Copy) (hc : d.tables.copies.get? id = some c)
    (hlast : lasting c' = lasting c) : (d.putCopy c' id).Stands base n :=
  { h with
    copies := h.copies.insert_old hc hlast
    locked := by
      intro j v hv
      refine ⟨(h.locked j v hv).1, ?_⟩
      simp [Draft.putCopy, (h.locked j v hv).2] }

/-- A draft stands when it changes what may change of a reservation. -/
theorem putReservation (h : d.Stands base n) (id : Int) (r r' : Reservation)
    (hr : d.tables.reservations.get? id = some r) (hlast : lasting r' = lasting r) :
    (d.putReservation r' id).Stands base n :=
  { h with reservations := h.reservations.insert_old hr hlast }

/-- A draft stands when it settles a fine that was not settled, and notes so. -/
theorem putFine (h : d.Stands base n) (id : Int) (f f' : Fine) (hf : d.tables.fines.get? id = some f)
    (hs : f.settled = false) (hlast : lasting f' = lasting f) :
    Stands base { d.putFine f' id with settled := d.settled.add id } n :=
  { h with
    fines := h.fines.insert_old hf hlast
    settled := by
      intro j hj
      simp only [Draft.putFine, Table.contains_add, Bool.or_eq_true, decide_eq_true_eq] at hj ⊢
      rcases hj with rfl | hj
      · refine ⟨.inl rfl, fun b hb => ?_⟩
        -- A fine that was settled before would have been noted, and could not be settled again.
        rcases Bool.eq_false_or_eq_true (d.written.fines.contains j) with hw | hw
        · exact (h.settled j (h.unsettled j hw (Table.contains_of_get? hb))).2 b hb
        · have := h.fines.base_of_unwritten hf hw
          cases hb.symm.trans this
          exact hs
      · exact ⟨.inr (h.settled j hj).1, (h.settled j hj).2⟩
    unsettled := by
      intro j hj hbase
      simp only [Draft.putFine, Table.contains_add, Bool.or_eq_true, decide_eq_true_eq] at hj ⊢
      exact hj.imp_right fun hw => h.unsettled j hw hbase }

/-- A loan that a draft wrote is out in its base, if the base has it. -/
theorem base_open (h : d.Stands base n) {id : Int} {l : Loan} (hw : d.written.loans.contains id = true)
    (hl : base.tables.loans.get? id = some l) : l.isBorrowed = true := by
  obtain ⟨c, hc⟩ := Table.contains_iff.1 (h.guarded id hw (Table.contains_of_get? hl))
  exact ((h.guards id c hc).2 l hl).1

/-- The base has no row under an id that has not been given out. -/
theorem not_contains_new {α : Type} [Lasting α] {b t : Table α} {w : IdSet} {k : Int}
    (h : b.Follows base.lastId t w n) (hk : n < k) : b.contains k = false := by
  cases hb : b.contains k with
  | false => rfl
  | true =>
    obtain ⟨a, ha⟩ := Table.contains_iff.1 hb
    obtain ⟨c, hc, -⟩ := h.kept _ a ha
    exact absurd (h.keyed _ c hc).2 (Int.not_le.2 hk)

/-- No row is under an id beyond the last one given out. -/
theorem le_of_holds (h : d.Stands base n) {id : Int} (hid : d.tables.Holds id) : id ≤ n := by
  rcases hid with hid | hid | hid | hid | hid <;> obtain ⟨a, ha⟩ := Table.contains_iff.1 hid
  · exact (h.copies.keyed id a ha).2
  · exact (h.loans.keyed id a ha).2
  · exact (h.entries.keyed id a ha).2
  · exact (h.reservations.keyed id a ha).2
  · exact (h.fines.keyed id a ha).2

variable {k : Int}

/-- A draft stands with a copy under a new id. -/
theorem newCopy (h : d.Stands base n) (c : NewCopy) (hk : n < k) : (d.putCopy (c.toRow k) k).Stands base k :=
  { h.mono (Int.le_of_lt hk) with
    copies := h.copies.insert_new h.le hk rfl
    locked := by
      intro j v hv
      refine ⟨(h.locked j v hv).1, ?_⟩
      simp [Draft.putCopy, (h.locked j v hv).2] }

/-- A draft stands with a loan under a new id. -/
theorem newLoan (h : d.Stands base n) (l : NewLoan) (hk : n < k) : (d.putLoan (l.toRow k) k).Stands base k :=
  { h.mono (Int.le_of_lt hk) with
    loans := h.loans.insert_new h.le hk rfl
    guards := by
      intro j c hc
      refine ⟨?_, (h.guards j c hc).2⟩
      simp [Draft.putLoan, (h.guards j c hc).1]
    guarded := by
      intro j hj hbase
      simp only [Draft.putLoan, Table.contains_add, Bool.or_eq_true, decide_eq_true_eq] at hj
      rcases hj with rfl | hj
      · exact absurd hbase (by simp [not_contains_new h.loans hk])
      · exact h.guarded j hj hbase }

/-- A draft stands with an entry under a new id. -/
theorem newEntry (h : d.Stands base n) (e : NewLoanEntry) (hk : n < k) : (d.putEntry (e.toRow k) k).Stands base k :=
  { h.mono (Int.le_of_lt hk) with entries := h.entries.insert_new h.le hk rfl }

/-- A draft stands with a reservation under a new id. -/
theorem newReservation (h : d.Stands base n) (r : NewReservation) (hk : n < k) :
    (d.putReservation (r.toRow k) k).Stands base k :=
  { h.mono (Int.le_of_lt hk) with reservations := h.reservations.insert_new h.le hk rfl }

/-- A draft stands with a fine under a new id. -/
theorem newFine (h : d.Stands base n) (f : NewFine) (hk : n < k) : (d.putFine (f.toRow k) k).Stands base k :=
  { h.mono (Int.le_of_lt hk) with
    fines := h.fines.insert_new h.le hk rfl
    settled := by
      intro j hj
      refine ⟨?_, (h.settled j hj).2⟩
      simp [Draft.putFine, (h.settled j hj).1]
    unsettled := by
      intro j hj hbase
      simp only [Draft.putFine, Table.contains_add, Bool.or_eq_true, decide_eq_true_eq] at hj
      rcases hj with rfl | hj
      · exact absurd hbase (by simp [not_contains_new h.fines hk])
      · exact h.unsettled j hj hbase }

/-- A draft stands to its base whatever it is asked to do. -/
theorem change (h : d.Stands base n) (hc : d.Change n d' n') : d'.Stands base n' := by
  cases hc with
  | none => exact h
  | lock id c hc => exact h.lock id c hc
  | newCopy c _ hk _ => exact h.newCopy c hk
  | newLoan l _ hk => exact h.newLoan l hk
  | newEntry e _ hk => exact h.newEntry e hk
  | newReservation r _ hk => exact h.newReservation r hk
  | newFine f _ hk => exact h.newFine f hk
  | copy id c c' hc _ hlast => exact h.putCopy id c c' hc hlast
  | loan id l l' hl hb hlast => exact h.putLoan id l l' hl hb hlast
  | reservation id r r' hr hlast => exact h.putReservation id r r' hr hlast
  | fine id f f' hf hs _ hlast => exact h.putFine id f f' hf hs hlast

end Stands

/-- A change adds a row under no other id than a new one. -/
theorem Change.holds {d d' : Draft} {n n' id : Int} (h : d.Change n d' n') (hid : d'.tables.Holds id) :
    d.tables.Holds id ∨ (n < id ∧ id ≤ n') := by
  cases h with
  | none => exact .inl hid
  | lock => exact .inl hid
  | newCopy | newLoan | newEntry | newReservation | newFine =>
    simp only [putCopy, putLoan, putEntry, putReservation, putFine, Tables.Holds, Table.contains_insert, Bool.or_eq_true,
      decide_eq_true_eq] at hid ⊢
    grind
  | copy _ _ _ hr | loan _ _ _ hr | reservation _ _ _ hr | fine _ _ _ hr =>
    left
    have := Table.contains_of_get? hr
    simp only [putCopy, putLoan, putReservation, putFine, guard, Tables.Holds, Table.contains_insert, Bool.or_eq_true,
      decide_eq_true_eq] at hid ⊢
    grind

/-- What a draft keeps whatever becomes of it: its locks, its settlements, its notes of what it wrote, its rows, and the lasting
part of its loans and reservations. -/
structure Grows (d d' : Draft) : Prop where
  locked : ∀ c, d.locked.contains c = true → d'.locked.contains c = true
  settled : ∀ f, d.settled.contains f = true → d'.settled.contains f = true
  writtenCopies : ∀ i, d.written.copies.contains i = true → d'.written.copies.contains i = true
  writtenLoans : ∀ i, d.written.loans.contains i = true → d'.written.loans.contains i = true
  writtenReservations : ∀ i, d.written.reservations.contains i = true → d'.written.reservations.contains i = true
  holds : ∀ i, d.tables.Holds i → d'.tables.Holds i
  loans : d.tables.loans.Kept d'.tables.loans
  reservations : d.tables.reservations.Kept d'.tables.reservations

theorem Grows.refl (d : Draft) : d.Grows d :=
  ⟨fun _ h => h, fun _ h => h, fun _ h => h, fun _ h => h, fun _ h => h, fun _ h => h, .refl _, .refl _⟩

theorem Grows.trans {d d' d'' : Draft} (h : d.Grows d') (h' : d'.Grows d'') : d.Grows d'' where
  locked c hc := h'.locked c (h.locked c hc)
  settled f hf := h'.settled f (h.settled f hf)
  writtenCopies i hi := h'.writtenCopies i (h.writtenCopies i hi)
  writtenLoans i hi := h'.writtenLoans i (h.writtenLoans i hi)
  writtenReservations i hi := h'.writtenReservations i (h.writtenReservations i hi)
  holds i hi := h'.holds i (h.holds i hi)
  loans := h.loans.trans h'.loans
  reservations := h.reservations.trans h'.reservations

/-- A change keeps what a draft keeps. -/
theorem Change.grows {base : Ledger} {d d' : Draft} {n n' : Int} (h : d.Change n d' n') (hs : d.Stands base n) :
    d.Grows d' := by
  refine ⟨fun c => h.locked, ?_, ?_, ?_, ?_, ?_, ?_, ?_⟩
  · intro f hf
    cases h with
    | fine id => simp [hf]
    | _ => exact hf
  · intro i hi
    cases h with
    | newCopy | copy => simp [putCopy, hi]
    | _ => exact hi
  · intro i hi
    cases h with
    | newLoan | loan => simp [putLoan, guard, hi]
    | _ => exact hi
  · intro i hi
    cases h with
    | newReservation | reservation => simp [putReservation, hi]
    | _ => exact hi
  · intro i hi
    cases h with
    | none | lock => exact hi
    | _ =>
      simp only [putCopy, putLoan, putEntry, putReservation, putFine, guard, Tables.Holds, Table.contains_insert,
        Bool.or_eq_true, decide_eq_true_eq] at hi ⊢
      grind
  · cases h with
    | newLoan l k hk =>
      refine Table.kept_insert fun b hb => ?_
      cases (hs.loans.keyed.none_of_lt hk).symm.trans hb
    | loan id l l' hl _ hlast =>
      refine Table.kept_insert fun b hb => ?_
      cases hl.symm.trans hb
      exact hlast
    | _ => exact .refl _
  · cases h with
    | newReservation r k hk =>
      refine Table.kept_insert fun b hb => ?_
      cases (hs.reservations.keyed.none_of_lt hk).symm.trans hb
    | reservation id r r' hr hlast =>
      refine Table.kept_insert fun b hb => ?_
      cases hr.symm.trans hb
      exact hlast
    | _ => exact .refl _

end Draft

end Circulation
