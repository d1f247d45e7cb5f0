import Circulation.Proofs.Logbook

/-!
# Rows of any kind

Tables keep rows of seven kinds, and what is said here is said of all of them at once: `Tables.row?` is the row of a kind under
an id. `Numbered` tables have every row under the id that it carries, which is on a list of what ids were given to. Main
statements: a request gives out no id, or the next one, to the row that it answers (`Draft.inserted_cases`), so deeds keep
tables numbered (`Draft.Did.numbered`); and a commit puts the rows that were written in place of the ledger's
(`Committing.row?`).
-/

namespace Circulation

/-- The kinds of rows. -/
inductive RowKind where
  | book
  | user
  | copy
  | loan
  | entry
  | reservation
  | fine
  deriving DecidableEq

/-- A row of any kind. -/
inductive AnyRow where
  | book (b : Book)
  | user (u : User)
  | copy (c : Copy)
  | loan (l : Loan)
  | entry (e : LoanEntry)
  | reservation (r : Reservation)
  | fine (f : Fine)
  deriving DecidableEq

namespace AnyRow

/-- The kind of a row. -/
def kind : AnyRow → RowKind
  | .book _ => .book
  | .user _ => .user
  | .copy _ => .copy
  | .loan _ => .loan
  | .entry _ => .entry
  | .reservation _ => .reservation
  | .fine _ => .fine

/-- The id that a row carries. -/
def id : AnyRow → Int
  | .book b => b.id
  | .user u => u.id
  | .copy c => c.id
  | .loan l => l.id
  | .entry e => e.id
  | .reservation r => r.id
  | .fine f => f.id

end AnyRow

/-! ## Rows of any kind in tables -/

namespace Tables

/-- The row of a kind under an id. -/
def row? (t : Tables) (kind : RowKind) (id : Int) : Option AnyRow :=
  match kind with
  | .book => (t.books.get? id).map .book
  | .user => (t.users.get? id).map .user
  | .copy => (t.copies.get? id).map .copy
  | .loan => (t.loans.get? id).map .loan
  | .entry => (t.entries.get? id).map .entry
  | .reservation => (t.reservations.get? id).map .reservation
  | .fine => (t.fines.get? id).map .fine

/-- The tables with a row kept under an id, among those of its kind. -/
def put (t : Tables) (row : AnyRow) (id : Int) : Tables :=
  match row with
  | .book b => { t with books := t.books.insert id b }
  | .user u => { t with users := t.users.insert id u }
  | .copy c => { t with copies := t.copies.insert id c }
  | .loan l => { t with loans := t.loans.insert id l }
  | .entry e => { t with entries := t.entries.insert id e }
  | .reservation r => { t with reservations := t.reservations.insert id r }
  | .fine f => { t with fines := t.fines.insert id f }

/-- The id carried by the row of a kind under an id. -/
def carried? (t : Tables) (kind : RowKind) (id : Int) : Option Int :=
  (t.row? kind id).map AnyRow.id

/-- Whether every row is under the id that it carries, none beyond the last one given out, and the id was given to a row of
its kind. -/
def Numbered (t : Tables) (last : Int) (given : List AnyRow) : Prop :=
  ∀ kind id row, t.row? kind id = some row → row.id = id ∧ id ≤ last ∧ ∃ g ∈ given, g.kind = kind ∧ g.id = id

variable {t t' : Tables} {g : AnyRow} {id last last' : Int} {given given' : List AnyRow}

/-- A row that was put is found by its kind and id, and all other rows as before. -/
theorem row?_put (t : Tables) (row : AnyRow) (id : Int) (kind : RowKind) (j : Int) :
    (t.put row id).row? kind j = if kind = row.kind ∧ j = id then some row else t.row? kind j := by
  by_cases hj : j = id
  · cases row <;> cases kind <;> simp [put, row?, AnyRow.kind, hj]
  · cases row <;> cases kind <;> simp [put, row?, AnyRow.kind, hj]

/-- To keep a row in place of one with its id changes no id that is carried. -/
theorem carried?_put_old (row old : AnyRow) (hold : t.row? row.kind id = some old) (hid : row.id = old.id) :
    (t.put row id).carried? = t.carried? := by
  funext kind j
  unfold carried?
  rw [row?_put]
  split
  · rename_i h
    obtain ⟨rfl, rfl⟩ := h
    simp [hold, hid]
  · rfl

namespace Numbered

theorem mono (h : t.Numbered last given) (hlast : last ≤ last') (hgiven : given ⊆ given') : t.Numbered last' given' := by
  intro kind id row hrow
  obtain ⟨hid, hle, g, hg, hkind⟩ := h kind id row hrow
  exact ⟨hid, Int.le_trans hle hlast, g, hgiven hg, hkind⟩

theorem congr (h : t.Numbered last given) (hc : t'.carried? = t.carried?) : t'.Numbered last given := by
  intro kind id row hrow
  have hcarried : t.carried? kind id = some row.id := by rw [← hc, carried?, hrow, Option.map_some]
  obtain ⟨before, hbefore, hid⟩ := Option.map_eq_some_iff.1 hcarried
  obtain ⟨hbid, hrest⟩ := h kind id before hbefore
  exact ⟨hid.symm.trans hbid, hrest⟩

/-- A row that is given the next id keeps tables numbered. -/
theorem put (h : t.Numbered last given) (hg : g ∈ given) (hid : g.id = last + 1) :
    (t.put g g.id).Numbered (last + 1) given := by
  intro kind j row hrow
  rw [row?_put] at hrow
  split at hrow
  · rename_i hj
    obtain ⟨rfl, rfl⟩ := hj
    cases hrow
    exact ⟨rfl, Int.le_of_eq hid, g, hg, rfl, rfl⟩
  · exact h.mono (Int.le_of_lt (Int.lt_succ last)) (List.Subset.refl given) kind j row hrow

end Numbered

end Tables

/-- Whether the row of a kind under an id was written. Transactions write neither titles nor users. -/
def Written.has (w : Written) (kind : RowKind) (id : Int) : Bool :=
  match kind with
  | .book => false
  | .user => false
  | .copy => w.copies.contains id
  | .loan => w.loans.contains id
  | .entry => w.entries.contains id
  | .reservation => w.reservations.contains id
  | .fine => w.fines.contains id

/-- Tables know the id of a row of a kind that transactions write. -/
theorem Tables.holds_of_row? {t : Tables} {w : Written} {kind : RowKind} {id : Int} (hw : w.has kind id = true)
    (hrow : (t.row? kind id).isSome = true) : t.Holds id := by
  cases kind with
  | book => cases hw
  | user => cases hw
  | copy => exact .inl (by simpa [row?, Table.contains] using hrow)
  | loan => exact .inr (.inl (by simpa [row?, Table.contains] using hrow))
  | entry => exact .inr (.inr (.inl (by simpa [row?, Table.contains] using hrow)))
  | reservation => exact .inr (.inr (.inr (.inl (by simpa [row?, Table.contains] using hrow))))
  | fine => exact .inr (.inr (.inr (.inr (by simpa [row?, Table.contains] using hrow))))

/-! ## What a transaction inserts -/

/-- The row that was inserted, as it was answered. -/
def Deed.inserted? : Deed → Option AnyRow
  | .asked (.insertCopy _ _) (.ok c) => some (.copy c)
  | .asked (.insertLoan _) (.ok l) => some (.loan l)
  | .asked (.insertEntry _) (.ok e) => some (.entry e)
  | .asked (.insertReservation _) (.ok r) => some (.reservation r)
  | .asked (.insertFine _) (.ok f) => some (.fine f)
  | _ => none

/-- The rows that were inserted by some deeds, in order. -/
def Deed.insertions (ds : List Deed) : List AnyRow :=
  ds.filterMap Deed.inserted?

namespace Draft

variable {base : Ledger} {d d' : Draft} {n n' m : Int} {kind : RowKind} {id : Int} {given : List AnyRow} {g : AnyRow}

/-- A change that gives out no id changes none that is carried. -/
theorem Change.carried (h : d.Change n d' n) : d'.tables.carried? = d.tables.carried? := by
  cases h with
  | none => rfl
  | lock => rfl
  | newCopy c _ hk => exact absurd hk (Int.lt_irrefl n)
  | newLoan l _ hk => exact absurd hk (Int.lt_irrefl n)
  | newEntry e _ hk => exact absurd hk (Int.lt_irrefl n)
  | newReservation r _ hk => exact absurd hk (Int.lt_irrefl n)
  | newFine f _ hk => exact absurd hk (Int.lt_irrefl n)
  | copy id c c' hc _ hlast =>
    exact Tables.carried?_put_old (.copy c') (.copy c) (congrArg (Option.map _) hc) (Lasting.id_eq hlast)
  | loan id l l' hl _ hlast =>
    exact Tables.carried?_put_old (.loan l') (.loan l) (congrArg (Option.map _) hl) (Lasting.id_eq hlast)
  | reservation id r r' hr hlast =>
    exact Tables.carried?_put_old (.reservation r') (.reservation r) (congrArg (Option.map _) hr)
      (Lasting.id_eq hlast)
  | fine id f f' hf _ _ hlast =>
    exact Tables.carried?_put_old (.fine f') (.fine f) (congrArg (Option.map _) hf) (Lasting.id_eq hlast)

/-- What is noted as written stays so. -/
theorem Change.written_has (h : d.Change n d' n') (hw : d.written.has kind id = true) : d'.written.has kind id = true := by
  cases h with
  | none => exact hw
  | lock => exact hw
  | _ =>
    cases kind with
    | book => cases hw
    | user => cases hw
    | _ =>
      simp only [Written.has] at hw
      simp [Written.has, putCopy, putLoan, putEntry, putReservation, putFine, guard, hw]

/-- A request gives out no id, or the next one, to the row that it answers. -/
theorem inserted_cases {q : Request} {a : Except Stop q.Answer} {w : Work} (hw : Work.answer q ⟨d, m, 0⟩ = (a, w)) :
    (Deed.asked q a).inserted? = none ∧ w.lastId = m ∧ w.draft.tables.carried? = d.tables.carried? ∨
    ∃ g, (Deed.asked q a).inserted? = some g ∧ g.id = m + 1 ∧ w.lastId = m + 1 ∧
      w.draft.tables = d.tables.put g g.id ∧ w.draft.written.has g.kind g.id = true := by
  have hchange := change_of_answered hw
  cases q with
  | insertCopy bookId t =>
    simp only [Work.answer] at hw
    split at hw
    · cases hw
      exact .inr ⟨_, rfl, rfl, rfl, rfl, by simp [Written.has, AnyRow.kind, AnyRow.id, putCopy, NewCopy.toRow]⟩
    · cases hw
      exact .inl ⟨rfl, rfl, hchange.carried⟩
  | insertLoan l =>
    cases hw
    exact .inr ⟨_, rfl, rfl, rfl, rfl, by simp [Written.has, AnyRow.kind, AnyRow.id, putLoan, NewLoan.toRow]⟩
  | insertEntry e =>
    cases hw
    exact .inr ⟨_, rfl, rfl, rfl, rfl, by simp [Written.has, AnyRow.kind, AnyRow.id, putEntry, NewLoanEntry.toRow]⟩
  | insertReservation r =>
    cases hw
    exact .inr ⟨_, rfl, rfl, rfl, rfl, by simp [Written.has, AnyRow.kind, AnyRow.id, putReservation, NewReservation.toRow]⟩
  | insertFine f =>
    cases hw
    exact .inr ⟨_, rfl, rfl, rfl, rfl, by simp [Written.has, AnyRow.kind, AnyRow.id, putFine, NewFine.toRow]⟩
  | lockCopy | outstandingTotal =>
    -- These have two ways to answer, neither of which makes a row.
    simp only [Work.answer] at hw
    split at hw
    · cases hw
      exact .inl ⟨rfl, rfl, hchange.carried⟩
    · cases hw
      exact .inl ⟨rfl, rfl, hchange.carried⟩
  | _ =>
    cases hw
    exact .inl ⟨rfl, rfl, hchange.carried⟩

/-- What was inserted in the course of some deeds has an id that had not been given out, and is noted as written. -/
theorem Did.inserted {ds : List Deed} (h : d.Did n ds d' n') (hg : g ∈ Deed.insertions ds) :
    n < g.id ∧ d'.written.has g.kind g.id = true := by
  induction h with
  | nil => nomatch hg
  | called p _ ih => exact ih hg
  | read t _ ih => exact ih hg
  | @asked d d' n m n' ds q a w hm hw h ih =>
    rcases inserted_cases hw with ⟨hnone, hlast, -⟩ | ⟨g', hsome, hid, hlast, -, hwritten⟩
    · rw [Deed.insertions, List.filterMap_cons_none hnone] at hg
      obtain ⟨hlt, hhas⟩ := ih hg
      exact ⟨by omega, hhas⟩
    · rw [Deed.insertions, List.filterMap_cons_some hsome] at hg
      rcases List.mem_cons.1 hg with rfl | hg
      · -- The row is noted by this deed, and no later one takes the note back.
        refine ⟨by omega, ?_⟩
        exact h.keep (I := fun d _ => d.written.has g.kind g.id = true) hwritten (fun _ _ _ _ hhas => hhas)
          fun _ _ _ _ hchange hhas => hchange.written_has hhas
      · obtain ⟨hlt, hhas⟩ := ih hg
        exact ⟨by omega, hhas⟩

/-- Deeds keep tables numbered when the rows that they insert are on the list. -/
theorem Did.numbered {ds : List Deed} (h : d.Did n ds d' n') (hd : d.tables.Numbered n given)
    (hds : Deed.insertions ds ⊆ given) : d'.tables.Numbered n' given := by
  induction h with
  | nil => exact hd
  | called p _ ih => exact ih hd hds
  | read t _ ih => exact ih hd hds
  | @asked d d' n m n' ds q a w hm hw h ih =>
    have hwaited := hd.mono hm (List.Subset.refl given)
    rcases inserted_cases hw with ⟨hnone, hlast, hcarried⟩ | ⟨g, hsome, hid, hlast, htables, -⟩
    · rw [Deed.insertions, List.filterMap_cons_none hnone] at hds
      refine ih ?_ hds
      rw [hlast]
      exact hwaited.congr hcarried
    · rw [Deed.insertions, List.filterMap_cons_some hsome] at hds
      refine ih ?_ (List.subset_of_cons_subset hds)
      rw [hlast, htables]
      exact hwaited.put (hds List.mem_cons_self) hid

/-- A row that was written is there. -/
theorem Stands.exists_row (h : d.Stands base n) (hw : d.written.has kind id = true) :
    ∃ row, d.tables.row? kind id = some row := by
  refine Option.isSome_iff_exists.1 ?_
  cases kind with
  | book => cases hw
  | user => cases hw
  | copy => simpa [Tables.row?, Table.contains] using h.copies.held id hw
  | loan => simpa [Tables.row?, Table.contains] using h.loans.held id hw
  | entry => simpa [Tables.row?, Table.contains] using h.entries.held id hw
  | reservation => simpa [Tables.row?, Table.contains] using h.reservations.held id hw
  | fine => simpa [Tables.row?, Table.contains] using h.fines.held id hw

/-- A row that was written under an id given out before was there when the draft began. -/
theorem Stands.exists_base_row (h : d.Stands base n) (hw : d.written.has kind id = true) (hid : id ≤ base.lastId) :
    ∃ row, base.tables.row? kind id = some row := by
  refine Option.isSome_iff_exists.1 ?_
  cases kind with
  | book => cases hw
  | user => cases hw
  | copy => simpa [Tables.row?, Table.contains] using h.copies.old id (h.copies.held id hw) hid
  | loan => simpa [Tables.row?, Table.contains] using h.loans.old id (h.loans.held id hw) hid
  | entry => simpa [Tables.row?, Table.contains] using h.entries.old id (h.entries.held id hw) hid
  | reservation => simpa [Tables.row?, Table.contains] using h.reservations.old id (h.reservations.held id hw) hid
  | fine => simpa [Tables.row?, Table.contains] using h.fines.old id (h.fines.held id hw) hid

end Draft

/-! ## What is published -/

namespace Committing

variable {l l' : Ledger} {x : Transaction} {committed : List Transaction} {kind : RowKind} {id : Int} {row : AnyRow}

/-- A commit puts the rows that were written in place of the ledger's. -/
theorem row? (h : Committing l x committed l') (kind : RowKind) (id : Int) : l'.tables.row? kind id =
    if x.draft.written.has kind id then x.draft.tables.row? kind id else l.tables.row? kind id := by
  cases kind with
  | book => rw [h.eq]; rfl
  | user => rw [h.eq]; rfl
  | copy => exact (congrArg (Option.map AnyRow.copy) (h.copies id)).trans (apply_ite _ _ _ _)
  | loan => exact (congrArg (Option.map AnyRow.loan) (h.loans id)).trans (apply_ite _ _ _ _)
  | entry => exact (congrArg (Option.map AnyRow.entry) (h.entries id)).trans (apply_ite _ _ _ _)
  | reservation => exact (congrArg (Option.map AnyRow.reservation) (h.reservations id)).trans (apply_ite _ _ _ _)
  | fine => exact (congrArg (Option.map AnyRow.fine) (h.fines id)).trans (apply_ite _ _ _ _)

/-- A row that is written over was there when the transaction began. -/
theorem le_of_written (h : Committing l x committed l') (hw : x.draft.written.has kind id = true)
    (hrow : l.tables.row? kind id = some row) : id ≤ x.base.lastId := by
  obtain ⟨own, hown⟩ := h.stands.exists_row hw
  exact h.apart.old (Tables.holds_of_row? hw (Option.isSome_of_mem hown))
    (Tables.holds_of_row? hw (Option.isSome_of_mem hrow))

/-- A commit of numbered rows leaves them numbered. -/
theorem numbered {given : List AnyRow} (h : Committing l x committed l') (hl : l.tables.Numbered l.lastId given)
    (hd : x.draft.tables.Numbered l.lastId given) : l'.tables.Numbered l'.lastId given := by
  intro kind id row hrow
  rw [h.lastId]
  rw [h.row?] at hrow
  split at hrow
  · exact hd kind id row hrow
  · exact hl kind id row hrow

end Committing

end Circulation
