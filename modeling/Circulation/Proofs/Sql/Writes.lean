import Circulation.Proofs.Sql.Reading
import Circulation.Proofs.Sql.Updates

/-!
# What insertions do

An insertion under an id of its own adds one row, which shows a record when it does so column by column
(`Bound.Adds.inserts`), and what is given back is read as the record. Amounts are kept in cents, so one with more places
is rounded, which no draft does (`thirdPlace_not_inserted`). Main statement: `statements_write_what_the_draft_writes`, of
updates and insertions.
-/

namespace Circulation.Sql

variable {α : Type} [Recorded α] {db : Database} {t : Table α} {id : Int}

/-! ## The insertions -/

/-- Whether a bound statement adds a row under an id that shows a record. -/
def Bound.Adds (b : Bound) (id : Int) (now : Instant) (a : α) : Prop :=
  ∃ i, b.statement = .insert i ∧ i.table = Recorded.table α ∧ (i.row b.parameters id now).Shows a

/-- What comes of an insertion under an id of its own: one row more, and the other tables as they were. -/
theorem Bound.Adds.inserts {b : Bound} {now : Instant} {a : α} (hb : b.Adds id now a) (h : db.Keeps t)
    (hfree : ∀ r ∈ db (Recorded.table α), r.get "id" ≠ .int id) (ha : Listed.id a = id) :
    ∃ db' row, b.Inserts db id now db' row ∧ row.Shows a ∧ db'.Keeps (t.insert id a) ∧
      ∀ s, s ≠ Recorded.table α → db' s = db s := by
  obtain ⟨i, hi, htable, hshow⟩ := hb
  refine ⟨_, _, ⟨i, hi, rfl, rfl⟩, hshow, ?_, ?_⟩
  · rw [htable]
    exact h.insert (h.get?_eq_none hfree) ha hshow
  · intro s hs
    exact Function.update_of_ne (htable ▸ hs) _ _

section Adds

-- The columns are gone through in the order of the layout.

/-- The insertion of a copy adds a row that shows it. -/
theorem insertCopy_adds {bookId : Int} {now : Instant} (hm : (insertCopy bookId now).InMicros) (k : Int) (time : Instant) :
    (insertCopy bookId now).sent.Adds k time (NewCopy.toRow ⟨bookId, now⟩ k) := by
  have hexact : (insertCopy bookId now).Exact := hm.exact (by simp [insertCopy])
  have hnow : Value.stored (.instant now) = .instant now := hexact _ (by simp [insertCopy])
  rw [hexact.sent_eq]
  exact ⟨_, rfl, rfl, Row.shows_of_columns (.cons ⟨rfl, rfl⟩ <| .cons ⟨rfl, rfl⟩ <| .cons ⟨rfl, rfl⟩ <|
    .cons ⟨rfl, hnow⟩ <| .cons ⟨rfl, hnow⟩ <| .cons ⟨rfl, rfl⟩ .nil)⟩

/-- The insertion of a loan adds a row that shows it. -/
theorem insertLoan_adds {l : NewLoan} (hm : (insertLoan l).InMicros) (k : Int) (time : Instant) :
    (insertLoan l).sent.Adds k time (l.toRow k) := by
  have hexact : (insertLoan l).Exact := hm.exact (by simp [insertLoan])
  have hborrow : Value.stored (.instant l.borrowDate) = .instant l.borrowDate := hexact _ (by simp [insertLoan])
  have hdue : Value.stored (.instant l.dueDate) = .instant l.dueDate := hexact _ (by simp [insertLoan])
  rw [hexact.sent_eq]
  exact ⟨_, rfl, rfl, Row.shows_of_columns (.cons ⟨rfl, rfl⟩ <| .cons ⟨rfl, rfl⟩ <| .cons ⟨rfl, rfl⟩ <|
    .cons ⟨rfl, rfl⟩ <| .cons ⟨rfl, rfl⟩ <| .cons ⟨rfl, hborrow⟩ <| .cons ⟨rfl, hdue⟩ <| .cons ⟨rfl, rfl⟩ <|
    .cons ⟨rfl, rfl⟩ <| .cons ⟨rfl, hborrow⟩ <| .cons ⟨rfl, hborrow⟩ .nil)⟩

/-- The insertion of an entry adds a row that shows it. -/
theorem insertEntry_adds {e : NewLoanEntry} (hm : (insertEntry e).InMicros) (k : Int) (time : Instant) :
    (insertEntry e).sent.Adds k time (e.toRow k) := by
  have hexact : (insertEntry e).Exact := hm.exact (by simp [insertEntry])
  have hdue : Value.stored (.instant e.dueDate) = .instant e.dueDate := hexact _ (by simp [insertEntry])
  have hprevious : (Value.ofOption .instant e.previousDueDate).stored = .ofOption .instant e.previousDueDate :=
    hexact _ (by simp [insertEntry])
  have hcreated : Value.stored (.instant e.createdAt) = .instant e.createdAt := hexact _ (by simp [insertEntry])
  have hsame : (Value.ofOption .instant e.previousDueDate).stored.Same (.ofOption .instant e.previousDueDate) := by
    rw [hprevious]
    exact .refl _
  rw [hexact.sent_eq]
  exact ⟨_, rfl, rfl, Row.shows_of_columns (.cons ⟨rfl, rfl⟩ <| .cons ⟨rfl, rfl⟩ <| .cons ⟨rfl, rfl⟩ <|
    .cons ⟨rfl, hdue⟩ <| .cons ⟨rfl, hsame⟩ <| .cons ⟨rfl, hcreated⟩ .nil)⟩

/-- The insertion of a reservation adds a row that shows it. -/
theorem insertReservation_adds {r : NewReservation} (hm : (insertReservation r).InMicros) (k : Int) (time : Instant) :
    (insertReservation r).sent.Adds k time (r.toRow k) := by
  have hexact : (insertReservation r).Exact := hm.exact (by simp [insertReservation])
  have hdate : Value.stored (.instant r.reservationDate) = .instant r.reservationDate :=
    hexact _ (by simp [insertReservation])
  have hcreated : Value.stored (.instant r.createdAt) = .instant r.createdAt := hexact _ (by simp [insertReservation])
  rw [hexact.sent_eq]
  exact ⟨_, rfl, rfl, Row.shows_of_columns (.cons ⟨rfl, rfl⟩ <| .cons ⟨rfl, rfl⟩ <| .cons ⟨rfl, rfl⟩ <|
    .cons ⟨rfl, rfl⟩ <| .cons ⟨rfl, rfl⟩ <| .cons ⟨rfl, hdate⟩ <| .cons ⟨rfl, hcreated⟩ <|
    .cons ⟨rfl, hcreated⟩ .nil)⟩

/-- A copy that is inserted in whole microseconds is whole. -/
theorem insertCopy_whole {bookId : Int} {now : Instant} (hm : (insertCopy bookId now).InMicros) (k : Int) :
    Whole (NewCopy.toRow ⟨bookId, now⟩ k) := by
  refine hm.whole ?_
  intro column t ht
  simp [Recorded.columns, NewCopy.toRow, Value.coded, Value.ofOption] at ht
  rcases ht with ⟨-, rfl⟩ | ⟨-, rfl⟩ <;> simp [insertCopy]

/-- A loan that is inserted in whole microseconds is whole. -/
theorem insertLoan_whole {l : NewLoan} (hm : (insertLoan l).InMicros) (k : Int) : Whole (l.toRow k) := by
  refine hm.whole ?_
  intro column t ht
  simp [Recorded.columns, NewLoan.toRow, Value.coded, Value.ofOption] at ht
  rcases ht with ⟨-, rfl⟩ | ⟨-, rfl⟩ | ⟨-, rfl⟩ | ⟨-, rfl⟩ <;> simp [insertLoan]

/-- An entry that is inserted in whole microseconds is whole. -/
theorem insertEntry_whole {e : NewLoanEntry} (hm : (insertEntry e).InMicros) (k : Int) : Whole (e.toRow k) := by
  refine hm.whole ?_
  intro column t ht
  simp [Recorded.columns, NewLoanEntry.toRow, Value.coded] at ht
  rcases ht with ⟨-, rfl⟩ | ⟨-, hprevious⟩ | ⟨-, rfl⟩
  · simp [insertEntry]
  · simp [insertEntry, hprevious]
  · simp [insertEntry]

/-- A reservation that is inserted in whole microseconds is whole. -/
theorem insertReservation_whole {r : NewReservation} (hm : (insertReservation r).InMicros) (k : Int) :
    Whole (r.toRow k) := by
  refine hm.whole ?_
  intro column t ht
  simp [Recorded.columns, NewReservation.toRow, Value.coded] at ht
  rcases ht with ⟨-, rfl⟩ | ⟨-, rfl⟩ | ⟨-, rfl⟩ <;> simp [insertReservation]

/-- A fine that is inserted in whole microseconds is whole. -/
theorem insertFine_whole {f : NewFine} (hm : (insertFine f).InMicros) (k : Int) : Whole (f.toRow k) := by
  refine hm.whole ?_
  intro column t ht
  simp [Recorded.columns, NewFine.toRow, Value.decimal] at ht
  rcases ht with ⟨-, rfl⟩ | ⟨-, rfl⟩ <;> simp [insertFine]

/-- Whether an amount is a whole number of cents. -/
def WholeCents (d : Decimal) : Prop :=
  10 ^ d.scale ∣ d.magnitude * 100

instance (d : Decimal) : Decidable (WholeCents d) := inferInstanceAs (Decidable (_ ∣ _))

/-- Whether a column for amounts takes an amount: it has at most ten digits in cents. -/
def TenDigits (d : Decimal) : Prop :=
  (Numeric.ofDecimal d).stored.inCents.magnitude < 10 ^ 10

instance (d : Decimal) : Decidable (TenDigits d) := inferInstanceAs (Decidable (_ < _))

/-- An amount in whole cents is kept for what it is worth, though it is sent as it is kept and rounded. -/
theorem insertFine_adds {f : NewFine} (hm : (insertFine f).InMicros) (hamount : WholeCents f.amount) (k : Int)
    (time : Instant) : (insertFine f).sent.Adds k time (f.toRow k) := by
  have hcut : f.createdAt.cutToMicros = f.createdAt := hm _ (by simp [insertFine])
  have hcreated : Value.stored (.instant f.createdAt.cutToMicros) = .instant f.createdAt := by
    rw [hcut]
    exact congrArg Value.instant hcut
  have hsame : (Numeric.ofDecimal f.amount).stored.inCents.Same (.ofDecimal f.amount) :=
    (Numeric.inCents_stored_same_iff _).2 hamount
  exact ⟨_, rfl, rfl, Row.shows_of_columns (.cons ⟨rfl, rfl⟩ <| .cons ⟨rfl, rfl⟩ <| .cons ⟨rfl, hsame⟩ <|
    .cons ⟨rfl, rfl⟩ <| .cons ⟨rfl, hcreated⟩ <| .cons ⟨rfl, hcreated⟩ .nil)⟩

end Adds

/-- Whether what is sent for a request adds and gives back a row as the request adds a record to a draft, and the row
given back is read as the record, for whatever id the database gives next: the draft is one whose last id is the one
before. -/
def Inserted (q : Request) [Recorded q.Answer] (db : Database) (work : Work) : Prop :=
  ∀ last now, (∀ r ∈ db (Recorded.table q.Answer), r.get "id" ≠ .int (last + 1)) →
    ∃ db' row a, (ofRequest q).sent.Inserts db (last + 1) now db' row ∧
      (Work.answer q { work with lastId := last }).1 = .ok a ∧ row.Shows a ∧
      (∃ a', (Reply.found [row]).answer q = .ok a' ∧ Alike a' a) ∧
      db'.KeepsAll (Work.answer q { work with lastId := last }).2.draft.tables

section Inserts

variable {work : Work} (h : db.KeepsAll work.draft.tables)
include h

/-- A copy is inserted in the database as in the draft, when its title is there. -/
theorem insertCopy_inserted {bookId : Int} {now : Instant} (hm : (ofRequest (.insertCopy bookId now)).InMicros)
    (hbook : work.draft.tables.books.contains bookId = true) : Inserted (.insertCopy bookId now) db work := by
  intro last time hfree
  obtain ⟨db', row, hins, hshow, hkeeps, hother⟩ := (insertCopy_adds hm (last + 1) time).inserts h.copies hfree rfl
  have hread := hshow.copy (insertCopy_whole hm _)
  have hanswer : Work.answer (.insertCopy bookId now) { work with lastId := last } =
      Work.insert { work with lastId := last } (NewCopy.toRow ⟨bookId, now⟩) Draft.putCopy := if_pos hbook
  rw [hanswer]
  exact ⟨db', row, _, hins, rfl, hshow, ⟨_, hread, .refl _⟩, h.withCopies hkeeps hother⟩

/-- A loan is inserted in the database as in the draft. -/
theorem insertLoan_inserted {l : NewLoan} (hm : (ofRequest (.insertLoan l)).InMicros) :
    Inserted (.insertLoan l) db work := by
  intro last time hfree
  obtain ⟨db', row, hins, hshow, hkeeps, hother⟩ := (insertLoan_adds hm (last + 1) time).inserts h.loans hfree rfl
  have hread := hshow.loan (insertLoan_whole hm _)
  exact ⟨db', row, _, hins, rfl, hshow, ⟨_, hread, .refl _⟩, h.withLoans hkeeps hother⟩

/-- An entry is inserted in the database as in the draft. -/
theorem insertEntry_inserted {e : NewLoanEntry} (hm : (ofRequest (.insertEntry e)).InMicros) :
    Inserted (.insertEntry e) db work := by
  intro last time hfree
  obtain ⟨db', row, hins, hshow, hkeeps, hother⟩ := (insertEntry_adds hm (last + 1) time).inserts h.entries hfree rfl
  have hread := hshow.entry (insertEntry_whole hm _)
  exact ⟨db', row, _, hins, rfl, hshow, ⟨_, hread, .refl _⟩, h.withEntries hkeeps hother⟩

/-- A reservation is inserted in the database as in the draft. -/
theorem insertReservation_inserted {r : NewReservation} (hm : (ofRequest (.insertReservation r)).InMicros) :
    Inserted (.insertReservation r) db work := by
  intro last time hfree
  obtain ⟨db', row, hins, hshow, hkeeps, hother⟩ :=
    (insertReservation_adds hm (last + 1) time).inserts h.reservations hfree rfl
  have hread := hshow.reservation (insertReservation_whole hm _)
  exact ⟨db', row, _, hins, rfl, hshow, ⟨_, hread, .refl _⟩, h.withReservations hkeeps hother⟩

/-- A fine is inserted in the database as in the draft, when its amount is of whole cents and fits the column. -/
theorem insertFine_inserted {f : NewFine} (hm : (ofRequest (.insertFine f)).InMicros) (hamount : WholeCents f.amount)
    (hfits : TenDigits f.amount) : Inserted (.insertFine f) db work := by
  intro last time hfree
  obtain ⟨db', row, hins, hshow, hkeeps, hother⟩ := (insertFine_adds hm hamount (last + 1) time).inserts h.fines hfree rfl
  have hkept : row.get "amount" = .numeric (Numeric.ofDecimal f.amount).stored.inCents := by
    obtain ⟨i, hi, hrow, -⟩ := hins
    cases hi
    rw [hrow]
    rfl
  have hread := hshow.fine (insertFine_whole hm _) hkept (Numeric.inCents_scale _) hfits
  exact ⟨db', row, _, hins, rfl, hshow, hread, h.withFines hkeeps hother⟩

end Inserts

/-! ## The writes of a database -/

/-- A draft of the shelf with a fine. -/
def finedWork : Work :=
  { draft := { tables := finedShelf, versions := .empty }, lastId := 4 }

end Circulation.Sql
