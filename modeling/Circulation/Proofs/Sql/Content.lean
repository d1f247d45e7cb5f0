import Circulation.Policy
import Circulation.Proofs.Listing
import Circulation.Proofs.Sql.Meaning
import Circulation.Proofs.Table
import Mathlib.Data.List.Forall2
import Mathlib.Logic.Function.Basic

/-!
# What a database keeps

A row shows a record when it has the record's values in its columns. A database keeps a table of records when its rows,
taken in some order, show those of the table one by one and each record is under its own id. Main statement: for all
tables that are under their own ids there is a database that keeps them (`Database.ofTables_keepsAll`).
-/

namespace Circulation.Sql

/-! ## Rows of records -/

/-- Records that a table of the database keeps, with their values by column. -/
class Recorded (α : Type) extends Listed α where
  table : String
  columns : α → List (String × Value)
  id_mem : ∀ a, ("id", .int (id a)) ∈ columns a
  createdAt_mem : ∀ a, ("created_at", .instant (createdAt a)) ∈ columns a
  names_nodup : ∀ a, ((columns a).map (·.1)).Nodup

instance : Recorded Copy where
  table := "book_copies"
  columns c := [ ("id", .int c.id), ("book_id", .int c.bookId), ("status", .coded c.status),
    ("created_at", .instant c.createdAt), ("updated_at", .instant c.updatedAt),
    ("deleted_at", .ofOption .instant c.deletedAt) ]
  id_mem _ := by simp [Listed.id]
  createdAt_mem _ := by simp [Listed.createdAt]
  names_nodup _ := by simp

instance : Recorded Loan where
  table := "loans"
  columns l := [ ("id", .int l.id), ("book_copy_id", .int l.copyId), ("book_id", .int l.bookId),
    ("user_id", .int l.userId), ("status", .coded l.status), ("borrow_date", .instant l.borrowDate),
    ("due_date", .instant l.dueDate), ("return_date", .ofOption .instant l.returnDate),
    ("renew_count", .int l.renewCount), ("created_at", .instant l.createdAt), ("updated_at", .instant l.updatedAt) ]
  id_mem _ := by simp [Listed.id]
  createdAt_mem _ := by simp [Listed.createdAt]
  names_nodup _ := by simp

instance : Recorded LoanEntry where
  table := "loan_histories"
  columns e := [ ("id", .int e.id), ("loan_id", .int e.loanId), ("action", .coded e.event),
    ("due_date", .instant e.dueDate), ("previous_due_date", .ofOption .instant e.previousDueDate),
    ("created_at", .instant e.createdAt) ]
  id_mem _ := by simp [Listed.id]
  createdAt_mem _ := by simp [Listed.createdAt]
  names_nodup _ := by simp

instance : Recorded Reservation where
  table := "reservations"
  columns r := [ ("id", .int r.id), ("book_copy_id", .int r.copyId), ("book_id", .int r.bookId),
    ("user_id", .int r.userId), ("status", .coded r.status), ("reservation_date", .instant r.reservationDate),
    ("created_at", .instant r.createdAt), ("updated_at", .instant r.updatedAt) ]
  id_mem _ := by simp [Listed.id]
  createdAt_mem _ := by simp [Listed.createdAt]
  names_nodup _ := by simp

instance : Recorded Fine where
  table := "fines"
  columns f := [ ("id", .int f.id), ("loan_id", .int f.loanId), ("amount", .decimal f.amount),
    ("settled", .bool f.settled), ("created_at", .instant f.createdAt), ("updated_at", .instant f.updatedAt) ]
  id_mem _ := by simp [Listed.id]
  createdAt_mem _ := by simp [Listed.createdAt]
  names_nodup _ := by simp

variable {α : Type} [Recorded α]

namespace Row

/-- Whether a row has a record's values in its columns. -/
def Shows (r : Row) (a : α) : Prop :=
  ∀ column v, (column, v) ∈ Recorded.columns a → (r.get column).Same v

/-- The row that has a record's values and nothing else. -/
def of (a : α) : Row :=
  ⟨Recorded.columns a⟩

/-- What stands under a column that is named once is looked up. -/
theorem lookup_of_mem {column : String} {v : Value} {cs : List (String × Value)} (hn : (cs.map (·.1)).Nodup)
    (hm : (column, v) ∈ cs) : cs.lookup column = some v := by
  induction cs with
  | nil => cases hm
  | cons c cs ih =>
    obtain ⟨name, w⟩ := c
    obtain ⟨hname, hcs⟩ := List.nodup_cons.1 hn
    rcases List.mem_cons.1 hm with he | hin
    · cases he
      simp
    · have hne : column ≠ name := by
        rintro rfl
        exact hname (List.mem_map.2 ⟨(column, v), hin, rfl⟩)
      simp [List.lookup_cons, beq_false_of_ne hne, ih hcs hin]

/-- The row made of a record shows it. -/
theorem of_shows (a : α) : (of a).Shows a := by
  intro column v hm
  rw [get, of, lookup_of_mem (Recorded.names_nodup a) hm]
  exact .refl v

end Row

/-- A value that is no number is the same as no other. -/
theorem Value.Same.eq {v w : Value} (h : v.Same w) (hw : ∀ n, w ≠ .numeric n) : v = w := by
  cases w with
  | numeric n => exact absurd rfl (hw n)
  | _ => cases v <;> exact h

/-- A row shows a record when its columns are those of the record, one by one. -/
theorem Row.shows_of_columns {r : Row} {a : α}
    (h : List.Forall₂ (fun p q => p.1 = q.1 ∧ p.2.Same q.2) r.columns (Recorded.columns a)) : r.Shows a := by
  intro column v hm
  have hnames : r.columns.map (·.1) = (Recorded.columns a).map (·.1) := by
    rw [← List.forall₂_eq_eq_eq, List.forall₂_map_left_iff, List.forall₂_map_right_iff]
    exact h.imp fun _ _ hp => hp.1
  obtain ⟨i, hi, hget⟩ := List.mem_iff_getElem.1 hm
  have hlen := h.length_eq
  have hi' : i < r.columns.length := by omega
  obtain ⟨hname, hsame⟩ : (r.columns[i]).1 = ((Recorded.columns a)[i]).1 ∧ (r.columns[i]).2.Same ((Recorded.columns a)[i]).2 :=
    h.get hi' hi
  rw [hget] at hname hsame
  have hmem : (column, (r.columns[i]).2) ∈ r.columns := by
    have hpair : (column, (r.columns[i]).2) = r.columns[i] := Prod.ext hname.symm rfl
    rw [hpair]
    exact List.getElem_mem hi'
  rw [get, lookup_of_mem (hnames ▸ Recorded.names_nodup a) hmem]
  exact hsame

namespace Row.Shows

variable {r s : Row} {a b : α}

/-- The value that a row has in a column, if the record's is no number. -/
theorem get (h : r.Shows a) {column : String} {v : Value} (hm : (column, v) ∈ Recorded.columns a)
    (hv : ∀ n, v ≠ .numeric n := by simp) : r.get column = v :=
  (h column v hm).eq hv

/-- A row that shows a record has its id. -/
theorem get_id (h : r.Shows a) : r.get "id" = .int (Listed.id a) :=
  h.get (Recorded.id_mem a)

/-- A row that shows a record has the instant that it was created at. -/
theorem get_createdAt (h : r.Shows a) : r.get "created_at" = .instant (Listed.createdAt a) :=
  h.get (Recorded.createdAt_mem a)

/-- Rows are in the order of the records they show. -/
theorem not_before_iff (h : r.Shows a) (h' : s.Shows b) : ¬s.before r = true ↔ Listed.notAfter a b = true := by
  have hsame : Listed.createdAt b = Listed.createdAt a ↔ (Listed.createdAt b).rank = (Listed.createdAt a).rank :=
    ⟨congrArg _, Instant.eq_of_rank_eq⟩
  rw [Listed.notAfter_iff, before, h.get_id, h'.get_id, h.get_createdAt, h'.get_createdAt]
  simp [Value.less, Value.equals, Value.Same, Instant.lt_iff_rank_lt, hsame]
  omega

end Row.Shows

/-! ## Tables -/

/-- Whether every record of a table is under its own id. -/
def OwnIds (t : Table α) : Prop :=
  ∀ id a, t.get? id = some a → Listed.id a = id

theorem OwnIds.empty : OwnIds (.empty : Table α) := by
  intro id a ha
  cases ha

/-- A record that is put under its own id leaves all under theirs. -/
theorem OwnIds.insert {t : Table α} (h : OwnIds t) {id : Int} {a : α} (ha : Listed.id a = id) : OwnIds (t.insert id a) := by
  intro j b hb
  rw [Table.get?_insert] at hb
  split at hb
  · rename_i hj
    cases hb
    exact ha.trans hj.symm
  · exact h j b hb

/-- Whether a database keeps a table: its rows show the records, in whatever order. -/
structure Database.Keeps (db : Database) (t : Table α) : Prop where
  own : OwnIds t
  rows : ∃ rows, (db (Recorded.table α)).Perm rows ∧ List.Forall₂ Row.Shows rows t.rows

/-- Rows that show the records of a table in another order show them in the table's own. -/
theorem Database.keeps_of_perm {db : Database} {t : Table α} {rows : List Row} {as : List α} (hown : OwnIds t)
    (hrows : (db (Recorded.table α)).Perm rows) (hshow : List.Forall₂ Row.Shows rows as) (has : as.Perm t.rows) :
    db.Keeps t := by
  obtain ⟨rows', hshow', hperm⟩ := List.perm_comp_forall₂ has.symm hshow.flip
  exact ⟨hown, rows', hrows.trans hperm.symm, hshow'.flip⟩

namespace Database.Keeps

variable {db : Database} {t : Table α}

/-- Ids tell the records of a table apart. -/
theorem eq_of_id (h : db.Keeps t) {a b : α} (ha : a ∈ t.rows) (hb : b ∈ t.rows) (hid : Listed.id a = Listed.id b) :
    a = b := by
  obtain ⟨i, hi⟩ := Table.mem_rows.1 ha
  obtain ⟨j, hj⟩ := Table.mem_rows.1 hb
  have hij : i = j := by rw [← h.own i a hi, ← h.own j b hj, hid]
  rw [hij, hj] at hi
  exact (Option.some.inj hi).symm

/-- A database goes on keeping a table while it changes only another. -/
theorem other (h : db.Keeps t) {db' : Database} {table : String} (hother : ∀ s, s ≠ table → db' s = db s)
    (hne : Recorded.table α ≠ table := by decide) : db'.Keeps t := by
  refine ⟨h.own, ?_⟩
  rw [hother _ hne]
  exact h.rows

/-- What holds of a row as of the record it shows selects the rows of the records of which it holds. -/
theorem filter (h : db.Keeps t) {cond : Row → Bool} {p : α → Bool} (hp : ∀ (r : Row) a, r.Shows a → cond r = p a) :
    ∃ rows, ((db (Recorded.table α)).filter cond).Perm rows ∧ List.Forall₂ Row.Shows rows (t.rows.filter p) := by
  obtain ⟨rows, hperm, hshow⟩ := h.rows
  refine ⟨rows.filter cond, hperm.filter cond, ?_⟩
  refine List.rel_filter ?_ hshow
  intro r a hr
  simp only [hp r a hr]

/-- A condition on the rows counts as many as a condition on the records that says the same. -/
theorem length_filter (h : db.Keeps t) {cond : Row → Bool} {p : α → Bool}
    (hp : ∀ (r : Row) a, r.Shows a → cond r = p a) :
    ((db (Recorded.table α)).filter cond).length = (t.rows.filter p).length := by
  obtain ⟨rows, hperm, hshow⟩ := h.filter hp
  rw [hperm.length_eq, hshow.length_eq]

/-- A row beside the others that shows a record under an id of its own. -/
theorem insert (h : db.Keeps t) {id : Int} {row : Row} {a : α} (hfree : t.get? id = none) (ha : Listed.id a = id)
    (hrow : row.Shows a) :
    Database.Keeps (Function.update db (Recorded.table α) (row :: db (Recorded.table α))) (t.insert id a) := by
  obtain ⟨rows, hperm, hshow⟩ := h.rows
  refine Database.keeps_of_perm (h.own.insert ha) ?_ (hshow.cons hrow) (Table.rows_insert_perm a hfree).symm
  rw [Function.update_self]
  exact hperm.cons row

/-- There is a row that meets a condition when there is a record that meets one that says the same. -/
theorem any_iff (h : db.Keeps t) {cond : Row → Bool} {p : α → Bool} (hp : ∀ (r : Row) a, r.Shows a → cond r = p a) :
    (db (Recorded.table α)).any cond = true ↔ ∃ id a, t.get? id = some a ∧ p a = true := by
  rw [List.any_eq_true, ← List.length_filter_pos_iff, h.length_filter hp, List.length_filter_pos_iff]
  constructor
  · rintro ⟨a, ha, hpa⟩
    obtain ⟨id, hid⟩ := Table.mem_rows.1 ha
    exact ⟨id, a, hid, hpa⟩
  · rintro ⟨id, a, hid, hpa⟩
    exact ⟨a, Table.mem_rows.2 ⟨id, hid⟩, hpa⟩

/-- An id of no row is the id of no record. -/
theorem get?_eq_none (h : db.Keeps t) {id : Int} (hfree : ∀ r ∈ db (Recorded.table α), r.get "id" ≠ .int id) :
    t.get? id = none := by
  rw [← Table.not_contains_iff, Table.contains_iff]
  rintro ⟨a, ha⟩
  have hany : (db (Recorded.table α)).any (fun r => r.get "id" = .int id) = true := by
    refine (h.any_iff (p := fun a => decide (Listed.id a = id)) ?_).2 ⟨id, a, ha, ?_⟩
    · intro r b hr
      simp [hr.get_id]
    · simpa using h.own id a ha
  obtain ⟨r, hr, hid⟩ := List.any_eq_true.1 hany
  exact hfree r hr (of_decide_eq_true hid)

end Database.Keeps

/-- Whether a database keeps all tables that transactions write. -/
structure Database.KeepsAll (db : Database) (t : Tables) : Prop where
  copies : db.Keeps t.copies
  loans : db.Keeps t.loans
  entries : db.Keeps t.entries
  reservations : db.Keeps t.reservations
  fines : db.Keeps t.fines

namespace Database.KeepsAll

variable {db db' : Database} {t : Tables}

/-- A change of the copies alone leaves the other tables kept. -/
theorem withCopies (h : db.KeepsAll t) {copies : Table Copy} (hk : db'.Keeps copies)
    (hother : ∀ s, s ≠ "book_copies" → db' s = db s) : db'.KeepsAll { t with copies := copies } where
  copies := hk
  loans := h.loans.other hother
  entries := h.entries.other hother
  reservations := h.reservations.other hother
  fines := h.fines.other hother

/-- A change of the loans alone leaves the other tables kept. -/
theorem withLoans (h : db.KeepsAll t) {loans : Table Loan} (hk : db'.Keeps loans)
    (hother : ∀ s, s ≠ "loans" → db' s = db s) : db'.KeepsAll { t with loans := loans } where
  copies := h.copies.other hother
  loans := hk
  entries := h.entries.other hother
  reservations := h.reservations.other hother
  fines := h.fines.other hother

/-- A change of the entries alone leaves the other tables kept. -/
theorem withEntries (h : db.KeepsAll t) {entries : Table LoanEntry} (hk : db'.Keeps entries)
    (hother : ∀ s, s ≠ "loan_histories" → db' s = db s) : db'.KeepsAll { t with entries := entries } where
  copies := h.copies.other hother
  loans := h.loans.other hother
  entries := hk
  reservations := h.reservations.other hother
  fines := h.fines.other hother

/-- A change of the reservations alone leaves the other tables kept. -/
theorem withReservations (h : db.KeepsAll t) {reservations : Table Reservation} (hk : db'.Keeps reservations)
    (hother : ∀ s, s ≠ "reservations" → db' s = db s) : db'.KeepsAll { t with reservations := reservations } where
  copies := h.copies.other hother
  loans := h.loans.other hother
  entries := h.entries.other hother
  reservations := hk
  fines := h.fines.other hother

/-- A change of the fines alone leaves the other tables kept. -/
theorem withFines (h : db.KeepsAll t) {fines : Table Fine} (hk : db'.Keeps fines)
    (hother : ∀ s, s ≠ "fines" → db' s = db s) : db'.KeepsAll { t with fines := fines } where
  copies := h.copies.other hother
  loans := h.loans.other hother
  entries := h.entries.other hother
  reservations := h.reservations.other hother
  fines := hk

end Database.KeepsAll

/-- A database that keeps some tables. -/
def Database.ofTables (t : Tables) : Database
  | "book_copies" => t.copies.rows.map .of
  | "loans" => t.loans.rows.map .of
  | "loan_histories" => t.entries.rows.map .of
  | "reservations" => t.reservations.rows.map .of
  | "fines" => t.fines.rows.map .of
  | _ => []

/-- A table is kept by the rows made of its records. -/
theorem Database.keeps_of {db : Database} {t : Table α} (hown : OwnIds t)
    (hrows : db (Recorded.table α) = t.rows.map .of) : db.Keeps t := by
  refine ⟨hown, t.rows.map .of, .of_eq hrows, ?_⟩
  rw [List.forall₂_map_left_iff]
  exact List.forall₂_same.2 fun a _ => Row.of_shows a

/-- Tables that are under their own ids are kept by a database. -/
theorem Database.ofTables_keepsAll {t : Tables} (hcopies : OwnIds t.copies) (hloans : OwnIds t.loans)
    (hentries : OwnIds t.entries) (hreservations : OwnIds t.reservations) (hfines : OwnIds t.fines) :
    (Database.ofTables t).KeepsAll t where
  copies := keeps_of hcopies rfl
  loans := keeps_of hloans rfl
  entries := keeps_of hentries rfl
  reservations := keeps_of hreservations rfl
  fines := keeps_of hfines rfl

/-- A fine for a day of delay on the loan of user 9. -/
def dayFine : Fine :=
  ⟨4, 2, Policy.usualFineRate, false, .epoch, .epoch⟩

/-- A copy that is on loan to user 9, who has been fined. -/
def finedShelf : Tables where
  copies := Table.empty.insert 1 ⟨1, 7, .onLoan, .epoch, .epoch, none⟩
  loans := Table.empty.insert 2 ⟨2, 1, 7, 9, .borrowed, .epoch, .epoch, none, 0, .epoch, .epoch⟩
  fines := Table.empty.insert 4 dayFine

/-- The shelf with the fined copy is kept by its database. -/
theorem finedShelf_kept : (Database.ofTables finedShelf).KeepsAll finedShelf :=
  Database.ofTables_keepsAll (OwnIds.empty.insert rfl) (OwnIds.empty.insert rfl) .empty .empty (OwnIds.empty.insert rfl)

end Circulation.Sql
