import Circulation.Proofs.Sql.Amounts
import Circulation.Proofs.Sql.Content
import Circulation.Sql.Reply

/-!
# What is read of rows

A row that shows a record is read as the record, if its instants are whole microseconds (`Row.Shows.copy` and its like).
A fine is read with an amount of the same worth, at the scale of the column (`Row.Shows.fine`).
-/

namespace Circulation.Sql

variable {α : Type} [Recorded α]

/-- Whether all instants of a record are whole numbers of microseconds. -/
def Whole (a : α) : Prop :=
  ∀ column t, (column, .instant t) ∈ Recorded.columns a → InMicros t

/-- A record whose instants are all sent with a bound statement has whole microseconds if the statement has. -/
theorem Bound.InMicros.whole {b : Bound} (hm : b.InMicros) {a : α}
    (h : ∀ column t, (column, .instant t) ∈ Recorded.columns a → .instant t ∈ b.parameters) : Whole a := by
  intro column t ht
  exact hm t (h column t ht)

/-- Whether two records have the same values, amounts by what they are worth. -/
def Alike (a b : α) : Prop :=
  (Row.of a).Shows b

theorem Alike.refl (a : α) : Alike a a :=
  Row.of_shows a

namespace Row.Shows

variable {r : Row} {a : α} {column : String}

/-! ## Columns -/

/-- An integer is read as the record has it. -/
theorem read_int (h : r.Shows a) {n : Int} (hm : (column, .int n) ∈ Recorded.columns a) :
    r.read column Read.int = .ok n := by
  unfold Row.read
  rw [h.get hm]
  rfl

/-- A truth value is read as the record has it. -/
theorem read_bool (h : r.Shows a) {b : Bool} (hm : (column, .bool b) ∈ Recorded.columns a) :
    r.read column Read.bool = .ok b := by
  unfold Row.read
  rw [h.get hm]
  rfl

/-- A status is read as the record has it. -/
theorem read_coded {β : Type} [Coded β] (h : r.Shows a) {b : β} (hm : (column, .coded b) ∈ Recorded.columns a) :
    r.read column Read.coded = .ok b := by
  have hread : Read.coded (.coded b) = .ok b := by
    have hnumber := Coded.ofNumber?_number b
    simp [Read.coded, Read.int, Value.coded, bind, Except.bind, hnumber]
  unfold Row.read
  rw [h.get hm (by simp [Value.coded]), hread]
  rfl

/-- A whole instant is read as the record has it. -/
theorem read_instant (h : r.Shows a) (hw : Whole a) {t : Instant} (hm : (column, .instant t) ∈ Recorded.columns a) :
    r.read column Read.instant = .ok t := by
  have hstored : (Value.instant t).stored = .instant t := congrArg Value.instant (hw column t hm)
  unfold Row.read Read.instant
  rw [h.get hm, hstored]
  rfl

/-- An instant that may be missing is read as the record has it. -/
theorem read_optional (h : r.Shows a) (hw : Whole a) {o : Option Instant}
    (hm : (column, .ofOption .instant o) ∈ Recorded.columns a) :
    r.read column (Read.orNull Read.instant) = .ok o := by
  cases o with
  | none =>
    unfold Row.read
    rw [h.get hm (by simp [Value.ofOption])]
    rfl
  | some t =>
    have hstored : (Value.instant t).stored = .instant t := congrArg Value.instant (hw column t hm)
    unfold Row.read
    rw [h.get hm (by simp [Value.ofOption])]
    simp [Value.ofOption, Read.orNull, Read.instant, hstored, Except.map, Except.mapError]

/-! ## Records -/

/-- A copy is read from a row that shows it. -/
theorem copy {c : Copy} (h : r.Shows c) (hw : Whole c) : r.copy = .ok c := by
  have hid : r.read "id" Read.int = .ok c.id := h.read_int (by simp [Recorded.columns])
  have hbook : r.read "book_id" Read.int = .ok c.bookId := h.read_int (by simp [Recorded.columns])
  have hstatus : r.read "status" Read.coded = .ok c.status := h.read_coded (by simp [Recorded.columns])
  have hcreated : r.read "created_at" Read.instant = .ok c.createdAt := h.read_instant hw (by simp [Recorded.columns])
  have hupdated : r.read "updated_at" Read.instant = .ok c.updatedAt := h.read_instant hw (by simp [Recorded.columns])
  have hdeleted : r.read "deleted_at" (Read.orNull Read.instant) = .ok c.deletedAt :=
    h.read_optional hw (by simp [Recorded.columns])
  unfold Row.copy
  rw [hid, hbook, hstatus, hcreated, hupdated, hdeleted]
  rfl

/-- A loan is read from a row that shows it. -/
theorem loan {l : Loan} (h : r.Shows l) (hw : Whole l) : r.loan = .ok l := by
  have hid : r.read "id" Read.int = .ok l.id := h.read_int (by simp [Recorded.columns])
  have hcopy : r.read "book_copy_id" Read.int = .ok l.copyId := h.read_int (by simp [Recorded.columns])
  have hbook : r.read "book_id" Read.int = .ok l.bookId := h.read_int (by simp [Recorded.columns])
  have huser : r.read "user_id" Read.int = .ok l.userId := h.read_int (by simp [Recorded.columns])
  have hstatus : r.read "status" Read.coded = .ok l.status := h.read_coded (by simp [Recorded.columns])
  have hborrow : r.read "borrow_date" Read.instant = .ok l.borrowDate := h.read_instant hw (by simp [Recorded.columns])
  have hdue : r.read "due_date" Read.instant = .ok l.dueDate := h.read_instant hw (by simp [Recorded.columns])
  have hreturn : r.read "return_date" (Read.orNull Read.instant) = .ok l.returnDate :=
    h.read_optional hw (by simp [Recorded.columns])
  have hcount : r.read "renew_count" Read.int = .ok l.renewCount := h.read_int (by simp [Recorded.columns])
  have hcreated : r.read "created_at" Read.instant = .ok l.createdAt := h.read_instant hw (by simp [Recorded.columns])
  have hupdated : r.read "updated_at" Read.instant = .ok l.updatedAt := h.read_instant hw (by simp [Recorded.columns])
  unfold Row.loan
  rw [hid, hcopy, hbook, huser, hstatus, hborrow, hdue, hreturn, hcount, hcreated, hupdated]
  rfl

/-- An entry is read from a row that shows it. -/
theorem entry {e : LoanEntry} (h : r.Shows e) (hw : Whole e) : r.entry = .ok e := by
  have hid : r.read "id" Read.int = .ok e.id := h.read_int (by simp [Recorded.columns])
  have hloan : r.read "loan_id" Read.int = .ok e.loanId := h.read_int (by simp [Recorded.columns])
  have hevent : r.read "action" Read.coded = .ok e.event := h.read_coded (by simp [Recorded.columns])
  have hdue : r.read "due_date" Read.instant = .ok e.dueDate := h.read_instant hw (by simp [Recorded.columns])
  have hprevious : r.read "previous_due_date" (Read.orNull Read.instant) = .ok e.previousDueDate :=
    h.read_optional hw (by simp [Recorded.columns])
  have hcreated : r.read "created_at" Read.instant = .ok e.createdAt := h.read_instant hw (by simp [Recorded.columns])
  unfold Row.entry
  rw [hid, hloan, hevent, hdue, hprevious, hcreated]
  rfl

/-- A reservation is read from a row that shows it. -/
theorem reservation {x : Reservation} (h : r.Shows x) (hw : Whole x) : r.reservation = .ok x := by
  have hid : r.read "id" Read.int = .ok x.id := h.read_int (by simp [Recorded.columns])
  have hcopy : r.read "book_copy_id" Read.int = .ok x.copyId := h.read_int (by simp [Recorded.columns])
  have hbook : r.read "book_id" Read.int = .ok x.bookId := h.read_int (by simp [Recorded.columns])
  have huser : r.read "user_id" Read.int = .ok x.userId := h.read_int (by simp [Recorded.columns])
  have hstatus : r.read "status" Read.coded = .ok x.status := h.read_coded (by simp [Recorded.columns])
  have hdate : r.read "reservation_date" Read.instant = .ok x.reservationDate :=
    h.read_instant hw (by simp [Recorded.columns])
  have hcreated : r.read "created_at" Read.instant = .ok x.createdAt := h.read_instant hw (by simp [Recorded.columns])
  have hupdated : r.read "updated_at" Read.instant = .ok x.updatedAt := h.read_instant hw (by simp [Recorded.columns])
  unfold Row.reservation
  rw [hid, hcopy, hbook, huser, hstatus, hdate, hcreated, hupdated]
  rfl

/-- A fine in cents is read with an amount that is worth the same. -/
theorem fine {f : Fine} (h : r.Shows f) (hw : Whole f) {n : Numeric} (hn : r.get "amount" = .numeric n)
    (hscale : n.scale = 2) (hfits : n.magnitude < 10 ^ 10) : ∃ f', r.fine = .ok f' ∧ Alike f' f := by
  obtain ⟨d, hd, hworth⟩ := Numeric.exists_toDecimal hscale hfits
  have hsame : n.Same (.ofDecimal f.amount) := by
    have hshown := h "amount" (.decimal f.amount) (by simp [Recorded.columns])
    rwa [hn] at hshown
  have hid : r.read "id" Read.int = .ok f.id := h.read_int (by simp [Recorded.columns])
  have hloan : r.read "loan_id" Read.int = .ok f.loanId := h.read_int (by simp [Recorded.columns])
  have hamount : r.read "amount" Read.decimal = .ok d := by
    unfold Row.read Read.decimal
    rw [hn]
    simp only [hd]
    rfl
  have hsettled : r.read "settled" Read.bool = .ok f.settled := h.read_bool (by simp [Recorded.columns])
  have hcreated : r.read "created_at" Read.instant = .ok f.createdAt := h.read_instant hw (by simp [Recorded.columns])
  have hupdated : r.read "updated_at" Read.instant = .ok f.updatedAt := h.read_instant hw (by simp [Recorded.columns])
  refine ⟨{ f with amount := d }, ?_, Row.shows_of_columns ?_⟩
  · unfold Row.fine
    rw [hid, hloan, hamount, hsettled, hcreated, hupdated]
    rfl
  · exact .cons ⟨rfl, rfl⟩ <| .cons ⟨rfl, rfl⟩ <| .cons ⟨rfl, hworth.trans hsame⟩ <| .cons ⟨rfl, .refl _⟩ <|
      .cons ⟨rfl, rfl⟩ <| .cons ⟨rfl, rfl⟩ .nil

end Row.Shows

end Circulation.Sql
