import Circulation.Request
import Circulation.Sql.Statement

/-!
# The statement of each request

On a database every request is one statement. A conditional write is an update under the condition, an insertion gives
back the new row, and a list is a selection with the conditions of its filter.
-/

namespace Circulation.Sql

/-- The conditions of a selection by id. -/
def byId (id : Int) : Conditions :=
  (Conditions.mk [] []).equal "id" (some (.int id))

/-- No conditions yet, written as one that always holds. -/
def anyRow : Conditions :=
  ⟨[.always], []⟩

/-- The conditions of a filter of copies. -/
def ofCopyFilter (f : CopyFilter) : Conditions :=
  ((Conditions.mk [.isNull "deleted_at"] []).equal "book_id" (f.bookId.map .int)).equal "status" (f.status.map .coded)

/-- The conditions of a filter of loans. -/
def ofLoanFilter (f : LoanFilter) : Conditions :=
  let c := anyRow.equal "user_id" (f.userId.map .int)
  let c := c.equal "book_copy_id" (f.copyId.map .int)
  let c := c.equal "book_id" (f.bookId.map .int)
  let c := c.equal "status" (f.status.map .coded)
  let c := c.equal "status" (f.overdueAt.map fun _ => .coded LoanStatus.borrowed)
  c.andOn (.less "due_date") (f.overdueAt.map .instant)

/-- The conditions of a filter of reservations. -/
def ofReservationFilter (f : ReservationFilter) : Conditions :=
  let c := anyRow.equal "user_id" (f.userId.map .int)
  let c := c.equal "book_copy_id" (f.copyId.map .int)
  let c := c.equal "book_id" (f.bookId.map .int)
  let c := c.equal "status" (f.status.map .coded)
  let c := c.equal "status" (f.expiredAt.map fun _ => .coded ReservationStatus.pending)
  c.andOn (.less "reservation_date") (f.expiredAt.map .instant)

/-- The conditions of a filter of fines. -/
def ofFineFilter (f : FineFilter) : Conditions :=
  let c := anyRow.equal "loan_id" (f.loanId.map .int)
  let c := c.andOn (.references "loan_id" "loans" "user_id") (f.userId.map .int)
  c.equal "settled" (f.settled.map .bool)

/-- Conditions that columns have values. -/
def allEqual (fields : List (String × Value)) : Conditions :=
  fields.foldl (fun c (column, v) => c.equal column (some v)) ⟨[], []⟩

/-- The row with an id that is not withdrawn, held against others. -/
def lockingCopy (id : Int) : Bound :=
  let c := byId id
  let conditions := c.conditions ++ [.isNull "deleted_at"]
  ⟨.select { table := "book_copies", conditions := conditions, locking := true }, c.parameters⟩

/-- The columns of a small table by id. -/
def selectColumns (names : List String) (table : String) (id : Int) : Bound :=
  let c := byId id
  ⟨.select { projection := .columns names, table := table, conditions := c.conditions }, c.parameters⟩

/-- The history of a loan. -/
def listEntries (loanId : Int) : Bound :=
  let c := allEqual [("loan_id", .int loanId)]
  ⟨.select { table := "loan_histories", conditions := c.conditions, order := some .standard }, c.parameters⟩

/-- Adds a copy. -/
def insertCopy (bookId : Int) (now : Instant) : Bound :=
  ⟨.insert {
      table := "book_copies"
      fields := [ ("book_id", .placeholder 1), ("status", .placeholder 2), ("created_at", .placeholder 3),
        ("updated_at", .placeholder 3) ] },
    [.int bookId, .coded CopyStatus.available, .instant now]⟩

/-- Moves a copy. -/
def moveCopy (id : Int) (expected status : CopyStatus) (now : Instant) : Bound :=
  ⟨.update {
      table := "book_copies"
      fields := [("status", .placeholder 1), ("updated_at", .placeholder 2)]
      conditions := [.equal "id" (.placeholder 3), .equal "status" (.placeholder 4), .isNull "deleted_at"] },
    [.coded status, .instant now, .int id, .coded expected]⟩

/-- Withdraws a copy. -/
def withdrawCopy (id : Int) (now : Instant) : Bound :=
  ⟨.update {
      table := "book_copies"
      fields := [("deleted_at", .placeholder 1), ("updated_at", .placeholder 1)]
      conditions := [.equal "id" (.placeholder 2), .equal "status" (.placeholder 3), .isNull "deleted_at"] },
    [.instant now, .int id, .coded CopyStatus.available]⟩

/-- Opens a loan. -/
def insertLoan (l : NewLoan) : Bound :=
  ⟨.insert {
      table := "loans"
      loose := true
      fields := [ ("book_copy_id", .placeholder 1), ("book_id", .placeholder 2), ("user_id", .placeholder 3),
        ("status", .placeholder 4), ("borrow_date", .placeholder 5), ("due_date", .placeholder 6),
        ("renew_count", .number 0), ("created_at", .placeholder 5), ("updated_at", .placeholder 5) ] },
    [ .int l.copyId, .int l.bookId, .int l.userId, .coded LoanStatus.borrowed, .instant l.borrowDate,
      .instant l.dueDate ]⟩

/-- Writes a loan that is still borrowed with the expected renewal count. -/
def updateLoan (l : Loan) (expected : Int) : Bound :=
  ⟨.update {
      table := "loans"
      fields := [ ("status", .placeholder 1), ("due_date", .placeholder 2), ("return_date", .placeholder 3),
        ("renew_count", .placeholder 4), ("updated_at", .placeholder 5) ]
      conditions := [ .equal "id" (.placeholder 6), .equal "status" (.placeholder 7),
        .equal "renew_count" (.placeholder 8) ] },
    [ .coded l.status, .instant l.dueDate, .ofOption .instant l.returnDate, .int l.renewCount, .instant l.updatedAt,
      .int l.id, .coded LoanStatus.borrowed, .int expected ]⟩

/-- Adds a history entry. -/
def insertEntry (e : NewLoanEntry) : Bound :=
  ⟨.insert {
      table := "loan_histories"
      fields := [ ("loan_id", .placeholder 1), ("action", .placeholder 2), ("due_date", .placeholder 3),
        ("previous_due_date", .placeholder 4), ("created_at", .placeholder 5) ] },
    [ .int e.loanId, .coded e.event, .instant e.dueDate, .ofOption .instant e.previousDueDate, .instant e.createdAt ]⟩

/-- Places a reservation. -/
def insertReservation (r : NewReservation) : Bound :=
  ⟨.insert {
      table := "reservations"
      loose := true
      fields := [ ("book_copy_id", .placeholder 1), ("book_id", .placeholder 2), ("user_id", .placeholder 3),
        ("status", .placeholder 4), ("reservation_date", .placeholder 5), ("created_at", .placeholder 6),
        ("updated_at", .placeholder 6) ] },
    [ .int r.copyId, .int r.bookId, .int r.userId, .coded ReservationStatus.pending, .instant r.reservationDate,
      .instant r.createdAt ]⟩

/-- Moves a reservation. -/
def moveReservation (id : Int) (expected status : ReservationStatus) (now : Instant) : Bound :=
  ⟨.update {
      table := "reservations"
      fields := [("status", .placeholder 1), ("updated_at", .placeholder 2)]
      conditions := [.equal "id" (.placeholder 3), .equal "status" (.placeholder 4)] },
    [.coded status, .instant now, .int id, .coded expected]⟩

/-- Charges a fine. -/
def insertFine (f : NewFine) : Bound :=
  ⟨.insert {
      table := "fines"
      fields := [ ("loan_id", .placeholder 1), ("amount", .placeholder 2), ("settled", .truth false),
        ("created_at", .placeholder 3), ("updated_at", .placeholder 3) ] },
    [.int f.loanId, .decimal f.amount, .instant f.createdAt]⟩

/-- Settles a fine. -/
def settleFine (id : Int) (now : Instant) : Bound :=
  ⟨.update {
      table := "fines"
      fields := [("settled", .truth true), ("updated_at", .placeholder 1)]
      conditions := [.equal "id" (.placeholder 2), .equal "settled" (.truth false)] },
    [.instant now, .int id]⟩

/-- The statement of a request. -/
def ofRequest : Request → Bound
  | .getBook id => selectColumns ["id", "title"] "books" id
  | .getUser id => selectColumns ["id", "username"] "users" id
  | .getCopy id => (byId id).select "book_copies"
  | .lockCopy id => lockingCopy id
  | .insertCopy bookId now => insertCopy bookId now
  | .moveCopy id expected status now => moveCopy id expected status now
  | .withdrawCopy id now => withdrawCopy id now
  | .listCopies f w => (ofCopyFilter f).list "book_copies" w
  | .countCopies f => (ofCopyFilter f).count "book_copies"
  | .getLoan id => (byId id).select "loans"
  | .activeLoan copyId =>
    (allEqual [("book_copy_id", .int copyId), ("status", .coded LoanStatus.borrowed)]).select "loans"
  | .insertLoan loan => insertLoan loan
  | .updateLoan loan expected => updateLoan loan expected
  | .countBorrowed userId =>
    (allEqual [("user_id", .int userId), ("status", .coded LoanStatus.borrowed)]).count "loans"
  | .countBorrowedTitle userId bookId =>
    (allEqual [ ("user_id", .int userId), ("book_id", .int bookId),
      ("status", .coded LoanStatus.borrowed) ]).count "loans"
  | .insertEntry entry => insertEntry entry
  | .listEntries loanId => listEntries loanId
  | .listLoans f w => (ofLoanFilter f).list "loans" w
  | .countLoans f => (ofLoanFilter f).count "loans"
  | .getReservation id => (byId id).select "reservations"
  | .pendingReservation copyId =>
    (allEqual [("book_copy_id", .int copyId), ("status", .coded ReservationStatus.pending)]).select "reservations"
  | .insertReservation reservation => insertReservation reservation
  | .moveReservation id expected status now => moveReservation id expected status now
  | .countPending userId =>
    (allEqual [("user_id", .int userId), ("status", .coded ReservationStatus.pending)]).count "reservations"
  | .countPendingTitle userId bookId =>
    (allEqual [ ("user_id", .int userId), ("book_id", .int bookId),
      ("status", .coded ReservationStatus.pending) ]).count "reservations"
  | .listReservations f w => (ofReservationFilter f).list "reservations" w
  | .countReservations f => (ofReservationFilter f).count "reservations"
  | .getFine id => (byId id).select "fines"
  | .insertFine fine => insertFine fine
  | .settleFine id now => settleFine id now
  | .listFines f w => (ofFineFilter f).list "fines" w
  | .countFines f => (ofFineFilter f).count "fines"
  | .outstandingTotal userId => ⟨.outstanding 1, [.int userId]⟩

end Circulation.Sql
