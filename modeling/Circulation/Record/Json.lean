import Circulation.Json
import Circulation.Record

/-!
# Records as JSON

Every row is written with all its fields and read back from them; a record that wraps a row writes its own fields
beside those of the row. What is unset is written as null, except for the withdrawal of a copy, which is left out.
-/

namespace Circulation

namespace Book

/-- A title as JSON. -/
def toJson (b : Book) : Json :=
  .obj [("id", .int b.id), ("title", .str b.title)]

/-- Reads a title. -/
def ofJson? (j : Json) : Option Book := do
  let f ← j.fieldsOf? ["id", "title"] 0
  return { id := ← f.required? "id" Json.toInt64?, title := ← f.required? "title" Json.toStr? }

end Book

namespace User

/-- A user as JSON. -/
def toJson (u : User) : Json :=
  .obj [("id", .int u.id), ("username", .str u.username)]

/-- Reads a user. -/
def ofJson? (j : Json) : Option User := do
  let f ← j.fieldsOf? ["id", "username"] 0
  return { id := ← f.required? "id" Json.toInt64?, username := ← f.required? "username" Json.toStr? }

end User

namespace Copy

/-- The fields of a copy. -/
def toFields (c : Copy) : List (String × Json) :=
  [ ("id", .int c.id), ("book_id", .int c.bookId), ("status", .ofCoded c.status),
    ("created_at", .ofInstant c.createdAt), ("updated_at", .ofInstant c.updatedAt) ] ++
  match c.deletedAt with
  | some t => [("deleted_at", .ofInstant t)]
  | none => []

/-- A copy as JSON. -/
def toJson (c : Copy) : Json :=
  .obj c.toFields

/-- Reads a copy. -/
def ofJson? (j : Json) : Option Copy := do
  let f ← j.fieldsOf? ["id", "book_id", "status", "created_at", "updated_at", "deleted_at"] 0
  return {
    id := ← f.required? "id" Json.toInt64?
    bookId := ← f.required? "book_id" Json.toInt64?
    status := ← f.required? "status" Json.toCoded?
    createdAt := ← f.required? "created_at" Json.toInstant?
    updatedAt := ← f.required? "updated_at" Json.toInstant?
    deletedAt := ← f.optional? "deleted_at" Json.toInstant? }

end Copy

namespace Loan

/-- The fields of a loan. -/
def toFields (l : Loan) : List (String × Json) :=
  [ ("id", .int l.id), ("book_copy_id", .int l.copyId), ("book_id", .int l.bookId), ("user_id", .int l.userId),
    ("status", .ofCoded l.status), ("borrow_date", .ofInstant l.borrowDate), ("due_date", .ofInstant l.dueDate),
    ("return_date", .ofOption .ofInstant l.returnDate), ("renew_count", .int l.renewCount),
    ("created_at", .ofInstant l.createdAt), ("updated_at", .ofInstant l.updatedAt) ]

/-- A loan as JSON. -/
def toJson (l : Loan) : Json :=
  .obj l.toFields

/-- Reads a loan. -/
def ofJson? (j : Json) : Option Loan := do
  let f ← j.fieldsOf?
    [ "id", "book_copy_id", "book_id", "user_id", "status", "borrow_date", "due_date", "return_date", "renew_count",
      "created_at", "updated_at" ] 0
  return {
    id := ← f.required? "id" Json.toInt64?
    copyId := ← f.required? "book_copy_id" Json.toInt64?
    bookId := ← f.required? "book_id" Json.toInt64?
    userId := ← f.required? "user_id" Json.toInt64?
    status := ← f.required? "status" Json.toCoded?
    borrowDate := ← f.required? "borrow_date" Json.toInstant?
    dueDate := ← f.required? "due_date" Json.toInstant?
    returnDate := ← f.optional? "return_date" Json.toInstant?
    renewCount := ← f.required? "renew_count" Json.toInt32?
    createdAt := ← f.required? "created_at" Json.toInstant?
    updatedAt := ← f.required? "updated_at" Json.toInstant? }

end Loan

namespace LoanEntry

/-- A history entry as JSON. -/
def toJson (e : LoanEntry) : Json :=
  .obj [ ("id", .int e.id), ("loan_id", .int e.loanId), ("action", .ofCoded e.event),
    ("due_date", .ofInstant e.dueDate), ("previous_due_date", .ofOption .ofInstant e.previousDueDate),
    ("created_at", .ofInstant e.createdAt) ]

/-- Reads a history entry. -/
def ofJson? (j : Json) : Option LoanEntry := do
  let f ← j.fieldsOf? ["id", "loan_id", "action", "due_date", "previous_due_date", "created_at"] 0
  return {
    id := ← f.required? "id" Json.toInt64?
    loanId := ← f.required? "loan_id" Json.toInt64?
    event := ← f.required? "action" Json.toCoded?
    dueDate := ← f.required? "due_date" Json.toInstant?
    previousDueDate := ← f.optional? "previous_due_date" Json.toInstant?
    createdAt := ← f.required? "created_at" Json.toInstant? }

end LoanEntry

namespace Reservation

/-- The fields of a reservation. -/
def toFields (r : Reservation) : List (String × Json) :=
  [ ("id", .int r.id), ("book_copy_id", .int r.copyId), ("book_id", .int r.bookId), ("user_id", .int r.userId),
    ("status", .ofCoded r.status), ("reservation_date", .ofInstant r.reservationDate),
    ("created_at", .ofInstant r.createdAt), ("updated_at", .ofInstant r.updatedAt) ]

/-- A reservation as JSON. -/
def toJson (r : Reservation) : Json :=
  .obj r.toFields

/-- Reads a reservation. -/
def ofJson? (j : Json) : Option Reservation := do
  let f ← j.fieldsOf?
    ["id", "book_copy_id", "book_id", "user_id", "status", "reservation_date", "created_at", "updated_at"] 0
  return {
    id := ← f.required? "id" Json.toInt64?
    copyId := ← f.required? "book_copy_id" Json.toInt64?
    bookId := ← f.required? "book_id" Json.toInt64?
    userId := ← f.required? "user_id" Json.toInt64?
    status := ← f.required? "status" Json.toCoded?
    reservationDate := ← f.required? "reservation_date" Json.toInstant?
    createdAt := ← f.required? "created_at" Json.toInstant?
    updatedAt := ← f.required? "updated_at" Json.toInstant? }

end Reservation

namespace Fine

/-- The fields of a fine. -/
def toFields (x : Fine) : List (String × Json) :=
  [ ("id", .int x.id), ("loan_id", .int x.loanId), ("amount", .ofDecimal x.amount), ("settled", .bool x.settled),
    ("created_at", .ofInstant x.createdAt), ("updated_at", .ofInstant x.updatedAt) ]

/-- A fine as JSON. -/
def toJson (x : Fine) : Json :=
  .obj x.toFields

/-- Whether the amount of a fine can be written. -/
def isWritable (x : Fine) : Bool :=
  x.amount.isWritable

/-- Reads a fine. -/
def ofJson? (j : Json) : Option Fine := do
  let f ← j.fieldsOf? ["id", "loan_id", "amount", "settled", "created_at", "updated_at"] 0
  return {
    id := ← f.required? "id" Json.toInt64?
    loanId := ← f.required? "loan_id" Json.toInt64?
    amount := ← f.required? "amount" Json.toDecimal?
    settled := ← f.required? "settled" Json.toBool?
    createdAt := ← f.required? "created_at" Json.toInstant?
    updatedAt := ← f.required? "updated_at" Json.toInstant? }

end Fine

/-- A loan with its history and its fines, as JSON. -/
def LoanRecord.toJson (r : LoanRecord) : Json :=
  .obj (r.loan.toFields ++
    [("histories", .ofList LoanEntry.toJson r.entries), ("fines", .ofList Fine.toJson r.fines)])

/-- Whether the fines of a loan can be written. -/
def LoanRecord.isWritable (r : LoanRecord) : Bool :=
  r.fines.all Fine.isWritable

/-- A copy with its title, its loans and its reservations, as JSON. -/
def CopyDetails.toJson (d : CopyDetails) : Json :=
  .obj (d.copy.toFields ++
    [ ("book", d.book.toJson), ("loans", .ofList LoanRecord.toJson d.loans),
      ("reservations", .ofList Reservation.toJson d.reservations) ])

/-- Whether the fines of all loans of a copy can be written. -/
def CopyDetails.isWritable (d : CopyDetails) : Bool :=
  d.loans.all LoanRecord.isWritable

/-- A loan with all it refers to, as JSON. -/
def LoanDetails.toJson (d : LoanDetails) : Json :=
  .obj (d.loan.toFields ++
    [ ("copy", d.copy.toJson), ("book", d.book.toJson), ("borrower", .ofOption User.toJson d.borrower),
      ("histories", .ofList LoanEntry.toJson d.entries), ("fines", .ofList Fine.toJson d.fines),
      ("is_overdue", .bool d.isOverdue) ])

/-- Whether the fines of a loan can be written. -/
def LoanDetails.isWritable (d : LoanDetails) : Bool :=
  d.fines.all Fine.isWritable

/-- A reservation with all it refers to, as JSON. -/
def ReservationDetails.toJson (d : ReservationDetails) : Json :=
  .obj (d.reservation.toFields ++
    [("copy", d.copy.toJson), ("book", d.book.toJson), ("user", .ofOption User.toJson d.user)])

/-- A fine with its loan, as JSON. -/
def FineDetails.toJson (d : FineDetails) : Json :=
  .obj (d.fine.toFields ++ [("loan", d.loan.toJson)])

/-- Whether the amount of the fine can be written. -/
def FineDetails.isWritable (d : FineDetails) : Bool :=
  d.fine.isWritable

end Circulation
