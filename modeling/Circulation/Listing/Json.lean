import Circulation.Json
import Circulation.Listing

/-!
# Listings as JSON

The filters and windows that callers send. A filter field that is missing or null admits every row; a window that says
nothing gives the whole list, newest first.
-/

namespace Circulation

/-- The direction that a word names. -/
def Direction.ofWord? : String → Option Direction
  | "asc" => some .ascending
  | "desc" => some .descending
  | _ => none

namespace Window

/-- Reads a window. -/
def ofJson? (j : Json) : Option Window := do
  let f ← j.fieldsOf? ["offset", "limit", "direction"] 1
  return {
    offset := ← f.default? "offset" 0 Json.toInt64?
    limit := ← f.optional? "limit" Json.toInt64?
    direction := ← f.default? "direction" .descending fun j => j.toWord?.bind Direction.ofWord? }

/-- A window as JSON. -/
def toJson (w : Window) : Json :=
  .obj [("offset", .int w.offset), ("limit", .ofOption .int w.limit), ("direction", .str w.direction.keyword)]

end Window

/-- Reads a filter of copies. -/
def CopyFilter.ofJson? (j : Json) : Option CopyFilter := do
  let f ← j.fieldsOf? ["book_id", "status"] 0
  return { bookId := ← f.optional? "book_id" Json.toInt64?, status := ← f.optional? "status" Json.toCoded? }

/-- Reads a filter of loans. -/
def LoanFilter.ofJson? (j : Json) : Option LoanFilter := do
  let f ← j.fieldsOf? ["user_id", "book_copy_id", "book_id", "status", "overdue_at"] 0
  return {
    userId := ← f.optional? "user_id" Json.toInt64?
    copyId := ← f.optional? "book_copy_id" Json.toInt64?
    bookId := ← f.optional? "book_id" Json.toInt64?
    status := ← f.optional? "status" Json.toCoded?
    overdueAt := ← f.optional? "overdue_at" Json.toInstant? }

/-- Reads a filter of reservations. -/
def ReservationFilter.ofJson? (j : Json) : Option ReservationFilter := do
  let f ← j.fieldsOf? ["user_id", "book_copy_id", "book_id", "status", "expired_at"] 0
  return {
    userId := ← f.optional? "user_id" Json.toInt64?
    copyId := ← f.optional? "book_copy_id" Json.toInt64?
    bookId := ← f.optional? "book_id" Json.toInt64?
    status := ← f.optional? "status" Json.toCoded?
    expiredAt := ← f.optional? "expired_at" Json.toInstant? }

/-- Reads a filter of fines. -/
def FineFilter.ofJson? (j : Json) : Option FineFilter := do
  let f ← j.fieldsOf? ["loan_id", "user_id", "settled"] 0
  return {
    loanId := ← f.optional? "loan_id" Json.toInt64?
    userId := ← f.optional? "user_id" Json.toInt64?
    settled := ← f.optional? "settled" Json.toBool? }

end Circulation
