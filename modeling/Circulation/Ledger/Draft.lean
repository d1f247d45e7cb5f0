import Circulation.Ledger.Table
import Circulation.Procedure

/-!
# Drafts

An open transaction works on a draft: a private copy of every table, taken when the transaction begins. Next to the
tables the draft notes what its publication depends on. For each copy it locked it notes the version seen, for each
loan it changed the renewal count it first expected, and it notes the fines it settled and the ids of all rows it
wrote. New ids come from the ledger's one counter, at once and for good, whatever becomes of the draft.
-/

namespace Circulation

/-- The rows of the desk. -/
structure Tables where
  books : Table Book := .empty
  users : Table User := .empty
  copies : Table Copy := .empty
  loans : Table Loan := .empty
  entries : Table LoanEntry := .empty
  reservations : Table Reservation := .empty
  fines : Table Fine := .empty
  deriving DecidableEq, Inhabited

namespace Tables

/-- Who borrowed a loan. -/
def borrower (t : Tables) (loanId : Int) : Option Int :=
  (t.loans.get? loanId).map (·.userId)

/-- The copies a filter admits. -/
def copiesOf (t : Tables) (f : CopyFilter) : List Copy :=
  t.copies.rows.filter f.admits

/-- The loans a filter admits. -/
def loansOf (t : Tables) (f : LoanFilter) : List Loan :=
  t.loans.rows.filter f.admits

/-- The history of a loan. -/
def entriesOf (t : Tables) (loanId : Int) : List LoanEntry :=
  t.entries.rows.filter (·.loanId = loanId)

/-- The reservations a filter admits. -/
def reservationsOf (t : Tables) (f : ReservationFilter) : List Reservation :=
  t.reservations.rows.filter f.admits

/-- The fines a filter admits. -/
def finesOf (t : Tables) (f : FineFilter) : List Fine :=
  t.fines.rows.filter (f.admits t.borrower)

/-- The loans a user has out. -/
def borrowedBy (t : Tables) (userId : Int) : List Loan :=
  t.loans.rows.filter fun l => l.userId = userId && l.isBorrowed

/-- The loans of a title a user has out. -/
def borrowedOnTitle (t : Tables) (userId bookId : Int) : List Loan :=
  t.loans.rows.filter fun l => l.userId = userId && l.bookId = bookId && l.isBorrowed

/-- The pending reservations of a user. -/
def pendingOf (t : Tables) (userId : Int) : List Reservation :=
  t.reservations.rows.filter fun r => r.userId = userId && r.isPending

/-- The pending reservations of a user on a title. -/
def pendingOnTitle (t : Tables) (userId bookId : Int) : List Reservation :=
  t.reservations.rows.filter fun r => r.userId = userId && r.bookId = bookId && r.isPending

/-- What a user owes in all: the sum of the outstanding fines on the user's loans, in the order of their ids. -/
def outstanding? (t : Tables) (userId : Int) : Option Decimal :=
  Decimal.sum? ((t.finesOf { userId := some userId, settled := some false }).map (·.amount))

end Tables

/-- The ids of the rows a draft wrote. -/
structure Written where
  copies : IdSet := .empty
  loans : IdSet := .empty
  entries : IdSet := .empty
  reservations : IdSet := .empty
  fines : IdSet := .empty
  deriving DecidableEq, Inhabited

/-- The work of an open transaction. -/
structure Draft where
  tables : Tables
  versions : Table Nat
  locked : Table Nat := .empty
  guards : Table Int := .empty
  settled : IdSet := .empty
  written : Written := {}
  deriving DecidableEq, Inhabited

namespace Draft

/-- Keeps a copy's row and notes it as written. -/
def putCopy (d : Draft) (c : Copy) (id : Int) : Draft :=
  { d with
    tables := { d.tables with copies := d.tables.copies.insert id c }
    written := { d.written with copies := d.written.copies.add id } }

/-- Keeps a loan's row and notes it as written. -/
def putLoan (d : Draft) (l : Loan) (id : Int) : Draft :=
  { d with
    tables := { d.tables with loans := d.tables.loans.insert id l }
    written := { d.written with loans := d.written.loans.add id } }

/-- Keeps a history entry's row and notes it as written. -/
def putEntry (d : Draft) (e : LoanEntry) (id : Int) : Draft :=
  { d with
    tables := { d.tables with entries := d.tables.entries.insert id e }
    written := { d.written with entries := d.written.entries.add id } }

/-- Keeps a reservation's row and notes it as written. -/
def putReservation (d : Draft) (r : Reservation) (id : Int) : Draft :=
  { d with
    tables := { d.tables with reservations := d.tables.reservations.insert id r }
    written := { d.written with reservations := d.written.reservations.add id } }

/-- Keeps a fine's row and notes it as written. -/
def putFine (d : Draft) (f : Fine) (id : Int) : Draft :=
  { d with
    tables := { d.tables with fines := d.tables.fines.insert id f }
    written := { d.written with fines := d.written.fines.add id } }

/-- Notes the lock on a copy with the version this draft began with, unless the copy is locked already. -/
def lock (d : Draft) (copyId : Int) : Draft :=
  { d with locked := d.locked.insertNew copyId ((d.versions.get? copyId).getD 0) }

/-- Notes the renewal count that a change of a loan expected, unless an earlier change noted one. -/
def guard (d : Draft) (loanId : Int) (expected : Int) : Draft :=
  { d with guards := d.guards.insertNew loanId expected }

/-- The copy with an id, unless it is withdrawn. -/
def liveCopy? (d : Draft) (id : Int) : Option Copy :=
  (d.tables.copies.get? id).filter (!·.isDeleted)

/-- Changes the row of a copy if a condition on it holds, and answers whether it did. -/
def changeCopy (d : Draft) (id : Int) (holds : Copy → Bool) (change : Copy → Copy) : Bool × Draft :=
  match d.tables.copies.get? id with
  | some c => if holds c then (true, d.putCopy (change c) id) else (false, d)
  | none => (false, d)

/-- Moves a copy that is not withdrawn from an expected status to another. -/
def moveCopy (d : Draft) (id : Int) (expected status : CopyStatus) (now : Instant) : Bool × Draft :=
  d.changeCopy id (fun c => !c.isDeleted && c.status = expected) fun c =>
    { c with status := status, updatedAt := now }

/-- Withdraws an available copy. -/
def withdrawCopy (d : Draft) (id : Int) (now : Instant) : Bool × Draft :=
  d.changeCopy id (fun c => !c.isDeleted && c.status = .available) fun c =>
    { c with deletedAt := some now, updatedAt := now }

/-- Writes a loan that is still borrowed with the expected renewal count. -/
def updateLoan (d : Draft) (loan : Loan) (expected : Int) : Bool × Draft :=
  match d.tables.loans.get? loan.id with
  | some row =>
    if row.isBorrowed && row.renewCount = expected then
      let row := { row with
        status := loan.status, dueDate := loan.dueDate, returnDate := loan.returnDate, renewCount := loan.renewCount,
        updatedAt := loan.updatedAt }
      (true, (d.guard loan.id expected).putLoan row loan.id)
    else
      (false, d)
  | none => (false, d)

/-- Moves a reservation from an expected status to another. -/
def moveReservation (d : Draft) (id : Int) (expected status : ReservationStatus) (now : Instant) : Bool × Draft :=
  match d.tables.reservations.get? id with
  | some r =>
    if r.status = expected then (true, d.putReservation { r with status := status, updatedAt := now } id)
    else (false, d)
  | none => (false, d)

/-- Settles an outstanding fine. -/
def settleFine (d : Draft) (id : Int) (now : Instant) : Bool × Draft :=
  match d.tables.fines.get? id with
  | some f =>
    if f.settled then (false, d)
    else (true, { d.putFine { f with settled := true, updatedAt := now } id with settled := d.settled.add id })
  | none => (false, d)

end Draft

/-- A draft at work: with the last id given out and the number of clock readings taken. -/
structure Work where
  draft : Draft
  lastId : Int
  readings : Nat := 0
  deriving DecidableEq, Inhabited

namespace Work

/-- An answer that leaves the draft as it is. -/
def read {α : Type} (w : Work) (a : α) : Except Stop α × Work :=
  (.ok a, w)

/-- The answer of a conditional write. -/
def write (w : Work) (r : Bool × Draft) : Except Stop Bool × Work :=
  (.ok r.1, { w with draft := r.2 })

/-- Inserts a row under a new id and answers it. -/
def insert {α : Type} (w : Work) (row : Int → α) (put : Draft → α → Int → Draft) : Except Stop α × Work :=
  let id := w.lastId + 1
  (.ok (row id), { w with draft := put w.draft (row id) id, lastId := id })

/-- Answers a request. -/
def answer : (q : Request) → Work → Except Stop q.Answer × Work
  | .getBook id, w => w.read (w.draft.tables.books.get? id)
  | .getUser id, w => w.read (w.draft.tables.users.get? id)
  | .getCopy id, w => w.read (w.draft.tables.copies.get? id)
  | .lockCopy id, w =>
    match w.draft.liveCopy? id with
    | some c => (.ok (some c), { w with draft := w.draft.lock id })
    | none => (.ok none, w)
  | .insertCopy bookId now, w =>
    if w.draft.tables.books.contains bookId then w.insert (NewCopy.toRow ⟨bookId, now⟩) Draft.putCopy
    else (.error (.refused (.notFound (.book bookId))), w)
  | .moveCopy id expected status now, w => w.write (w.draft.moveCopy id expected status now)
  | .withdrawCopy id now, w => w.write (w.draft.withdrawCopy id now)
  | .listCopies f window, w => w.read (window.apply (Listed.sort (w.draft.tables.copiesOf f)))
  | .countCopies f, w => w.read (w.draft.tables.copiesOf f).length
  | .getLoan id, w => w.read (w.draft.tables.loans.get? id)
  | .activeLoan copyId, w => w.read (w.draft.tables.loans.rows.find? fun l => l.copyId = copyId && l.isBorrowed)
  | .insertLoan loan, w => w.insert loan.toRow Draft.putLoan
  | .updateLoan loan expected, w => w.write (w.draft.updateLoan loan expected)
  | .countBorrowed userId, w => w.read (w.draft.tables.borrowedBy userId).length
  | .countBorrowedTitle userId bookId, w => w.read (w.draft.tables.borrowedOnTitle userId bookId).length
  | .insertEntry entry, w => w.insert entry.toRow Draft.putEntry
  | .listEntries loanId, w => w.read (Window.ascending.apply (Listed.sort (w.draft.tables.entriesOf loanId)))
  | .listLoans f window, w => w.read (window.apply (Listed.sort (w.draft.tables.loansOf f)))
  | .countLoans f, w => w.read (w.draft.tables.loansOf f).length
  | .getReservation id, w => w.read (w.draft.tables.reservations.get? id)
  | .pendingReservation copyId, w =>
    w.read (w.draft.tables.reservations.rows.find? fun r => r.copyId = copyId && r.isPending)
  | .insertReservation reservation, w => w.insert reservation.toRow Draft.putReservation
  | .moveReservation id expected status now, w => w.write (w.draft.moveReservation id expected status now)
  | .countPending userId, w => w.read (w.draft.tables.pendingOf userId).length
  | .countPendingTitle userId bookId, w => w.read (w.draft.tables.pendingOnTitle userId bookId).length
  | .listReservations f window, w => w.read (window.apply (Listed.sort (w.draft.tables.reservationsOf f)))
  | .countReservations f, w => w.read (w.draft.tables.reservationsOf f).length
  | .getFine id, w => w.read (w.draft.tables.fines.get? id)
  | .insertFine fine, w => w.insert fine.toRow Draft.putFine
  | .settleFine id now, w => w.write (w.draft.settleFine id now)
  | .listFines f window, w => w.read (window.apply (Listed.sort (w.draft.tables.finesOf f)))
  | .countFines f, w => w.read (w.draft.tables.finesOf f).length
  | .outstandingTotal userId, w =>
    match w.draft.tables.outstanding? userId with
    | some total => (.ok total, w)
    | none => (.error (.overflowed .sum), w)

/-- The store that a draft is, under a clock whose readings are given in order. -/
def store (timeline : Nat → Instant) : Store Work where
  now w := (timeline w.readings, { w with readings := w.readings + 1 })
  answer := answer

end Work

end Circulation
