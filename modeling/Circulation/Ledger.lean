import Circulation.Ledger.Draft

/-!
# The ledger

The ledger holds what has been committed: the tables, a version per copy, and the last id given out. `Ledger.draft`
begins a transaction and `Ledger.commit` ends it. A commit is refused when the draft stands on something that has
changed: a copy it locked whose version has moved, a loan it changed that is returned or renewed, a fine it settled
that is settled, or a pending reservation it wrote that a committed one stands against. A commit that is not refused
publishes the rows the draft wrote and moves the version of every copy it locked.
-/

namespace Circulation

/-- What has been committed. -/
structure Ledger where
  tables : Tables := {}
  versions : Table Nat := .empty
  lastId : Int := 0
  deriving DecidableEq, Inhabited

namespace Ledger

/-- The ledger with one more title. -/
def addBook (l : Ledger) (title : String) : Book × Ledger :=
  let book : Book := ⟨l.lastId + 1, title⟩
  (book, { l with tables := { l.tables with books := l.tables.books.insert book.id book }, lastId := book.id })

/-- The ledger with one more user. -/
def addUser (l : Ledger) (username : String) : User × Ledger :=
  let user : User := ⟨l.lastId + 1, username⟩
  (user, { l with tables := { l.tables with users := l.tables.users.insert user.id user }, lastId := user.id })

/-- The draft of a transaction that begins now. -/
def draft (l : Ledger) : Draft where
  tables := l.tables
  versions := l.versions

/-- The version of a copy. -/
def version (l : Ledger) (copyId : Int) : Nat :=
  (l.versions.get? copyId).getD 0

/-- Whether two pending reservations stand against each other: on one copy, or of one user on one title. -/
def collides (r s : Reservation) : Bool :=
  s.id ≠ r.id && s.isPending && (s.copyId = r.copyId || (s.userId = r.userId && s.bookId = r.bookId))

/-- The copy a draft locked whose version has moved since. -/
def staleCopy? (l : Ledger) (d : Draft) : Option Clash :=
  (d.locked.entries.find? fun (id, seen) => l.version id ≠ seen).map fun (id, _) => .copyChanged id

/-- The loan a draft changed that is no longer borrowed with the renewal count expected. -/
def staleLoan? (l : Ledger) (d : Draft) : Option Clash :=
  (d.guards.entries.find? fun (id, expected) =>
    (l.tables.loans.get? id).any fun row => !row.isBorrowed || row.renewCount ≠ expected).map fun (id, _) =>
      .loanChanged id

/-- The fine a draft settled that is settled already. -/
def staleFine? (l : Ledger) (d : Draft) : Option Clash :=
  (d.settled.ids.find? fun id => (l.tables.fines.get? id).any (·.settled)).map .fineSettled

/-- The pending reservation a draft wrote that a committed one stands against. -/
def collision? (l : Ledger) (d : Draft) : Option Clash :=
  ((d.written.reservations.ids.filterMap d.tables.reservations.get?).find? fun r =>
    r.isPending && l.tables.reservations.rows.any (collides r)).map fun r => .reservationCollides r.id

/-- What stands against the commit of a draft. -/
def clash? (l : Ledger) (d : Draft) : Option Clash :=
  l.staleCopy? d <|> l.staleLoan? d <|> l.staleFine? d <|> l.collision? d

/-- A table with the rows of some ids taken from another. -/
def publish {α : Type} (ids : IdSet) (source target : Table α) : Table α :=
  ids.ids.foldl (fun t id => match source.get? id with
    | some row => t.insert id row
    | none => t) target

/-- The tables with the rows a draft wrote. -/
def publishAll (t : Tables) (d : Draft) : Tables :=
  { t with
    copies := publish d.written.copies d.tables.copies t.copies
    loans := publish d.written.loans d.tables.loans t.loans
    entries := publish d.written.entries d.tables.entries t.entries
    reservations := publish d.written.reservations d.tables.reservations t.reservations
    fines := publish d.written.fines d.tables.fines t.fines }

/-- The versions with those of some copies moved on by one. -/
def bump (versions : Table Nat) (copies : List Int) : Table Nat :=
  copies.foldl (fun v id => v.insert id ((v.get? id).getD 0 + 1)) versions

/-- Ends a transaction: publishes its draft unless something stands against it. -/
def commit (l : Ledger) (d : Draft) : Except Refusal Ledger :=
  match l.clash? d with
  | some why => .error (.conflict why)
  | none => .ok { l with tables := publishAll l.tables d, versions := bump l.versions d.locked.ids }

end Ledger

end Circulation
