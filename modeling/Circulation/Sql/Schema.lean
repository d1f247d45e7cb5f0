import Circulation.Sql.Connection

/-!
# The schema

The tables of the desk on a database, and how a database is brought up to this version of them. A database notes which
versions have been applied to it, each with a checksum, and whether one was left half applied.
-/

namespace Circulation.Sql.Schema

/-- The number of this version of the schema. -/
def version : Int := 20240101000000

/-- What this version is called. -/
def description : String := "lending"

/-- The checksum of this version's statements. -/
def checksum : String :=
  "1d08689432f9a9b203b1538b717420e60f5e65186623b544f598db266b220690f4f191b2929a8aead0a5366a8a6180a7"

/-- The statements of this version, line by line. -/
def lines : List String :=
  [
    "-- Circulation schema: copies, loans, reservations, fines.",
    "-- Status columns are SMALLINT:",
    "-- book_copies.status 0 = available, 1 = on loan, 2 = on reserve",
    "-- loans.status 0 = borrowed, 1 = returned",
    "-- reservations.status 0 = pending, 1 = fulfilled",
    "-- loan_histories.action 0 = borrow, 1 = renew, 2 = return",
    "CREATE TABLE IF NOT EXISTS books (",
    "id BIGSERIAL PRIMARY KEY,",
    "title TEXT NOT NULL",
    ");",
    "CREATE TABLE IF NOT EXISTS users (",
    "id BIGSERIAL PRIMARY KEY,",
    "username TEXT NOT NULL UNIQUE",
    ");",
    "CREATE TABLE IF NOT EXISTS book_copies (",
    "id BIGSERIAL PRIMARY KEY,",
    "book_id BIGINT NOT NULL REFERENCES books(id),",
    "status SMALLINT NOT NULL DEFAULT 0 CHECK (status IN (0, 1, 2)),",
    "created_at TIMESTAMPTZ NOT NULL DEFAULT NOW(),",
    "updated_at TIMESTAMPTZ NOT NULL DEFAULT NOW(),",
    "deleted_at TIMESTAMPTZ",
    ");",
    "CREATE INDEX IF NOT EXISTS book_copies_book_id_idx ON book_copies(book_id);",
    "CREATE TABLE IF NOT EXISTS loans (",
    "id BIGSERIAL PRIMARY KEY,",
    "book_copy_id BIGINT NOT NULL REFERENCES book_copies(id),",
    "book_id BIGINT NOT NULL REFERENCES books(id),",
    "user_id BIGINT NOT NULL REFERENCES users(id),",
    "status SMALLINT NOT NULL DEFAULT 0 CHECK (status IN (0, 1)),",
    "borrow_date TIMESTAMPTZ NOT NULL,",
    "due_date TIMESTAMPTZ NOT NULL,",
    "return_date TIMESTAMPTZ,",
    "renew_count INTEGER NOT NULL DEFAULT 0,",
    "created_at TIMESTAMPTZ NOT NULL DEFAULT NOW(),",
    "updated_at TIMESTAMPTZ NOT NULL DEFAULT NOW()",
    ");",
    "-- At most one active loan per copy",
    "CREATE UNIQUE INDEX IF NOT EXISTS loans_one_borrowed_per_copy",
    "ON loans(book_copy_id) WHERE status = 0;",
    "CREATE INDEX IF NOT EXISTS loans_user_status_idx ON loans(user_id, status);",
    "CREATE TABLE IF NOT EXISTS loan_histories (",
    "id BIGSERIAL PRIMARY KEY,",
    "loan_id BIGINT NOT NULL REFERENCES loans(id),",
    "action SMALLINT NOT NULL CHECK (action IN (0, 1, 2)),",
    "due_date TIMESTAMPTZ NOT NULL,",
    "previous_due_date TIMESTAMPTZ,",
    "created_at TIMESTAMPTZ NOT NULL DEFAULT NOW()",
    ");",
    "CREATE INDEX IF NOT EXISTS loan_histories_loan_id_idx ON loan_histories(loan_id);",
    "CREATE TABLE IF NOT EXISTS reservations (",
    "id BIGSERIAL PRIMARY KEY,",
    "book_copy_id BIGINT NOT NULL REFERENCES book_copies(id),",
    "book_id BIGINT NOT NULL REFERENCES books(id),",
    "user_id BIGINT NOT NULL REFERENCES users(id),",
    "status SMALLINT NOT NULL DEFAULT 0 CHECK (status IN (0, 1)),",
    "reservation_date TIMESTAMPTZ NOT NULL,",
    "created_at TIMESTAMPTZ NOT NULL DEFAULT NOW(),",
    "updated_at TIMESTAMPTZ NOT NULL DEFAULT NOW()",
    ");",
    "-- At most one pending reservation per copy",
    "CREATE UNIQUE INDEX IF NOT EXISTS reservations_one_pending_per_copy",
    "ON reservations(book_copy_id) WHERE status = 0;",
    "-- At most one pending reservation per user and title",
    "CREATE UNIQUE INDEX IF NOT EXISTS reservations_one_pending_per_user_title",
    "ON reservations(user_id, book_id) WHERE status = 0;",
    "CREATE INDEX IF NOT EXISTS reservations_user_status_idx ON reservations(user_id, status);",
    "CREATE TABLE IF NOT EXISTS fines (",
    "id BIGSERIAL PRIMARY KEY,",
    "loan_id BIGINT NOT NULL REFERENCES loans(id),",
    "amount NUMERIC(10, 2) NOT NULL CHECK (amount >= 0),",
    "settled BOOLEAN NOT NULL DEFAULT FALSE,",
    "created_at TIMESTAMPTZ NOT NULL DEFAULT NOW(),",
    "updated_at TIMESTAMPTZ NOT NULL DEFAULT NOW()",
    ");",
    "CREATE INDEX IF NOT EXISTS fines_loan_id_idx ON fines(loan_id);"
  ]

/-- The statements of this version. -/
def text : String :=
  " ".intercalate lines

/-- What a database notes about its schema: the version that was left half applied, and those applied with their
checksums. -/
structure Notes where
  halfApplied : Option Int := none
  applied : List (Int × String) := []
  deriving DecidableEq, Inhabited

/-- What stands against bringing a database up to date: a version left half applied, then one that is not known here,
then this version applied with other statements. -/
def obstacle? (n : Notes) : Option MigrationFailure :=
  match n.halfApplied with
  | some v => some (.halfApplied v)
  | none =>
    match n.applied.find? (·.1 ≠ version) with
    | some (v, _) => some (.unknown v)
    | none => if n.applied.getLast?.any (·.2 ≠ checksum) then some (.modified version) else none

/-- Applies this version in a transaction: its statements, then the record of it. -/
def apply (c : Connection) : Except DatabaseFailure Unit × Connection :=
  let c := c.send (.mark .begin)
  match c.script.failBegin with
  | some e => (.error e.failure, c.rollback)
  | none =>
    let c := c.send (.schema text)
    match c.script.failSchema with
    | some e => (.error e.failure, c.rollback)
    | none =>
      let c := (c.send (.applied version description checksum)).send (.mark .commit)
      match c.script.failCommit with
      | some e => (.error e.failure, c.rollback)
      | none => (.ok (), c)

/-- Brings a database up to this version. -/
def migrate (n : Notes) (c : Connection) : Except Refusal Unit × Connection :=
  let refuse (why : MigrationFailure) : Refusal := .inconsistent (.migration why)
  let c := c.settle
  match obstacle? n with
  | some why => (.error (refuse why), c)
  | none =>
    if n.applied.isEmpty then
      match apply c with
      | (.ok (), c) => (.ok (), c)
      | (.error why, c) => (.error (refuse (.notExecuted why)), c)
    else
      (.ok (), c)

end Circulation.Sql.Schema
