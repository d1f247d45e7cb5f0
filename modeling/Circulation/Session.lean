import Circulation.Ledger
import Circulation.Rehearsal
import Circulation.Sweep

/-!
# Sessions

A session is a ledger with the clock its desk reads, which moves only when told to, and the transactions that are open
on it, each under a name. Work is done in an open transaction or in one of its own, and any transaction may carry a
plan of rehearsed failures. A session is also what sweeps take their transactions from.
-/

namespace Circulation

/-- An open transaction with its plan. -/
structure OpenWork where
  draft : Draft
  plan : List Rehearsal.Entry := []
  counts : Rehearsal.Counts := {}
  deriving Inhabited

/-- A ledger, a clock and the open transactions. -/
structure Session where
  ledger : Ledger := {}
  clock : Instant
  opened : List (String × OpenWork) := []
  deriving Inhabited

/-- All that has been committed, in listing order, with the next free id. -/
structure Inventory where
  copies : List Copy
  loans : List Loan
  entries : List LoanEntry
  reservations : List Reservation
  fines : List Fine
  nextId : Int

namespace Session

variable {α : Type}

/-- The session with one more title. -/
def addBook (s : Session) (title : String) : Book × Session :=
  let (book, ledger) := s.ledger.addBook title
  (book, { s with ledger := ledger })

/-- The session with one more user. -/
def addUser (s : Session) (username : String) : User × Session :=
  let (user, ledger) := s.ledger.addUser username
  (user, { s with ledger := ledger })

/-- Moves the clock by a span. A clock that would go out of range stays where it is. -/
def advance (s : Session) (d : Span) : Except Overflow Instant × Session :=
  match s.clock.after d with
  | .ok t => (.ok t, { s with clock := t })
  | .error what => (.error what, s)

/-- A transaction that begins now. -/
def begin (s : Session) (plan : List Rehearsal.Entry) : OpenWork where
  draft := s.ledger.draft
  plan := plan

/-- The open transaction with a name. -/
def opened? (s : Session) (name : String) : Option OpenWork :=
  s.opened.lookup name

/-- Keeps an open transaction under a name, in place of any other. -/
def keep (s : Session) (name : String) (work : OpenWork) : Session :=
  { s with opened := (name, work) :: s.opened.filter (·.1 ≠ name) }

/-- Drops the open transaction with a name. -/
def drop (s : Session) (name : String) : Session :=
  { s with opened := s.opened.filter (·.1 ≠ name) }

/-- The store that an open transaction of the session is, as rehearsed. -/
def store (s : Session) (plan : List Rehearsal.Entry) : Store (Work × Rehearsal.Counts) :=
  Rehearsal.store plan (Work.store fun _ => s.clock)

/-- Carries out a procedure in an open transaction. The ids it takes stay taken. -/
def work (s : Session) (w : OpenWork) (p : Procedure α) : Except Stop α × (OpenWork × Session) :=
  let (result, (done, counts)) := p.run (s.store w.plan) (⟨w.draft, s.ledger.lastId, 0⟩, w.counts)
  let ledger := { s.ledger with lastId := done.lastId }
  (result, ({ w with draft := done.draft, counts := counts }, { s with ledger := ledger }))

/-- Commits an open transaction. -/
def commit (s : Session) (w : OpenWork) : Except Refusal Unit × Session :=
  match s.ledger.commit w.draft with
  | .ok ledger => (.ok (), { s with ledger := ledger })
  | .error why => (.error why, s)

/-- Carries out a procedure in the open transaction with a name. A refusal leaves the transaction open with what it
wrote, an overflow ends it. -/
def workIn (s : Session) (name : String) (w : OpenWork) (p : Procedure α) : Except Stop α × Session :=
  match s.work w p with
  | (.error (.overflowed what), (_, s)) => (.error (.overflowed what), s.drop name)
  | (result, (w, s)) => (result, s.keep name w)

/-- Carries out a procedure in a transaction of its own, which is committed if the procedure has a result. -/
def transact (s : Session) (plan : List Rehearsal.Entry) (p : Procedure α) : Except Stop α × Session :=
  match s.work (s.begin plan) p with
  | (.ok a, (w, s)) =>
    match s.commit w with
    | (.ok (), s) => (.ok a, s)
    | (.error why, s) => (.error (.refused why), s)
  | (.error why, (_, s)) => (.error why, s)

/-- All that has been committed. -/
def inventory (s : Session) : Inventory :=
  let t := s.ledger.tables
  let loans := Listed.sort (t.loansOf {})
  { copies := Listed.sort (t.copiesOf {})
    loans := loans
    entries := loans.flatMap fun l => Listed.sort (t.entriesOf l.id)
    reservations := Listed.sort (t.reservationsOf {})
    fines := Listed.sort (t.finesOf {})
    nextId := s.ledger.lastId + 1 }

/-- A session as the source of transactions for a sweep. -/
def source : Source Session OpenWork where
  now s := (s.clock, s)
  begin s := (.ok (s.begin []), s)
  answer q x :=
    x.2.work x.1 (Procedure.request q)
  commit w s :=
    match s.commit w with
    | (.ok (), s) => (.ok (), s)
    | (.error why, s) => (.error (.refused why), s)
  drop _ s := s
  leave _ s := s

end Session

namespace Rehearsal

/-- How the transactions of a sweep are rehearsed, by their numbers counted from one: what happens just before one
begins, which ones fail to begin or to commit, and the plan of each. -/
structure SweepPlan (α : Type) where
  before : Nat → Session → List α × Session
  failBegin : Nat → Option Refusal
  failCommit : Nat → Option Refusal
  plan : Nat → List Entry

/-- A session in a rehearsed sweep: with the number of transactions begun and the answers of what happened between. -/
structure Swept (α : Type) where
  session : Session
  begins : Nat := 0
  answers : List α := []

variable {α : Type}

/-- A session as the source of transactions for a rehearsed sweep. -/
def source (plan : SweepPlan α) : Source (Swept α) (Nat × OpenWork) where
  now s := (s.session.clock, s)
  begin s :=
    let n := s.begins + 1
    let (answers, session) := plan.before n s.session
    let s : Swept α := ⟨session, n, s.answers ++ answers⟩
    match plan.failBegin n with
    | some why => (.error (.refused why), s)
    | none => (.ok (n, session.begin (plan.plan n)), s)
  answer q x :=
    let (result, (w, session)) := x.2.session.work x.1.2 (Procedure.request q)
    (result, ((x.1.1, w), { x.2 with session := session }))
  commit x s :=
    match plan.failCommit x.1 with
    | some why => (.error (.refused why), s)
    | none =>
      match s.session.commit x.2 with
      | (.ok (), session) => (.ok (), { s with session := session })
      | (.error why, session) => (.error (.refused why), { s with session := session })
  drop _ s := s
  leave _ s := s

end Rehearsal

end Circulation
