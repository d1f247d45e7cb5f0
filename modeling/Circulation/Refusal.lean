/-!
# Refusals

An operation ends in a result, in a refusal or in an overflow. A `Refusal` says why nothing was done and what kind of
failure it is; its wording, its code and its status are fixed here, in one place. An `Overflow` is arithmetic out of
range, which no operation recovers from.
-/

namespace Circulation

/-- A row that was asked for and is not there. -/
inductive Missing where
  | book (id : Int)
  | copy (id : Int)
  | loan (id : Int)
  | reservation (id : Int)
  | fine (id : Int)
  | stated (text : String)
  deriving DecidableEq, Repr

/-- The wording of a missing row. -/
def Missing.text : Missing → String
  | .book id => s!"Book with id {id} not found"
  | .copy id => s!"Book copy with id {id} not found"
  | .loan id => s!"Loan with id {id} not found"
  | .reservation id => s!"Reservation with id {id} not found"
  | .fine id => s!"Fine with id {id} not found"
  | .stated text => text

/-- A row that is in the wrong state for what was asked. -/
inductive WrongState where
  | alreadyOnLoan
  | reservedForAnother
  | notOnLoan
  | onLoan
  | onReserve
  | notOnReserve
  | notPending
  | notOutstanding
  | stated (text : String)
  deriving DecidableEq, Repr

/-- The wording of a wrong state. -/
def WrongState.text : WrongState → String
  | .alreadyOnLoan => "Book is already on loan"
  | .reservedForAnother => "Book is currently on reserve by another user"
  | .notOnLoan => "Book is not on loan"
  | .onLoan => "Book is currently on loan"
  | .onReserve => "Book is currently on reserve"
  | .notOnReserve => "Book is not on reserve"
  | .notPending => "Reservation is not pending"
  | .notOutstanding => "Fine is not outstanding"
  | .stated text => text

/-- A rule on users that stands against a request. -/
inductive Ineligible where
  | maxLoans (current max : Int)
  | maxReservations (current max : Int)
  | titleBorrowed
  | titleReserved
  | maxRenewals (current max : Int)
  deriving DecidableEq, Repr

/-- The wording of a rule that stands against a request. -/
def Ineligible.text : Ineligible → String
  | .maxLoans current max => s!"You have reached the maximum number of loans ({current}/{max})"
  | .maxReservations current max => s!"You have reached the maximum number of reservations ({current}/{max})"
  | .titleBorrowed => "You have already loaned a copy of this book"
  | .titleReserved => "You have already reserved a copy of this book"
  | .maxRenewals current max => s!"Maximum renewals reached ({current}/{max})"

/-- A change that another transaction's change stands against. -/
inductive Clash where
  | copyChanged (id : Int)
  | loanChanged (id : Int)
  | fineSettled (id : Int)
  | reservationCollides (id : Int)
  | copyOnLoan (id : Int)
  | copyReserved (id : Int)
  | titleReserved (user book : Int)
  | stated (text : String)
  deriving DecidableEq, Repr

/-- The wording of a clash. -/
def Clash.text : Clash → String
  | .copyChanged id => s!"Copy {id} was modified by a concurrent transaction"
  | .loanChanged id => s!"Loan {id} was modified by a concurrent transaction"
  | .fineSettled id => s!"Fine {id} is already settled"
  | .reservationCollides id => s!"Pending reservation {id} collides with a committed one"
  | .copyOnLoan id => s!"Copy {id} already has an active loan"
  | .copyReserved id => s!"Copy {id} already has a pending reservation"
  | .titleReserved user book => s!"User {user} already has a pending reservation on book {book}"
  | .stated text => text

/-- An argument that is out of bounds. -/
inductive BadArgument where
  | copyCount (max count : Int)
  | stated (text : String)
  deriving DecidableEq, Repr

/-- The wording of an argument out of bounds. -/
def BadArgument.text : BadArgument → String
  | .copyCount max count => s!"Copy count must be between 1 and {max}, got {count}"
  | .stated text => text

/-- Why a value of a database row could not be read. -/
inductive Unreadable where
  | null
  | noStatus (number : Int) (type : String)
  | unrepresentable
  | stated (text : String)
  deriving DecidableEq, Repr

/-- The wording of an unreadable value. -/
def Unreadable.text : Unreadable → String
  | .null => "unexpected null; try decoding as an `Option`"
  | .noStatus number type => s!"error occurred while decoding: invalid value {number} for enum {type}"
  | .unrepresentable => "value not representable as rust_decimal::Decimal"
  | .stated text => text

/-- A failure of the database or of the way to it. -/
inductive DatabaseFailure where
  | poolTimedOut
  | poolClosed
  | noRow
  | server (message : String)
  | column (name : String) (why : Unreadable)
  | position (index : Nat) (why : Unreadable)
  | configuration (message : String)
  deriving DecidableEq, Repr

/-- The wording of a database failure. -/
def DatabaseFailure.text : DatabaseFailure → String
  | .poolTimedOut => "pool timed out while waiting for an open connection"
  | .poolClosed => "attempted to acquire a connection on a closed pool"
  | .noRow => "no rows returned by a query that expected to return at least one row"
  | .server message => s!"error returned from database: {message}"
  | .column name why => s!"error occurred while decoding column \"{name}\": {why.text}"
  | .position index why => s!"error occurred while decoding column {index}: {why.text}"
  | .configuration message => s!"error with configuration: {message}"

/-- Why the schema of a database could not be brought up to date. -/
inductive MigrationFailure where
  | halfApplied (version : Int)
  | unknown (version : Int)
  | modified (version : Int)
  | notExecuted (why : DatabaseFailure)
  deriving DecidableEq, Repr

/-- The wording of a failure to bring the schema up to date. -/
def MigrationFailure.text : MigrationFailure → String
  | .halfApplied version =>
    s!"migration {version} is partially applied; fix and remove row from `_sqlx_migrations` table"
  | .unknown version => s!"migration {version} was previously applied but is missing in the resolved migrations"
  | .modified version => s!"migration {version} was previously applied but has been modified"
  | .notExecuted why => s!"while executing migrations: {why.text}"

/-- Records that contradict each other, or a schema that cannot be set up. -/
inductive Inconsistency where
  | copyBook (copy book : Int)
  | loanCopy (loan copy : Int)
  | loanBook (loan book : Int)
  | reservationCopy (reservation copy : Int)
  | reservationBook (reservation book : Int)
  | fineLoan (fine loan : Int)
  | migration (why : MigrationFailure)
  | stated (text : String)
  deriving DecidableEq, Repr

/-- The wording of an inconsistency. -/
def Inconsistency.text : Inconsistency → String
  | .copyBook copy book => s!"Copy {copy} references missing book {book}"
  | .loanCopy loan copy => s!"Loan {loan} references missing copy {copy}"
  | .loanBook loan book => s!"Loan {loan} references missing book {book}"
  | .reservationCopy reservation copy => s!"Reservation {reservation} references missing copy {copy}"
  | .reservationBook reservation book => s!"Reservation {reservation} references missing book {book}"
  | .fineLoan fine loan => s!"Fine {fine} references missing loan {loan}"
  | .migration why => s!"Failed to run migrations: {why.text}"
  | .stated text => text

/-- Why an operation did nothing. -/
inductive Refusal where
  | notFound (what : Missing)
  | invalidState (why : WrongState)
  | ineligible (why : Ineligible)
  | conflict (why : Clash)
  | validation (why : BadArgument)
  | database (why : DatabaseFailure)
  | inconsistent (why : Inconsistency)
  deriving DecidableEq, Repr

/-- The codes under which refusals are reported. -/
inductive ErrorCode where
  | failure
  | dbFailure
  | noSuchData
  | maxLoansReached
  | badValue
  | invalidState
  | maxReservationsReached
  | duplicateClaim
  | concurrentUpdate
  | maxRenewalsReached
  deriving DecidableEq, Repr

namespace ErrorCode

/-- The number of a code. -/
def number : ErrorCode → Nat
  | .failure => 1
  | .dbFailure => 3
  | .noSuchData => 5
  | .maxLoansReached => 11
  | .badValue => 18
  | .invalidState => 22
  | .maxReservationsReached => 23
  | .duplicateClaim => 24
  | .concurrentUpdate => 25
  | .maxRenewalsReached => 26

/-- The name of a code. -/
def name : ErrorCode → String
  | .failure => "Failure"
  | .dbFailure => "DbFailure"
  | .noSuchData => "NoSuchData"
  | .maxLoansReached => "MaxLoansReached"
  | .badValue => "BadValue"
  | .invalidState => "InvalidState"
  | .maxReservationsReached => "MaxReservationsReached"
  | .duplicateClaim => "DuplicateClaim"
  | .concurrentUpdate => "ConcurrentUpdate"
  | .maxRenewalsReached => "MaxRenewalsReached"

end ErrorCode

/-- The code of a rule that stands against a request. -/
def Ineligible.code : Ineligible → ErrorCode
  | .maxLoans _ _ => .maxLoansReached
  | .maxReservations _ _ => .maxReservationsReached
  | .titleBorrowed => .duplicateClaim
  | .titleReserved => .duplicateClaim
  | .maxRenewals _ _ => .maxRenewalsReached

namespace Refusal

/-- The name of a refusal's kind. -/
def kind : Refusal → String
  | .notFound _ => "NotFound"
  | .invalidState _ => "InvalidState"
  | .ineligible _ => "Eligibility"
  | .conflict _ => "Conflict"
  | .validation _ => "Validation"
  | .database _ => "Database"
  | .inconsistent _ => "Internal"

/-- The full message of a refusal, for the record. -/
def message : Refusal → String
  | .notFound what => s!"Not found: {what.text}"
  | .invalidState why => s!"Invalid state: {why.text}"
  | .ineligible why => s!"Not eligible: {why.text}"
  | .conflict why => s!"Conflict: {why.text}"
  | .validation why => s!"Validation error: {why.text}"
  | .database why => s!"Database error: {why.text}"
  | .inconsistent why => s!"Internal error: {why.text}"

/-- The code of a refusal. -/
def code : Refusal → ErrorCode
  | .notFound _ => .noSuchData
  | .invalidState _ => .invalidState
  | .ineligible why => why.code
  | .conflict _ => .concurrentUpdate
  | .validation _ => .badValue
  | .database _ => .dbFailure
  | .inconsistent _ => .failure

/-- The status of a refusal, in the numbers of HTTP. -/
def status : Refusal → Nat
  | .notFound _ => 404
  | .invalidState _ => 409
  | .ineligible _ => 422
  | .conflict _ => 409
  | .validation _ => 400
  | .database _ => 500
  | .inconsistent _ => 500

/-- Whether the one who asked can change the request and try again. -/
def isClientError (r : Refusal) : Bool :=
  r.status < 500

/-- What the one who asked is told: failures of the house are named and not described. -/
def publicMessage : Refusal → String
  | .notFound what => what.text
  | .invalidState why => why.text
  | .ineligible why => why.text
  | .conflict why => why.text
  | .validation why => why.text
  | .database _ => "Database error"
  | .inconsistent _ => "Internal error"

end Refusal

/-- Arithmetic that went out of range, or a number too long to be written. -/
inductive Overflow where
  | dayCount
  | instant
  | product
  | sum
  | text
  deriving DecidableEq, Repr

/-- The wording of an overflow. -/
def Overflow.message : Overflow → String
  | .dayCount => "TimeDelta::days out of bounds"
  | .instant => "`DateTime + TimeDelta` overflowed"
  | .product => "Multiplication overflowed"
  | .sum => "Addition overflowed"
  | .text => "called `Result::unwrap()` on an `Err` value: CapacityError: insufficient capacity"

/-- Why an operation ended without a result. -/
inductive Stop where
  | refused (why : Refusal)
  | overflowed (what : Overflow)
  deriving DecidableEq, Repr

end Circulation
