import Circulation.Procedure

/-!
# Rehearsals

To see how the desk bears failures, a store can be rehearsed with a plan: chosen requests of a transaction are not put
to the store and are answered as planned, with a refusal or with nothing. A plan names a kind of request by its
written name and counts the requests of that kind from the beginning of the transaction.
-/

namespace Circulation

namespace Request

/-- The written name of a kind of request. -/
def name : Request → String
  | .getBook _ => "book_get"
  | .getUser _ => "user_get"
  | .getCopy _ => "copy_get"
  | .lockCopy _ => "copy_lock"
  | .insertCopy _ _ => "copy_insert"
  | .moveCopy _ _ _ _ => "copy_set_status"
  | .withdrawCopy _ _ => "copy_soft_delete"
  | .listCopies _ _ => "copy_list"
  | .countCopies _ => "copy_count"
  | .getLoan _ => "loan_get"
  | .activeLoan _ => "loan_active_by_copy"
  | .insertLoan _ => "loan_insert"
  | .updateLoan _ _ => "loan_update"
  | .countBorrowed _ => "loan_count_borrowed_by_user"
  | .countBorrowedTitle _ _ => "loan_count_borrowed_on_title"
  | .insertEntry _ => "loan_history_insert"
  | .listEntries _ => "loan_history_list"
  | .listLoans _ _ => "loan_list"
  | .countLoans _ => "loan_count"
  | .getReservation _ => "reservation_get"
  | .pendingReservation _ => "reservation_pending_by_copy"
  | .insertReservation _ => "reservation_insert"
  | .moveReservation _ _ _ _ => "reservation_set_status"
  | .countPending _ => "reservation_count_pending_by_user"
  | .countPendingTitle _ _ => "reservation_count_pending_on_title"
  | .listReservations _ _ => "reservation_list"
  | .countReservations _ => "reservation_count"
  | .getFine _ => "fine_get"
  | .insertFine _ => "fine_insert"
  | .settleFine _ _ => "fine_settle"
  | .listFines _ _ => "fine_list"
  | .countFines _ => "fine_count"
  | .outstandingTotal _ => "fine_outstanding_total"

/-- The answer that nothing is there or nothing was done, where there is such an answer. -/
def emptyAnswer? : (q : Request) → Option q.Answer
  | .getBook _ => some none
  | .getUser _ => some none
  | .getCopy _ => some none
  | .lockCopy _ => some none
  | .insertCopy _ _ => none
  | .moveCopy _ _ _ _ => some false
  | .withdrawCopy _ _ => some false
  | .listCopies _ _ => some []
  | .countCopies _ => some 0
  | .getLoan _ => some none
  | .activeLoan _ => some none
  | .insertLoan _ => none
  | .updateLoan _ _ => some false
  | .countBorrowed _ => some 0
  | .countBorrowedTitle _ _ => some 0
  | .insertEntry _ => none
  | .listEntries _ => some []
  | .listLoans _ _ => some []
  | .countLoans _ => some 0
  | .getReservation _ => some none
  | .pendingReservation _ => some none
  | .insertReservation _ => none
  | .moveReservation _ _ _ _ => some false
  | .countPending _ => some 0
  | .countPendingTitle _ _ => some 0
  | .listReservations _ _ => some []
  | .countReservations _ => some 0
  | .getFine _ => some none
  | .insertFine _ => none
  | .settleFine _ _ => some false
  | .listFines _ _ => some []
  | .countFines _ => some 0
  | .outstandingTotal _ => some .zero

end Request

namespace Rehearsal

/-- How a planned request is answered. -/
inductive Planned where
  | refuse (why : Refusal)
  | empty
  deriving DecidableEq

/-- One entry of a plan: how the `nth` request of a kind is answered, counted from one. -/
structure Entry where
  kind : String
  nth : Int
  planned : Planned
  deriving DecidableEq

/-- How many requests of each kind a transaction has put. -/
structure Counts where
  counts : List (String × Nat) := []
  deriving DecidableEq, Inhabited

namespace Counts

/-- How many requests of a kind have been put. -/
def get (c : Counts) (kind : String) : Nat :=
  (c.counts.lookup kind).getD 0

/-- The counts with one more request of a kind. -/
def add (c : Counts) (kind : String) : Counts :=
  ⟨(kind, c.get kind + 1) :: c.counts.filter (·.1 ≠ kind)⟩

end Counts

/-- What a plan says about the next request of a kind. -/
def planned? (plan : List Entry) (counts : Counts) (kind : String) : Option Planned :=
  (plan.find? fun e => e.kind = kind && e.nth = ((counts.get kind + 1 : Nat) : Int)).map (·.planned)

variable {σ : Type}

/-- Answers a request as the store does, leaving its counts as they are. -/
def passOn (store : Store σ) (counts : Counts) (q : Request) (s : σ) : Except Stop q.Answer × (σ × Counts) :=
  let (a, s) := store.answer q s
  (a, (s, counts))

/-- A store rehearsed with a plan. -/
def store (plan : List Entry) (inner : Store σ) : Store (σ × Counts) where
  now s :=
    let (t, rest) := inner.now s.1
    (t, (rest, s.2))
  answer q s :=
    let counts := s.2.add q.name
    match planned? plan s.2 q.name with
    | none => passOn inner counts q s.1
    | some (.refuse why) => (.error (.refused why), (s.1, counts))
    | some .empty =>
      match q.emptyAnswer? with
      | some a => (.ok a, (s.1, counts))
      | none => passOn inner counts q s.1

end Rehearsal

end Circulation
