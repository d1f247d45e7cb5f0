import Circulation.Desk
import Circulation.Ledger

/-!
# Traffic

Any number of transactions are open on one ledger at once. Each works on its own draft and is at rest or in the middle
of a procedure, and they take their steps in any order: a step is one clock reading or one request. Between two steps
of one transaction the others begin, work, commit and roll back, titles and users are added, and the clock moves.

`Traffic.act` carries out one action. `Rules` say which actions there may be, and `Reachable` is every state that
actions within the rules lead to. What only statements speak of is written down beside the state: the ledger that a
transaction began on, and a journal of the transactions that committed. A transaction that nobody disturbs does what its
procedure does when it runs on the store that the draft is (`Traffic.serve_eq_run`).
-/

namespace Circulation

/-- A transaction: what it began on and how many had been committed by then, its draft, the loans it has read, whether
a call of it was refused, and the procedure it is in the middle of, if any. -/
structure Transaction where
  base : Ledger
  began : Nat
  draft : Draft
  inHand : List Loan := []
  refused : Bool := false
  doing : Option (Procedure (List Loan)) := none

/-- One ledger, the clock, the open transactions by number, and the journal of those that committed, oldest first. -/
structure Traffic where
  ledger : Ledger := {}
  clock : Instant
  opened : Nat → Option Transaction := fun _ => none
  journal : List Transaction := []

/-- What may happen next. -/
inductive Action where
  /-- A title is added to the catalogue. -/
  | addBook (title : String)
  /-- A user is added. -/
  | addUser (username : String)
  /-- The clock is moved. -/
  | setClock (t : Instant)
  /-- A transaction begins under a number; one that is open under it is dropped. -/
  | begin (k : Nat)
  /-- A transaction at rest is put to a procedure. -/
  | call (k : Nat) (p : Procedure (List Loan))
  /-- A transaction takes one step of its procedure. -/
  | advance (k : Nat)
  /-- A transaction at rest asks to be committed. -/
  | commit (k : Nat)
  /-- A transaction is dropped. -/
  | rollback (k : Nat)

namespace Traffic

/-- Keeps a transaction under a number. -/
def keep (s : Traffic) (k : Nat) (x : Transaction) : Traffic :=
  { s with opened := fun j => if j = k then some x else s.opened j }

/-- Drops the transaction under a number. -/
def drop (s : Traffic) (k : Nat) : Traffic :=
  { s with opened := fun j => if j = k then none else s.opened j }

/-- One step of a transaction. A procedure with a result adds the loans it read to those in hand, a refused one leaves
the transaction open with what it wrote, and an overflow ends the transaction. -/
def advance (s : Traffic) (k : Nat) (x : Transaction) : Traffic :=
  match x.doing with
  | none => s
  | some (.done loans) => s.keep k { x with doing := none, inHand := loans ++ x.inHand }
  | some (.stop (.refused _)) => s.keep k { x with doing := none, refused := true }
  | some (.stop (.overflowed _)) => s.drop k
  | some (.clock next) => s.keep k { x with doing := some (next s.clock) }
  | some (.ask q next) =>
    match Work.answer q ⟨x.draft, s.ledger.lastId, 0⟩ with
    | (.ok a, w) =>
      { s with ledger := { s.ledger with lastId := w.lastId } }.keep k
        { x with draft := w.draft, doing := some (next a) }
    | (.error why, w) =>
      { s with ledger := { s.ledger with lastId := w.lastId } }.keep k
        { x with draft := w.draft, doing := some (.stop why) }

/-- The end of a transaction that asks to be committed: it goes into the journal, or is dropped when something stands
against it. -/
def commit (s : Traffic) (k : Nat) (x : Transaction) : Traffic :=
  match s.ledger.commit x.draft with
  | .ok ledger => { s.drop k with ledger := ledger, journal := s.journal ++ [x] }
  | .error _ => s.drop k

/-- Carries out an action. What cannot be done, such as a commit in the middle of a procedure, changes nothing. -/
def act (s : Traffic) : Action → Traffic
  | .addBook title => { s with ledger := (s.ledger.addBook title).2 }
  | .addUser username => { s with ledger := (s.ledger.addUser username).2 }
  | .setClock t => { s with clock := t }
  | .begin k => s.keep k { base := s.ledger, began := s.journal.length, draft := s.ledger.draft }
  | .call k p =>
    match s.opened k with
    | some x => if x.doing.isNone then s.keep k { x with doing := some p } else s
    | none => s
  | .advance k =>
    match s.opened k with
    | some x => s.advance k x
    | none => s
  | .commit k =>
    match s.opened k with
    | some x => if x.doing.isNone then s.commit k x else s
    | none => s
  | .rollback k => s.drop k

/-- Has a transaction take all the steps of the procedure it is in the middle of. -/
def carry (k : Nat) : Procedure (List Loan) → Traffic → Traffic
  | .done _, s => s.act (.advance k)
  | .stop _, s => s.act (.advance k)
  | .clock next, s => carry k (next s.clock) (s.act (.advance k))
  | .ask q next, s =>
    match s.opened k with
    | some x =>
      match Work.answer q ⟨x.draft, s.ledger.lastId, 0⟩ with
      | (.ok a, _) => carry k (next a) (s.act (.advance k))
      | (.error _, _) => (s.act (.advance k)).act (.advance k)
    | none => s

/-- Puts a transaction to a procedure and has it take all its steps. -/
def serve (s : Traffic) (k : Nat) (p : Procedure (List Loan)) : Traffic :=
  carry k p (s.act (.call k p))

/-! ## A transaction that nobody disturbs -/

/-- The ledger with a new last id. -/
def taking (s : Traffic) (n : Int) : Traffic :=
  { s with ledger := { s.ledger with lastId := n } }

/-- What becomes of a transaction that carried out a procedure: a result adds to the loans in hand, a refusal is noted,
and an overflow ends it. -/
def ended (s : Traffic) (k : Nat) (x : Transaction) : Except Stop (List Loan) × Work → Traffic
  | (.ok loans, w) =>
    (s.taking w.lastId).keep k { x with draft := w.draft, doing := none, inHand := loans ++ x.inHand }
  | (.error (.refused _), w) => (s.taking w.lastId).keep k { x with draft := w.draft, doing := none, refused := true }
  | (.error (.overflowed _), w) => (s.taking w.lastId).drop k

section

variable {s : Traffic} {k : Nat} {x : Transaction}

@[simp]
theorem keep_opened (k : Nat) (x : Transaction) (j : Nat) :
    (s.keep k x).opened j = if j = k then some x else s.opened j := rfl

@[simp]
theorem drop_opened (k j : Nat) : (s.drop k).opened j = if j = k then none else s.opened j := rfl

/-- A transaction that is kept is open. -/
theorem keep_self (s : Traffic) (k : Nat) (x : Transaction) : (s.keep k x).opened k = some x :=
  if_pos rfl

/-- A transaction at rest that is to commit asks for it. -/
theorem act_commit (hx : s.opened k = some x) (hd : x.doing = none) : s.act (.commit k) = s.commit k x := by
  simp only [act, hx, hd, Option.isNone_none, if_true]

/-- A transaction at rest goes into the journal when nothing stands against its commit. -/
theorem act_commit_ok {l : Ledger} (hx : s.opened k = some x) (hd : x.doing = none)
    (hl : s.ledger.commit x.draft = .ok l) :
    s.act (.commit k) = { s.drop k with ledger := l, journal := s.journal ++ [x] } := by
  rw [act_commit hx hd, commit, hl]

/-- A call changes nothing, or a transaction at rest is put to the procedure. -/
theorem act_call_cases (s : Traffic) (k : Nat) (p : Procedure (List Loan)) :
    s.act (.call k p) = s ∨ ∃ x, s.opened k = some x ∧ x.doing = none ∧
      s.act (.call k p) = s.keep k { x with doing := some p } := by
  simp only [act]
  split
  · rename_i x hx
    split
    · rename_i hd
      exact .inr ⟨x, hx, Option.isNone_iff_eq_none.1 hd, rfl⟩
    · exact .inl rfl
  · exact .inl rfl

/-- A transaction that is asked to commit is not at rest, is dropped, or goes into the journal. -/
theorem act_commit_cases (s : Traffic) (k : Nat) :
    s.act (.commit k) = s ∨ s.act (.commit k) = s.drop k ∨
      ∃ x l, s.opened k = some x ∧ x.doing = none ∧ s.ledger.commit x.draft = .ok l ∧
        s.act (.commit k) = { s.drop k with ledger := l, journal := s.journal ++ [x] } := by
  simp only [act]
  split
  · rename_i x hx
    split
    · rename_i hd
      unfold commit
      split
      · rename_i l hl
        exact .inr (.inr ⟨x, l, hx, Option.isNone_iff_eq_none.1 hd, hl, rfl⟩)
      · exact .inr (.inl rfl)
    · exact .inl rfl
  · exact .inl rfl

/-- Of two transactions kept under a number the last is there. -/
theorem keep_keep (s : Traffic) (k : Nat) (x y : Transaction) : (s.keep k x).keep k y = s.keep k y := by
  simp only [keep, mk.injEq, true_and, and_true]
  funext j
  split <;> rfl

/-- A transaction that was kept and is dropped leaves no trace. -/
theorem drop_keep (s : Traffic) (k : Nat) (x : Transaction) : (s.keep k x).drop k = s.drop k := by
  simp only [keep, drop, mk.injEq, true_and, and_true]
  funext j
  split <;> rfl

/-- Once a transaction has ended its procedure, nothing tells which steps it took on the way. -/
theorem ended_keep (s : Traffic) (k : Nat) (n : Int) (x y : Transaction) (d : Draft) (p : Option (Procedure (List Loan)))
    (r : Except Stop (List Loan) × Work) :
    ((s.taking n).keep k y).ended k { x with draft := d, doing := p } r = s.ended k x r := by
  obtain ⟨why | loans, w⟩ := r
  · cases why with
    | refused why => exact keep_keep (s.taking w.lastId) k y _
    | overflowed what => exact drop_keep (s.taking w.lastId) k y
  · exact keep_keep (s.taking w.lastId) k y _

/-- The answer to a request does not depend on how often the clock was read. -/
theorem answer_readings (q : Request) (d : Draft) (n : Int) (readings : Nat) :
    Work.answer q ⟨d, n, readings⟩ =
      ((Work.answer q ⟨d, n, 0⟩).1, { (Work.answer q ⟨d, n, 0⟩).2 with readings := readings }) := by
  cases q with
  | lockCopy | insertCopy | outstandingTotal =>
    simp only [Work.answer]
    split
    · rfl
    · rfl
  | _ => rfl

/-- A transaction whose procedure stops ends it with what it wrote so far. -/
theorem act_advance_stop {why : Stop} (readings : Nat) (hx : s.opened k = some { x with doing := some (.stop why) }) :
    s.act (.advance k) = s.ended k x (.error why, ⟨x.draft, s.ledger.lastId, readings⟩) := by
  cases why with
  | refused why => simp only [act, hx, advance, ended]; rfl
  | overflowed what => simp only [act, hx, advance, ended]; rfl

section

variable {q : Request} {next : q.Answer → Procedure (List Loan)} {w : Work}

/-- A transaction whose request is answered goes on with the answer. -/
theorem act_advance_ok {a : q.Answer} (hx : s.opened k = some { x with doing := some (.ask q next) })
    (hw : Work.answer q ⟨x.draft, s.ledger.lastId, 0⟩ = (.ok a, w)) : s.act (.advance k) =
      (s.taking w.lastId).keep k { x with draft := w.draft, doing := some (next a) } := by
  simp only [act, hx, advance, hw]
  rfl

/-- A transaction whose request is not answered is about to stop. -/
theorem act_advance_error {why : Stop} (hx : s.opened k = some { x with doing := some (.ask q next) })
    (hw : Work.answer q ⟨x.draft, s.ledger.lastId, 0⟩ = (.error why, w)) : s.act (.advance k) =
      (s.taking w.lastId).keep k { x with draft := w.draft, doing := some (.stop why) } := by
  simp only [act, hx, advance, hw]
  rfl

end

/-- To take all steps of a procedure is to run it on the draft at the present ids and clock. -/
theorem carry_eq (p : Procedure (List Loan)) (readings : Nat) (hx : s.opened k = some { x with doing := some p }) :
    s.carry k p = s.ended k x (p.run (Work.store fun _ => s.clock) ⟨x.draft, s.ledger.lastId, readings⟩) := by
  induction p generalizing s x readings with
  | done loans => simp only [carry, act, hx, advance, Procedure.run, ended]; rfl
  | stop why => exact act_advance_stop readings hx
  | clock next ih =>
    simp only [carry, act, hx, advance]
    rw [ih s.clock (x := x) (readings + 1) (keep_self _ k _)]
    exact ended_keep s k s.ledger.lastId x _ x.draft x.doing _
  | ask q next ih =>
    have hanswer := answer_readings q x.draft s.ledger.lastId readings
    cases hw : Work.answer q ⟨x.draft, s.ledger.lastId, 0⟩ with
    | mk r w =>
      rw [hw] at hanswer
      cases r with
      | ok a =>
        simp only [carry, hx, act_advance_ok hx hw, hw, Procedure.run, Work.store, hanswer]
        rw [ih a (x := { x with draft := w.draft }) readings (keep_self _ k _)]
        exact ended_keep s k w.lastId x _ w.draft x.doing _
      | error why =>
        simp only [carry, hx, act_advance_error hx hw, hw, Procedure.run, Work.store, hanswer]
        rw [act_advance_stop (x := { x with draft := w.draft }) readings (keep_self _ k _)]
        exact ended_keep s k w.lastId x _ w.draft x.doing _

/-- A transaction that nobody disturbs carries out a procedure as the store that its draft is does. -/
theorem serve_eq_run (p : Procedure (List Loan)) (hx : s.opened k = some x) (hd : x.doing = none) :
    s.serve k p = s.ended k x (p.run (Work.store fun _ => s.clock) ⟨x.draft, s.ledger.lastId, 0⟩) := by
  have hcall : s.act (.call k p) = s.keep k { x with doing := some p } := by
    simp only [act, hx, hd, Option.isNone_none, if_true]
  rw [serve, hcall, carry_eq (x := x) p 0 (keep_self _ k _)]
  exact ended_keep s k s.ledger.lastId x _ x.draft x.doing _

end

end Traffic

/-! ## Reachable traffic -/

/-- Which traffic there may be: which procedures a transaction may be put to, given the loans it has in hand; whether a
transaction with a refused call may only be dropped; what the clock may read and whether it never goes back. -/
structure Rules where
  allows : List Loan → Procedure (List Loan) → Prop
  strict : Prop := False
  admits : Instant → Prop := fun _ => True
  steady : Prop := False

namespace Rules

/-- Whether an action keeps the rules. -/
def Permits (rules : Rules) (s : Traffic) : Action → Prop
  | .setClock t => rules.admits t ∧ (rules.steady → s.clock ≤ t)
  | .call k p => ∀ x, s.opened k = some x → rules.allows x.inHand p ∧ (rules.strict → x.refused = false)
  | .commit k => ∀ x, s.opened k = some x → rules.strict → x.refused = false
  | _ => True

end Rules

/-- What actions within the rules lead to, from an empty ledger. -/
inductive Reachable (rules : Rules) : Traffic → Prop where
  | start (t : Instant) : rules.admits t → Reachable rules { clock := t }
  | act {s : Traffic} (a : Action) : Reachable rules s → rules.Permits s a → Reachable rules (s.act a)

/-- What actions within the rules lead to, from a state. -/
inductive Leads (rules : Rules) (s : Traffic) : Traffic → Prop where
  | refl : Leads rules s s
  | act {s' : Traffic} (a : Action) : Leads rules s s' → rules.Permits s' a → Leads rules s (s'.act a)

namespace Leads

variable {rules : Rules} {s s' s'' : Traffic}

theorem trans (h : Leads rules s s') (h' : Leads rules s' s'') : Leads rules s s'' := by
  induction h' with
  | refl => exact h
  | act a _ ha ih => exact ih.act a ha

/-- All the steps of a procedure lead on. -/
theorem carry (h : Leads rules s s') (k : Nat) (p : Procedure (List Loan)) : Leads rules s (s'.carry k p) := by
  induction p generalizing s' with
  | done a => exact h.act (.advance k) trivial
  | stop why => exact h.act (.advance k) trivial
  | clock next ih => exact ih _ (h.act (.advance k) trivial)
  | ask q next ih =>
    unfold Traffic.carry
    split
    · split
      · exact ih _ (h.act (.advance k) trivial)
      · exact (h.act (.advance k) trivial).act (.advance k) trivial
    · exact h

/-- A transaction that may be put to a procedure may carry it out. -/
theorem serve (h : Leads rules s s') {k : Nat} {p : Procedure (List Loan)}
    (hp : ∀ x, s'.opened k = some x → rules.allows x.inHand p)
    (hclean : rules.strict → ∀ x, s'.opened k = some x → x.refused = false) : Leads rules s (s'.serve k p) :=
  (h.act (.call k p) fun x hx => ⟨hp x hx, fun hs => hclean hs x hx⟩).carry k p

/-- A transaction that nothing was refused to may ask to be committed. -/
theorem commit (h : Leads rules s s') (k : Nat)
    (hclean : rules.strict → ∀ x, s'.opened k = some x → x.refused = false) : Leads rules s (s'.act (.commit k)) :=
  h.act (.commit k) fun x hx hs => hclean hs x hx

end Leads

namespace Reachable

variable {rules : Rules} {s s' : Traffic}

/-- What the rules lead on to from what they lead to is reached. -/
theorem leads (h : Reachable rules s) (hl : Leads rules s s') : Reachable rules s' := by
  induction hl with
  | refl => exact h
  | act a _ ha ih => exact ih.act a ha

/-- What strict rules lead to, rules that permit more lead to as well. -/
theorem relax {rules' : Rules} (h : Reachable rules s) (admits : ∀ t, rules.admits t → rules'.admits t)
    (permits : ∀ s a, rules.Permits s a → rules'.Permits s a) : Reachable rules' s := by
  induction h with
  | start t ht => exact .start t (admits t ht)
  | act a _ ha ih => exact ih.act a (permits _ a ha)

/-- A transaction that may be put to a procedure may carry it out. -/
theorem serve (h : Reachable rules s) {k : Nat} {p : Procedure (List Loan)}
    (hp : ∀ x, s.opened k = some x → rules.allows x.inHand p)
    (hclean : rules.strict → ∀ x, s.opened k = some x → x.refused = false) : Reachable rules (s.serve k p) :=
  h.leads (Leads.refl.serve hp hclean)

/-- A transaction that nothing was refused to commits within the rules. -/
theorem commit (h : Reachable rules s) (k : Nat)
    (hclean : rules.strict → ∀ x, s.opened k = some x → x.refused = false) : Reachable rules (s.act (.commit k)) :=
  h.leads (Leads.refl.commit k hclean)

end Reachable

/-- An operation of the desk. -/
inductive Operation where
  | borrow (copyId userId : Int)
  | returnLoan (loanId : Int)
  | returnCopy (copyId : Int)
  | renew (loanId : Int)
  | reserve (copyId userId : Int)
  | cancelReservation (reservationId : Int)
  | addCopy (bookId : Int)
  | addCopies (bookId count : Int)
  | removeCopy (copyId : Int)
  | settleFine (fineId : Int)
  deriving DecidableEq

/-- A procedure of which no loan is kept in hand. -/
def Procedure.quietly {α : Type} (p : Procedure α) : Procedure (List Loan) :=
  p.bind fun _ => .done []

/-- A request for nothing but its answer. -/
def Request.alone (q : Request) : Procedure (List Loan) :=
  (Procedure.request q).quietly

/-- The procedure of an operation. -/
def Operation.procedure (policy : Policy) : Operation → Procedure (List Loan)
  | .borrow copyId userId => (Desk.borrow policy copyId userId).quietly
  | .returnLoan loanId => (Desk.returnLoan policy loanId).quietly
  | .returnCopy copyId => (Desk.returnCopy policy copyId).quietly
  | .renew loanId => (Desk.renew policy loanId).quietly
  | .reserve copyId userId => (Desk.reserve policy copyId userId).quietly
  | .cancelReservation reservationId => (Desk.cancelReservation reservationId).quietly
  | .addCopy bookId => (Desk.addCopy bookId).quietly
  | .addCopies bookId count => (Desk.addCopies bookId count).quietly
  | .removeCopy copyId => (Desk.removeCopy copyId).quietly
  | .settleFine fineId => (Desk.settleFine fineId).quietly

/-- Transactions of desk operations, which may go on and commit after a refusal unless the rules are strict. -/
def Rules.desk (policy : Policy) (strict : Prop := False) : Rules where
  allows _ p := ∃ o : Operation, p = o.procedure policy
  strict := strict

/-- Transactions that ask for anything at all, in any order. -/
def Rules.anything : Rules where
  allows _ _ := True

/-- A transaction may be put to any desk operation, under strict rules while it was refused nothing. -/
theorem Leads.perform {policy : Policy} {strict : Prop} {s s' : Traffic} (h : Leads (Rules.desk policy strict) s s')
    (k : Nat) (o : Operation) (hclean : strict → ∀ x, s'.opened k = some x → x.refused = false) :
    Leads (Rules.desk policy strict) s (s'.serve k (o.procedure policy)) :=
  h.serve (fun _ _ => ⟨o, rfl⟩) hclean

/-- A desk operation may be carried out by any transaction that nothing was refused to. -/
theorem Reachable.perform {policy : Policy} {strict : Prop} {s : Traffic} (h : Reachable (Rules.desk policy strict) s)
    (k : Nat) (o : Operation) (hclean : strict → ∀ x, s.opened k = some x → x.refused = false) :
    Reachable (Rules.desk policy strict) (s.serve k (o.procedure policy)) :=
  h.leads (Leads.refl.perform k o hclean)

end Circulation
