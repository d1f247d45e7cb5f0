import Circulation.Proofs.Answers
import Circulation.Proofs.Chronicle
import Circulation.Proofs.History
import Circulation.Proofs.UnderLock

/-!
# Loans within their terms

Every borrowing and every renewal moves a due date on by a day or more, so a loan counts no more renewals than days from
the first instant there is, or the first one the clock may read. `Procedure.Upholds` follows a procedure through all
answers it may get: shown only loans within their terms, it writes only such loans. Then all loans are, committed, in a
draft in the middle of its work or in hand (`Traffic.WithinTerms`, `Reachable.withinTerms`), and the count of renewals
never comes near the end of its range (`renewals_never_wrap`).
-/

namespace Circulation

namespace Request

/-- Whether the loans that a request writes are within their terms. -/
def Offers (floor : Int) : Request → Prop
  | .insertLoan loan => ∀ id, (loan.toRow id).WithinTerms floor
  | .updateLoan loan _ => loan.WithinTerms floor
  | _ => True

/-- Whether the one loan that a request is answered with, if any, is within its terms. -/
def Shows (floor : Int) : (q : Request) → q.Answer → Prop
  | .getLoan _, found => ∀ l ∈ found, l.WithinTerms floor
  | .activeLoan _, found => ∀ l ∈ found, l.WithinTerms floor
  | .insertLoan _, l => l.WithinTerms floor
  | _, _ => True

/-- What only reads writes no loan. -/
theorem Reads.offers {floor : Int} {q : Request} (h : q.Reads) : q.Offers floor := by
  cases q with
  | insertLoan | updateLoan => nomatch h.1
  | _ => trivial

end Request

namespace Work

variable {floor : Int} {q : Request} {w w' : Work}

/-- No request but an opening and an update of a loan writes a loan. -/
theorem loans_of_answer (q : Request) (w : Work) (hinsert : ∀ n, q ≠ .insertLoan n) (hupdate : ∀ l n, q ≠ .updateLoan l n) :
    (answer q w).2.draft.tables.loans = w.draft.tables.loans := by
  cases q with
  | insertLoan n => exact absurd rfl (hinsert n)
  | updateLoan l n => exact absurd rfl (hupdate l n)
  | lockCopy | insertCopy | outstandingTotal =>
    simp only [answer]
    split
    · rfl
    · rfl
  | moveCopy | withdrawCopy =>
    simp only [answer, write, Draft.moveCopy, Draft.withdrawCopy, Draft.changeCopy]
    split
    · split
      · rfl
      · rfl
    · rfl
  | moveReservation =>
    simp only [answer, write, Draft.moveReservation]
    split
    · split
      · rfl
      · rfl
    · rfl
  | settleFine =>
    simp only [answer, write, Draft.settleFine]
    split
    · split
      · rfl
      · rfl
    · rfl
  | _ => rfl

/-- Requests that offer only loans within their terms leave, and are shown, only such loans. -/
theorem answer_withinTerms {a : Except Stop q.Answer} (h : answer q w = (a, w'))
    (hw : w.draft.tables.loans.All (·.WithinTerms floor)) (hq : q.Offers floor) :
    w'.draft.tables.loans.All (·.WithinTerms floor) ∧ ∀ b, a = .ok b → q.Shows floor b := by
  have hsame := loans_of_answer q w
  rw [h] at hsame
  cases q with
  | getLoan id =>
    cases h
    refine ⟨hw, ?_⟩
    rintro _ ⟨⟩ l hl
    exact hw id l hl
  | activeLoan copyId =>
    cases h
    refine ⟨hw, ?_⟩
    rintro _ ⟨⟩ l hl
    obtain ⟨⟨id, hrow⟩, -⟩ := Table.get?_of_find?_rows hl
    exact hw id l hrow
  | insertLoan n =>
    cases h
    refine ⟨hw.insert (hq _), ?_⟩
    rintro _ ⟨⟩
    exact hq _
  | updateLoan l expected =>
    have hdraft : w'.draft = (w.draft.updateLoan l expected).2 := (congrArg (fun r => r.2.draft) h).symm
    refine ⟨?_, fun _ _ => trivial⟩
    rw [hdraft, Draft.updateLoan]
    split
    · split
      · exact hw.insert ⟨hq.count, hq.days⟩
      · exact hw
    · exact hw
  | _ =>
    refine ⟨?_, fun _ _ => trivial⟩
    have htable := hsame (by rintro n ⟨⟩) (by rintro l n ⟨⟩)
    exact htable ▸ hw

end Work

namespace Procedure

variable {α β : Type} {rules : Rules} {floor : Int}

/-- Whether a procedure, on a clock that reads what it may and shown only loans within their terms, writes only such loans,
and ends as it should if it ends with a result. -/
def Upholds (rules : Rules) (floor : Int) (Q : α → Prop) : Procedure α → Prop
  | .done a => Q a
  | .stop _ => True
  | .clock next => ∀ t, rules.admits t → (next t).Upholds rules floor Q
  | .ask q next => q.Offers floor ∧ ∀ a, q.Shows floor a → (next a).Upholds rules floor Q

variable {Q : α → Prop}

theorem Upholds.mono {p : Procedure α} {Q' : α → Prop} (h : p.Upholds rules floor Q) (hQ : ∀ a, Q a → Q' a) :
    p.Upholds rules floor Q' := by
  induction p with
  | done a => exact hQ a h
  | stop why => trivial
  | clock next ih => exact fun t ht => ih t (h t ht)
  | ask q next ih => exact ⟨h.1, fun a ha => ih a (h.2 a ha)⟩

/-- A procedure upholds the terms with what follows on its result. -/
theorem Upholds.bind {p : Procedure α} {f : α → Procedure β} {Q' : β → Prop} (h : p.Upholds rules floor Q)
    (hf : ∀ a, Q a → (f a).Upholds rules floor Q') : (p.bind f).Upholds rules floor Q' := by
  induction p with
  | done a => exact hf a h
  | stop why => trivial
  | clock next ih => exact fun t ht => ih t (h t ht)
  | ask q next ih => exact ⟨h.1, fun a ha => ih a (h.2 a ha)⟩

/-- What is read from the clock is an instant that may be read. -/
theorem upholds_now : now.Upholds rules floor rules.admits :=
  fun _ ht => ht

/-- A request upholds the terms when the loans it writes are within them. -/
theorem upholds_request {q : Request} (h : q.Offers floor) : (request q).Upholds rules floor (q.Shows floor) :=
  ⟨h, fun _ ha => ha⟩

/-- Arithmetic writes no loan. -/
theorem upholds_checked (e : Except Overflow α) : (checked e).Upholds rules floor (e = .ok ·) := by
  cases e with
  | ok a => rfl
  | error what => trivial

/-- Requiring something writes no loan. -/
theorem upholds_require (o : Option α) (why : Refusal) : (require o why).Upholds rules floor (o = some ·) := by
  cases o with
  | some a => rfl
  | none => trivial

/-- Ensuring something writes no loan. -/
theorem upholds_ensure (condition : Bool) (why : Refusal) : (ensure condition why).Upholds rules floor fun _ => True := by
  cases condition with
  | false => trivial
  | true => trivial

/-- A procedure that keeps to requests that write no loan. -/
theorem KeepsTo.upholds {R : Request → Prop} {p : Procedure α} (h : p.KeepsTo R) (hR : ∀ q, R q → q.Offers floor) :
    p.Upholds rules floor fun _ => True := by
  induction p with
  | done a => trivial
  | stop why => trivial
  | clock next ih => exact fun t _ => ih t (h t)
  | ask q next ih => exact ⟨hR q h.1, fun a _ => ih a (h.2 a).1⟩

end Procedure

open Procedure

/-! ## What the desk does -/

section

variable {rules : Rules} {policy : Policy} {floor : Int} {c : Copy} {l : Loan}

namespace Lending

/-- A loan that is got is within its terms. -/
theorem get_upholds (id : Int) : (get id).Upholds rules floor (·.WithinTerms floor) :=
  .bind (upholds_request trivial) fun _ hfound => (upholds_require _ _).mono hfound

/-- A loan that is lent is within its terms. -/
theorem lend_upholds (hvalid : policy.isValid = true) (hfloor : ∀ t, rules.admits t → floor ≤ t.second) (userId : Int) :
    (lend policy c userId).Upholds rules floor (·.WithinTerms floor) := by
  simp only [lend, bind_eq, pure_eq]
  refine .bind upholds_now fun t ht => .bind (upholds_checked _) fun period hp => ?_
  refine .bind (upholds_checked _) fun due hd => ?_
  have hterms (id : Int) : (NewLoan.toRow ⟨c.id, c.bookId, userId, t, due⟩ id).WithinTerms floor := by
    have hday := Policy.one_le_loanPeriodDays hvalid
    have hsecond := Instant.second_of_after hp hday hd
    have hle := hfloor t ht
    constructor
    · exact Int.le_refl 0
    · show floor + 86_400 * (0 + 1) ≤ due.second
      omega
  exact .bind (upholds_request hterms) fun l hl => .bind (upholds_request trivial) fun _ _ => hl

/-- A loan within its terms may be written. -/
theorem write_upholds {written : Loan} (h : written.WithinTerms floor) (expected : Int) :
    (write written expected).Upholds rules floor fun _ => True :=
  .bind (upholds_request h) fun _ _ => upholds_ensure _ _

/-- A charge writes no loan. -/
theorem charge_upholds (l : Loan) (t : Instant) : (Charges.charge policy l t).Upholds rules floor fun _ => True := by
  simp only [Charges.charge, bind_eq, pure_eq]
  refine .bind (upholds_checked _) fun charge _ => ?_
  cases charge with
  | none => trivial
  | some amount => exact .bind (upholds_request trivial) fun _ _ => trivial

/-- A loan within its terms stays so when it is taken back. -/
theorem takeBack_upholds (h : l.WithinTerms floor) :
    (takeBack policy l).Upholds rules floor (·.WithinTerms floor) := by
  simp only [takeBack, bind_eq, pure_eq]
  refine .bind (upholds_ensure _ _) fun _ _ => .bind upholds_now fun t _ => .bind (charge_upholds l t) fun _ _ => ?_
  have hclosed : (l.closed t).WithinTerms floor := ⟨h.count, h.days⟩
  exact .bind (write_upholds hclosed _) fun _ _ => .bind (upholds_request trivial) fun _ _ => hclosed

/-- A loan within its terms stays so when it is renewed, which moves its due date on by a day or more. -/
theorem renew_upholds (hvalid : policy.isValid = true) (hfirst : -8_334_601_228_800 ≤ floor) (h : l.WithinTerms floor) :
    (renew policy l).Upholds rules floor (·.WithinTerms floor) := by
  simp only [renew, bind_eq, pure_eq]
  have hrenewable : (ensureRenewable policy l).KeepsTo fun _ => False := ensureRenewable_keepsTo policy l
  refine .bind (upholds_ensure _ _) fun _ _ => .bind (hrenewable.upholds fun _ hq => hq.elim) fun _ _ => ?_
  refine .bind upholds_now fun t _ => .bind (upholds_checked _) fun period hp => ?_
  refine .bind (upholds_checked _) fun due hd => ?_
  have hextended : (l.extended due t).WithinTerms floor := h.extended hfirst hvalid hp hd t
  exact .bind (write_upholds hextended _) fun _ _ => .bind (upholds_request trivial) fun _ _ => hextended

end Lending

/-- Getting a reservation writes no loan. -/
theorem Holds.get_upholds (id : Int) : (get id).Upholds rules floor fun _ => True :=
  .bind (upholds_request trivial) fun _ _ => (upholds_require _ _).mono fun _ _ => trivial

/-- Fulfilling a hold writes no loan. -/
theorem Holds.fulfil_upholds (r : Reservation) : (fulfil r).Upholds rules floor fun _ => True := by
  simp only [fulfil, bind_eq, pure_eq]
  refine .bind (upholds_ensure _ _) fun _ _ => .bind upholds_now fun t _ => ?_
  exact .bind (upholds_request trivial) fun _ _ => .bind (upholds_ensure _ _) fun _ _ => trivial

/-- Placing a reservation writes no loan. -/
theorem Holds.place_upholds (userId : Int) : (place policy c userId).Upholds rules floor fun _ => True := by
  simp only [place, bind_eq]
  refine .bind upholds_now fun t _ => .bind (upholds_checked _) fun period _ => ?_
  exact .bind (upholds_checked _) fun expiry _ => ⟨trivial, fun _ _ => trivial⟩

/-- Settling a fine writes no loan. -/
theorem Charges.settle_upholds (fineId : Int) : (settle fineId).Upholds rules floor fun _ => True := by
  simp only [settle, get, bind_eq, pure_eq, Procedure.bind_assoc]
  refine .bind (upholds_request trivial) fun _ _ => .bind (upholds_require _ _) fun f _ => ?_
  refine .bind (upholds_ensure _ _) fun _ _ => .bind upholds_now fun t _ => ?_
  exact .bind (upholds_request trivial) fun _ _ => .bind (upholds_ensure _ _) fun _ _ => trivial

namespace Desk

/-- Locking a copy writes no loan. -/
theorem lockCopy_upholds (copyId : Int) : (lockCopy copyId).Upholds rules floor fun _ => True :=
  .bind (upholds_request trivial) fun _ _ => (upholds_require _ _).mono fun _ _ => trivial

/-- Moving a copy writes no loan. -/
theorem moveCopy_upholds (status : CopyStatus) : (moveCopy c status).Upholds rules floor fun _ => True :=
  .bind upholds_now fun _ _ => .bind (upholds_request trivial) fun _ _ => upholds_ensure _ _

/-- Looking at the shelf writes no loan. -/
theorem ensureAvailable_upholds : (ensureAvailable c).Upholds rules floor fun _ => True := by
  unfold ensureAvailable
  split
  · trivial
  · trivial
  · trivial

/-- Making a copy ready writes no loan. -/
theorem releaseTo_upholds (userId : Int) : (releaseTo userId c).Upholds rules floor fun _ => True := by
  simp only [releaseTo, bind_eq, pure_eq]
  split
  · trivial
  · refine .bind (upholds_request trivial) fun _ _ => .bind (upholds_require _ _) fun own _ => ?_
    exact .bind (Holds.fulfil_upholds own) fun _ _ => trivial
  · trivial

/-- A loan that is read to lock its copy is within its terms. -/
theorem lockLoan_upholds (loanId : Int) : (lockLoan loanId).Upholds rules floor (·.2.WithinTerms floor) := by
  simp only [lockLoan, bind_eq, pure_eq]
  refine .bind (Lending.get_upholds loanId) fun l₀ _ => .bind (lockCopy_upholds _) fun c _ => ?_
  exact .bind (Lending.get_upholds loanId) fun l hl => hl

/-- A loan within its terms stays so when it is closed at the desk. -/
theorem closeLoan_upholds (h : l.WithinTerms floor) : (closeLoan policy c l).Upholds rules floor fun _ => True := by
  simp only [closeLoan, bind_eq, pure_eq]
  refine .bind (upholds_ensure _ _) fun _ _ => .bind (Lending.takeBack_upholds h) fun _ _ => ?_
  exact .bind (moveCopy_upholds _) fun _ _ => trivial

/-- Looking up a title writes no loan. -/
theorem ensureBook_upholds (bookId : Int) : (ensureBook bookId).Upholds rules floor fun _ => True :=
  .bind (upholds_request trivial) fun _ _ => upholds_ensure _ _

/-- Inserting copies writes no loan. -/
theorem insertCopies_upholds (bookId : Int) (t : Instant) (n : Nat) :
    (insertCopies bookId t n).Upholds rules floor fun _ => True := by
  induction n with
  | zero => trivial
  | succ n ih => exact .bind (upholds_request trivial) fun _ _ => .bind ih fun _ _ => trivial

end Desk

/-- The operations of the desk write only loans within their terms. -/
theorem Operation.upholds (hvalid : policy.isValid = true) (hfirst : -8_334_601_228_800 ≤ floor)
    (hfloor : ∀ t, rules.admits t → floor ≤ t.second) (o : Operation) :
    (o.procedure policy).Upholds rules floor fun loans => ∀ l ∈ loans, l.WithinTerms floor := by
  have quietly {α : Type} {p : Procedure α} (h : p.Upholds rules floor fun _ => True) :
      p.quietly.Upholds rules floor fun loans => ∀ l ∈ loans, l.WithinTerms floor :=
    h.bind fun _ _ l hl => nomatch hl
  have limited {p : Procedure Unit} (h : p.KeepsTo Request.Reads) : p.Upholds rules floor fun _ => True :=
    h.upholds fun _ hq => hq.offers
  cases o with
  | borrow copyId userId =>
    refine quietly (.bind (Desk.lockCopy_upholds copyId) fun c _ => ?_)
    refine .bind (limited (Limits.ensureMayBorrow_keepsTo policy userId c.bookId)) fun _ _ => ?_
    refine .bind (Desk.releaseTo_upholds userId) fun _ _ => .bind (Lending.lend_upholds hvalid hfloor userId) fun _ _ => ?_
    exact .bind (Desk.moveCopy_upholds _) fun _ _ => trivial
  | returnLoan loanId => exact quietly (.bind (Desk.lockLoan_upholds loanId) fun _ hl => Desk.closeLoan_upholds hl)
  | returnCopy copyId =>
    refine quietly (.bind (Desk.lockCopy_upholds copyId) fun c _ => .bind (upholds_request trivial) fun _ hfound => ?_)
    exact .bind (upholds_require _ _) fun l hl => Desk.closeLoan_upholds (hfound l hl)
  | renew loanId =>
    refine quietly (.bind (Desk.lockLoan_upholds loanId) fun _ hl => .bind (upholds_ensure _ _) fun _ _ => ?_)
    exact (Lending.renew_upholds hvalid hfirst hl).mono fun _ _ => trivial
  | reserve copyId userId =>
    refine quietly (.bind (Desk.lockCopy_upholds copyId) fun c _ => ?_)
    refine .bind Desk.ensureAvailable_upholds fun _ _ => ?_
    refine .bind (limited (Limits.ensureMayReserve_keepsTo policy userId c.bookId)) fun _ _ => ?_
    exact .bind (Holds.place_upholds userId) fun _ _ => .bind (Desk.moveCopy_upholds _) fun _ _ => trivial
  | cancelReservation reservationId =>
    refine quietly (.bind (Holds.get_upholds reservationId) fun r _ => ?_)
    refine .bind (Desk.lockCopy_upholds _) fun c _ => .bind (upholds_ensure _ _) fun _ _ => ?_
    exact .bind (Holds.fulfil_upholds r) fun _ _ => .bind (Desk.moveCopy_upholds _) fun _ _ => trivial
  | addCopy bookId =>
    refine quietly (.bind (Desk.ensureBook_upholds bookId) fun _ _ => .bind upholds_now fun t _ => ?_)
    exact ⟨trivial, fun _ _ => trivial⟩
  | addCopies bookId count =>
    refine quietly (.bind (upholds_ensure _ _) fun _ _ => .bind (Desk.ensureBook_upholds bookId) fun _ _ => ?_)
    exact .bind upholds_now fun t _ => Desk.insertCopies_upholds bookId t _
  | removeCopy copyId =>
    refine quietly (.bind (Desk.lockCopy_upholds copyId) fun c _ => ?_)
    refine .bind Desk.ensureAvailable_upholds fun _ _ => .bind upholds_now fun t _ => ?_
    exact .bind (upholds_request trivial) fun _ _ => .bind (upholds_ensure _ _) fun _ _ => trivial
  | settleFine fineId => exact quietly (Charges.settle_upholds fineId)

end

/-! ## Traffic -/

/-- Whether a transaction has only loans within their terms, and will write no others. -/
structure Transaction.WithinTerms (rules : Rules) (floor : Int) (x : Transaction) : Prop where
  draft : x.draft.tables.loans.All (·.WithinTerms floor)
  inHand : ∀ l ∈ x.inHand, l.WithinTerms floor
  doing : ∀ p, x.doing = some p → p.Upholds rules floor fun loans => ∀ l ∈ loans, l.WithinTerms floor

/-- Whether the loans of the ledger and of all open transactions are within their terms. -/
structure Traffic.WithinTerms (rules : Rules) (floor : Int) (s : Traffic) : Prop where
  admits : rules.admits s.clock
  committed : s.ledger.tables.loans.All (·.WithinTerms floor)
  opened : ∀ k x, s.opened k = some x → x.WithinTerms rules floor

namespace Traffic.WithinTerms

variable {rules : Rules} {floor : Int} {s : Traffic} {k : Nat} {x : Transaction}

/-- Loans stay within their terms when a transaction is kept that is within them. -/
theorem keep (h : s.WithinTerms rules floor) (hx : x.WithinTerms rules floor) :
    (s.keep k x).WithinTerms rules floor := by
  refine ⟨h.admits, h.committed, fun j y hy => ?_⟩
  rw [keep_opened] at hy
  split at hy
  · cases hy
    exact hx
  · exact h.opened j y hy

/-- Loans stay within their terms when a transaction is dropped. -/
theorem drop (h : s.WithinTerms rules floor) : (s.drop k).WithinTerms rules floor := by
  refine ⟨h.admits, h.committed, fun j y hy => ?_⟩
  rw [drop_opened] at hy
  split at hy
  · cases hy
  · exact h.opened j y hy

theorem taking (h : s.WithinTerms rules floor) (n : Int) : (s.taking n).WithinTerms rules floor :=
  ⟨h.admits, h.committed, h.opened⟩

/-- One step of a procedure keeps all loans within their terms. -/
theorem advance (h : s.WithinTerms rules floor) (hx : s.opened k = some x) :
    (s.advance k x).WithinTerms rules floor := by
  have hopen := h.opened k x hx
  unfold Traffic.advance
  split
  · exact h
  · rename_i loans hp
    refine h.keep ⟨hopen.draft, fun l hl => ?_, fun p hp => (nomatch hp)⟩
    exact (List.mem_append.1 hl).elim (hopen.doing _ hp l) (hopen.inHand l)
  · exact h.keep ⟨hopen.draft, hopen.inHand, fun p hp => (nomatch hp)⟩
  · exact h.drop
  · rename_i next hp
    refine h.keep ⟨hopen.draft, hopen.inHand, ?_⟩
    rintro _ ⟨⟩
    exact hopen.doing _ hp s.clock h.admits
  · rename_i q next hp
    obtain ⟨hoffers, hnext⟩ := hopen.doing _ hp
    split
    · rename_i a w hw
      obtain ⟨hdraft, hshown⟩ := Work.answer_withinTerms hw hopen.draft hoffers
      refine (h.taking w.lastId).keep ⟨hdraft, hopen.inHand, ?_⟩
      rintro _ ⟨⟩
      exact hnext a (hshown a rfl)
    · rename_i why w hw
      refine (h.taking w.lastId).keep ⟨(Work.answer_withinTerms hw hopen.draft hoffers).1, hopen.inHand, ?_⟩
      rintro _ ⟨⟩
      trivial

/-- An action within rules that allow only procedures that write loans within their terms. -/
theorem act (h : s.WithinTerms rules floor) (hs : s.Sound)
    (hallows : ∀ hand p, rules.allows hand p → (∀ l ∈ hand, l.WithinTerms floor) →
      p.Upholds rules floor fun loans => ∀ l ∈ loans, l.WithinTerms floor)
    {a : Action} (ha : rules.Permits s a) : (s.act a).WithinTerms rules floor := by
  cases a with
  | addBook title => exact ⟨h.admits, h.committed, h.opened⟩
  | addUser username => exact ⟨h.admits, h.committed, h.opened⟩
  | setClock t => exact ⟨ha.1, h.committed, h.opened⟩
  | begin k => exact h.keep ⟨h.committed, fun l hl => (nomatch hl), fun p hp => (nomatch hp)⟩
  | call k p =>
    rcases s.act_call_cases k p with he | ⟨x, hx, -, he⟩
    · rw [he]
      exact h
    · have hopen := h.opened k x hx
      rw [he]
      refine h.keep ⟨hopen.draft, hopen.inHand, ?_⟩
      rintro _ ⟨⟩
      exact hallows x.inHand p (ha x hx).1 hopen.inHand
  | advance k =>
    simp only [Traffic.act]
    split
    · rename_i x hx
      exact h.advance hx
    · exact h
  | commit k =>
    rcases s.act_commit_cases k with he | he | ⟨x, l, hx, -, hl, he⟩
    · rw [he]
      exact h
    · rw [he]
      exact h.drop
    · rw [he]
      refine ⟨h.admits, fun id row hrow => ?_, h.drop.opened⟩
      have hrow := ((hs.committing hx hl).loans id).symm.trans hrow
      split at hrow
      · exact (h.opened k x hx).draft id row hrow
      · exact h.committed id row hrow
  | rollback k => exact h.drop

end Traffic.WithinTerms

/-- Transactions of desk operations and of direct renewals and returns of loans that were read before, under a clock that
reads only some instants. They may go on after a refusal unless the rules are strict. -/
def Rules.service (policy : Policy) (strict steady : Prop) (admits : Instant → Prop) : Rules :=
  { Rules.counter policy steady with strict := strict, admits := admits }

/-- All loans are within their terms in every state that the desk and direct renewals and returns lead to. -/
theorem Reachable.withinTerms {policy : Policy} {strict steady : Prop} {admits : Instant → Prop} {s : Traffic} {floor : Int}
    (hvalid : policy.isValid = true) (hfirst : -8_334_601_228_800 ≤ floor) (hfloor : ∀ t, admits t → floor ≤ t.second)
    (h : Reachable (Rules.service policy strict steady admits) s) :
    s.WithinTerms (Rules.service policy strict steady admits) floor := by
  have hallows : ∀ hand p, (Rules.service policy strict steady admits).allows hand p →
      (∀ l ∈ hand, l.WithinTerms floor) →
      p.Upholds (Rules.service policy strict steady admits) floor fun loans => ∀ l ∈ loans, l.WithinTerms floor := by
    rintro hand p (⟨o, rfl⟩ | ⟨id, rfl⟩ | ⟨l, hl, rfl | rfl⟩) hhand
    · exact o.upholds hvalid hfirst hfloor
    · exact (Lending.get_upholds id).bind fun l hl l' hl' => List.mem_singleton.1 hl' ▸ hl
    · exact (Lending.renew_upholds hvalid hfirst (hhand l hl)).bind fun _ _ l' hl' => nomatch hl'
    · exact (Lending.takeBack_upholds (hhand l hl)).bind fun _ _ l' hl' => nomatch hl'
  induction h with
  | start t ht => exact ⟨ht, fun _ _ hrow => (nomatch hrow), fun _ _ hx => (nomatch hx)⟩
  | act a hr ha ih => exact ih.act hr.sound hallows ha

/-! ## Renewals -/

/-- Whether a loan is committed, or in the draft or in the hand of an open transaction. -/
def Traffic.Sees (s : Traffic) (l : Loan) : Prop :=
  (∃ id, s.ledger.tables.loans.get? id = some l) ∨
    ∃ k x, s.opened k = some x ∧ (l ∈ x.inHand ∨ ∃ id, x.draft.tables.loans.get? id = some l)

/-- A loan that is seen in such traffic is within its terms. -/
theorem Traffic.WithinTerms.of_sees {rules : Rules} {floor : Int} {s : Traffic} {l : Loan}
    (h : s.WithinTerms rules floor) (hl : s.Sees l) : l.WithinTerms floor := by
  rcases hl with ⟨id, hrow⟩ | ⟨k, x, hx, hhand | ⟨id, hrow⟩⟩
  · exact h.committed id l hrow
  · exact (h.opened k x hx).inHand l hhand
  · exact (h.opened k x hx).draft id l hrow

/-- After so many renewals there is no later due date left. -/
theorem Loan.WithinTerms.exhausted {policy : Policy} {floor : Int} {l : Loan} (h : l.WithinTerms floor)
    (hfirst : -8_334_601_228_800 ≤ floor) (hvalid : policy.isValid = true) (hcount : l.renewCount = 191_491_527) :
    ∃ what, policy.renewalPeriod.bind l.dueDate.after = .error what := by
  cases hp : policy.renewalPeriod with
  | error what => exact ⟨what, rfl⟩
  | ok period =>
    cases hd : l.dueDate.after period with
    | error what => exact ⟨what, hd⟩
    | ok due =>
      have hday := Policy.one_le_renewalPeriodDays hvalid
      have hsecond := Instant.second_of_after hp hday hd
      have hdays := h.days
      have hlast := due.le_last
      omega

namespace Lending

variable {policy : Policy} {l : Loan}

/-- A renewal that ends with a result, on whatever store, has the next count. -/
theorem renewCount_of_renew {σ : Type} {store : Store σ} {s s' : σ} {renewed : Loan}
    (h : (renew policy l).run store s = (.ok renewed, s')) : renewed.renewCount = l.nextRenewCount := by
  obtain ⟨hsame, -⟩ := run_noting store (renew policy l) s []
  rcases hrun : (renew policy l).run store.noting (s, []) with ⟨r, t, ds⟩
  rw [hrun, h] at hsame
  obtain rfl : r = .ok renewed := hsame
  obtain ⟨es, -, hdoes⟩ := does_of_run hrun
  have htells := does_ok_iff.1 hdoes
  simp only [renew, bind_eq, pure_eq] at htells
  obtain ⟨_, _, _, -, -, htells⟩ := tells_bind.1 htells
  obtain ⟨_, _, _, -, -, htells⟩ := tells_bind.1 htells
  obtain ⟨_, _, t, -, -, htells⟩ := tells_bind.1 htells
  obtain ⟨_, _, period, -, -, htells⟩ := tells_bind.1 htells
  obtain ⟨_, _, due, -, -, htells⟩ := tells_bind.1 htells
  obtain ⟨_, _, _, -, -, htells⟩ := tells_bind.1 htells
  obtain ⟨_, _, row, -, -, -, rfl⟩ := tells_bind.1 htells
  rfl

/-- A renewal without a due date to move to ends in a stop and writes nothing. -/
theorem renew_without_due {what : Overflow} {timeline : Nat → Instant} (w : Work)
    (h : policy.renewalPeriod.bind l.dueDate.after = .error what) :
    ∃ why w', (renew policy l).run (Work.store timeline) w = (.error why, w') ∧ w'.draft = w.draft := by
  obtain ⟨d, n, i⟩ := w
  have hstops : (renew policy l).Concludes timeline (fun _ _ => False) (fun _ w' => w'.draft = d) ⟨d, n, i⟩ := by
    simp only [renew, bind_eq, pure_eq, concludes_bind]
    refine concludes_ensure.2 ⟨fun _ => ensureRenewable_concludes (fun _ _ => rfl) fun _ => ?_, fun _ => rfl⟩
    refine concludes_now.2 (concludes_checked.2 ⟨fun period hp => ?_, fun _ _ => rfl⟩)
    refine concludes_checked.2 ⟨fun due hd => ?_, fun _ _ => rfl⟩
    rw [hp] at h
    cases hd.symm.trans h
  have hrun := hstops.run
  rcases hend : (renew policy l).run (Work.store timeline) ⟨d, n, i⟩ with ⟨why | renewed, w'⟩
  · rw [hend] at hrun
    exact ⟨why, w', rfl, hrun⟩
  · rw [hend] at hrun
    exact hrun.elim

end Lending

/-- In every state that the desk and direct renewals and returns lead to, however far transactions have come, no loan is
anywhere near as many renewals as its count could hold: one more is counted as one more, and after 191491527 of them the
due date cannot be moved on, which stops a renewal before it writes anything. -/
theorem renewals_never_wrap {policy : Policy} {strict steady : Prop} {admits : Instant → Prop} {s : Traffic} {l : Loan}
    (hvalid : policy.isValid = true) (h : Reachable (Rules.service policy strict steady admits) s) (hl : s.Sees l) :
    0 ≤ l.renewCount ∧ l.renewCount < 2_147_483_647 ∧
    (∀ (σ : Type) (store : Store σ) (w w' : σ) (renewed : Loan),
      (Lending.renew policy l).run store w = (.ok renewed, w') → renewed.renewCount = l.renewCount + 1) ∧
    l.renewCount ≤ 191_491_527 ∧
    (l.renewCount = 191_491_527 → ∀ timeline w, ∃ why w',
      (Lending.renew policy l).run (Work.store timeline) w = (.error why, w') ∧ w'.draft = w.draft) := by
  have hterms := (h.withinTerms hvalid (Int.le_refl _) fun t _ => t.first_le).of_sees hl
  have hbound := hterms.renewCount_le (Int.le_refl _)
  refine ⟨hterms.count, by omega, fun σ store w w' renewed hrun => ?_, hbound, fun hcount timeline w => ?_⟩
  · rw [Lending.renewCount_of_renew hrun, hterms.nextRenewCount (Int.le_refl _)]
  · obtain ⟨what, hwhat⟩ := hterms.exhausted (Int.le_refl _) hvalid hcount
    exact Lending.renew_without_due w hwhat

/-- A loan that was renewed once would count two renewals after another. -/
theorem lastLoan_renewed_again : lastLoan.renewCount = 1 ∧ lastLoan.renewCount < 2_147_483_647 ∧
    (∀ (σ : Type) (store : Store σ) (w w' : σ) (renewed : Loan),
      (Lending.renew {} lastLoan).run store w = (.ok renewed, w') → renewed.renewCount = lastLoan.renewCount + 1) ∧
    lastLoan.renewCount ≤ 191_491_527 :=
  have hreach : Reachable (Rules.service {} True True fun _ => True) renewedAndReturned := renewedAndReturned_reachable
  have bounds := renewals_never_wrap (by decide) hreach (.inl ⟨4, (Option.some_get _).symm⟩)
  ⟨by decide +kernel, bounds.2.1, bounds.2.2.1, bounds.2.2.2.1⟩

end Circulation
