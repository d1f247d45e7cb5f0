import Circulation.Proofs.Draft
import Circulation.Proofs.Ensures

/-!
# Moves

What an operation of the desk does to a draft when it goes through. `Move` has a case for each: what it found, what it
wrote, and under which new ids. A `Move` is made under a lock it already has, so an operation is a lock followed by a
move, and one that is refused is a lock at most; `Moves` is any number of them. Loans are opened, extended and closed the
same way whether or not the copy is locked, so `Opened`, `Renewed` and `Returned` stand by themselves.
-/

namespace Circulation

/-- Whether an instant was read from the clock between two moments. -/
def Rules.Reads (rules : Rules) (m : Moment) (t : Instant) (m' : Moment) : Prop :=
  ∃ m₀, rules.Later m m₀ ∧ rules.Later m₀ m' ∧ m₀.clock = t

theorem Rules.Reads.later {rules : Rules} {m m' : Moment} {t : Instant} (h : rules.Reads m t m') : rules.Later m m' := by
  obtain ⟨m₀, h₀, h₁, -⟩ := h
  exact h₀.trans h₁

/-- Only what is admitted is read. -/
theorem Rules.Reads.admits {rules : Rules} {m m' : Moment} {t : Instant} (h : rules.Reads m t m') : rules.admits t := by
  obtain ⟨m₀, h₀, -, rfl⟩ := h
  exact h₀.admits

/-- The loan with a new due date and one renewal more. -/
def Loan.extended (l : Loan) (due t : Instant) : Loan :=
  { l with dueDate := due, renewCount := l.nextRenewCount, updatedAt := t }

/-- The loan closed at an instant. -/
def Loan.closed (l : Loan) (t : Instant) : Loan :=
  { l with status := .returned, returnDate := some t, updatedAt := t }

namespace Draft

/-- Whether a draft has a row for a copy that is not withdrawn, and holds the lock on it. -/
structure Holding (d : Draft) (c : Copy) : Prop where
  row : d.tables.copies.get? c.id = some c
  live : c.isDeleted = false
  locked : d.locked.contains c.id = true

/-- The draft with a loan and a new entry of its history. -/
def record (d : Draft) (l : Loan) (e : LoanEntry) : Draft :=
  (d.putLoan l l.id).putEntry e e.id

/-- The draft with a copy moved to a status. -/
def moved (d : Draft) (c : Copy) (status : CopyStatus) (t : Instant) : Draft :=
  d.putCopy { c with status := status, updatedAt := t } c.id

/-- The draft with a reservation fulfilled. -/
def fulfilled (d : Draft) (r : Reservation) (t : Instant) : Draft :=
  d.putReservation { r with status := .fulfilled, updatedAt := t } r.id

/-- The draft with a fine settled. -/
def settling (d : Draft) (f : Fine) (t : Instant) : Draft :=
  { d.putFine { f with settled := true, updatedAt := t } f.id with settled := d.settled.add f.id }

section

variable (d : Draft) (l : Loan) (e : LoanEntry) (c : Copy) (r : Reservation) (status : CopyStatus) (t : Instant) (id : Int)

/-- A loan that was recorded is found as it was recorded, and every other as before. -/
@[simp]
theorem record_loan : (d.record l e).tables.loans.get? id = if id = l.id then some l else d.tables.loans.get? id :=
  Table.get?_insert ..

/-- An entry that was recorded is found as it was recorded, and every other as before. -/
@[simp]
theorem record_entry : (d.record l e).tables.entries.get? id = if id = e.id then some e else d.tables.entries.get? id :=
  Table.get?_insert ..

/-- A loan that is recorded is noted as written. -/
@[simp]
theorem record_writtenLoan : (d.record l e).written.loans.contains id = (decide (id = l.id) || d.written.loans.contains id) :=
  Table.contains_add ..

/-- An entry that is recorded is noted as written. -/
@[simp]
theorem record_writtenEntry :
    (d.record l e).written.entries.contains id = (decide (id = e.id) || d.written.entries.contains id) :=
  Table.contains_add ..

@[simp]
theorem moved_loans : (d.moved c status t).tables.loans = d.tables.loans := rfl

@[simp]
theorem moved_reservations : (d.moved c status t).tables.reservations = d.tables.reservations := rfl

/-- A reservation that was fulfilled is found so, and every other as before. -/
@[simp]
theorem fulfilled_reservation : (d.fulfilled r t).tables.reservations.get? id =
    if id = r.id then some { r with status := .fulfilled, updatedAt := t } else d.tables.reservations.get? id :=
  Table.get?_insert ..

/-- A reservation that is fulfilled is noted as written. -/
@[simp]
theorem fulfilled_writtenReservation :
    (d.fulfilled r t).written.reservations.contains id = (decide (id = r.id) || d.written.reservations.contains id) :=
  Table.contains_add ..

@[simp]
theorem guard_tables (count : Int) : (d.guard id count).tables = d.tables := rfl

end

/-- Whether two drafts have the same copies, reservations and locks. -/
structure SameShelves (d d' : Draft) : Prop where
  copies : d'.tables.copies = d.tables.copies
  reservations : d'.tables.reservations = d.tables.reservations
  locked : d'.locked = d.locked
  writtenCopies : d'.written.copies = d.written.copies
  writtenReservations : d'.written.reservations = d.written.reservations

/-- Whether two drafts have the same loans and history. -/
structure SameLoans (d d' : Draft) : Prop where
  loans : d'.tables.loans = d.tables.loans
  entries : d'.tables.entries = d.tables.entries
  writtenLoans : d'.written.loans = d.written.loans
  writtenEntries : d'.written.entries = d.written.entries

end Draft

/-- Whether the limits let a user borrow a title. -/
structure MayBorrow (policy : Policy) (d : Draft) (userId bookId : Int) : Prop where
  loans : ((d.tables.borrowedBy userId).length : Int) < policy.maxLoans
  title : (d.tables.borrowedOnTitle userId bookId).length = 0

/-- Whether the limits let a user reserve a title. -/
structure MayReserve (policy : Policy) (d : Draft) (userId bookId : Int) : Prop where
  reservations : ((d.tables.pendingOf userId).length : Int) ≤ policy.maxReservations
  lent : (d.tables.borrowedOnTitle userId bookId).length = 0
  title : (d.tables.pendingOnTitle userId bookId).length = 0

section

variable (rules : Rules) (policy : Policy)

/-- A loan of a copy to a user is opened, with the first entry of its history. -/
inductive Opened (d : Draft) (m : Moment) (c : Copy) (userId : Int) : Loan → Draft → Moment → Prop where
  | intro {t due : Instant} {period : Span} {k j : Int} {m' : Moment} : rules.Reads m t m' →
    policy.loanPeriod = .ok period → t.after period = .ok due → m.lastId < k → k < j → j ≤ m'.lastId →
    Opened d m c userId (NewLoan.toRow ⟨c.id, c.bookId, userId, t, due⟩ k)
      (d.record (NewLoan.toRow ⟨c.id, c.bookId, userId, t, due⟩ k) (NewLoanEntry.toRow ⟨k, .borrowed, due, none, t⟩ j)) m'

/-- A borrowed loan is extended by one renewal period, with an entry of its history. -/
inductive Renewed (d : Draft) (m : Moment) (l : Loan) : Draft → Moment → Prop where
  | intro {t due : Instant} {period : Span} {j : Int} {m' : Moment} : d.tables.loans.get? l.id = some l →
    l.isBorrowed = true → (∀ max, policy.maxRenewals = some max → l.renewCount < max) → rules.Reads m t m' →
    policy.renewalPeriod = .ok period → l.dueDate.after period = .ok due → m.lastId < j → j ≤ m'.lastId →
    Renewed d m l ((d.guard l.id l.renewCount).record (l.extended due t)
      (NewLoanEntry.toRow ⟨l.id, .renewed, due, some l.dueDate, t⟩ j)) m'

/-- The fine for returning a loan at an instant is charged, if there is one to charge. -/
inductive Charged (d : Draft) (n : Int) (l : Loan) (t : Instant) : Draft → Int → Prop where
  | none : Overdue.charge l.dueDate t policy.dailyFineRate = .ok none → Charged d n l t d n
  | fine {amount : Decimal} {k : Int} : Overdue.charge l.dueDate t policy.dailyFineRate = .ok (some amount) → n < k →
    Charged d n l t (d.putFine (NewFine.toRow ⟨l.id, amount, t⟩ k) k) k

/-- A borrowed loan is closed, with its fine and the last entry of its history. -/
inductive Returned (d : Draft) (m : Moment) (l : Loan) : Draft → Moment → Prop where
  | intro {t : Instant} {d₁ : Draft} {n₀ n j : Int} {m' : Moment} : d.tables.loans.get? l.id = some l →
    l.isBorrowed = true → rules.Reads m t m' → m.lastId ≤ n₀ → Charged policy d n₀ l t d₁ n → n < j →
    j ≤ m'.lastId → Returned d m l ((d₁.guard l.id l.renewCount).record (l.closed t)
      (NewLoanEntry.toRow ⟨l.id, .returned, l.dueDate, none, t⟩ j)) m'

/-- A copy is made ready for a user: it is on the shelf, or its hold is the user's own and is fulfilled. -/
inductive Released (d : Draft) (c : Copy) (userId : Int) : Draft → Prop where
  | shelf : c.status = .available → Released d c userId d
  | hold (r : Reservation) (t : Instant) : c.status = .onReserve → d.tables.reservations.get? r.id = some r →
    r.isPending = true → r.copyId = c.id → r.userId = userId → Released d c userId (d.fulfilled r t)

/-- What an operation of the desk does to a draft when it goes through, between two moments. -/
inductive Move (d : Draft) (m : Moment) : Draft → Moment → Prop where
  | lock (c : Copy) : d.liveCopy? c.id = some c → Move d m (d.lock c.id) m
  | borrow {c : Copy} {userId : Int} {l : Loan} {d₁ d₂ : Draft} {m' : Moment} (t : Instant) : d.Holding c →
    MayBorrow policy d userId c.bookId → Released d c userId d₁ → Opened rules policy d₁ m c userId l d₂ m' →
    Move d m (d₂.moved c .onLoan t) m'
  | takeBack {c : Copy} {l : Loan} {d₁ : Draft} {m' : Moment} (t : Instant) : d.Holding c → c.status = .onLoan →
    l.copyId = c.id → Returned rules policy d m l d₁ m' → Move d m (d₁.moved c .available t) m'
  | renew {c : Copy} {l : Loan} {d₁ : Draft} {m' : Moment} : d.Holding c → c.status = .onLoan → l.copyId = c.id →
    Renewed rules policy d m l d₁ m' → Move d m d₁ m'
  | reserve {c : Copy} {userId k : Int} {t expiry : Instant} {m' : Moment} (t' : Instant) : d.Holding c →
    c.status = .available → MayReserve policy d userId c.bookId → rules.Reads m t m' → m.lastId < k → k ≤ m'.lastId →
    policy.reservationHold.bind t.after = .ok expiry →
    Move d m ((d.putReservation (NewReservation.toRow ⟨c.id, c.bookId, userId, expiry, t⟩ k) k).moved c .onReserve t') m'
  | cancel {c : Copy} {r : Reservation} (t t' : Instant) : d.Holding c → c.status = .onReserve →
    d.tables.reservations.get? r.id = some r → r.isPending = true → r.copyId = c.id →
    Move d m ((d.fulfilled r t).moved c .available t') m
  | addCopy {bookId k : Int} {t : Instant} {m' : Moment} : d.tables.books.contains bookId = true → rules.Later m m' →
    m.lastId < k → k ≤ m'.lastId → Move d m (d.putCopy (NewCopy.toRow ⟨bookId, t⟩ k) k) m'
  | withdraw {c : Copy} (t : Instant) : d.Holding c → c.status = .available →
    Move d m (d.putCopy { c with deletedAt := some t, updatedAt := t } c.id) m
  | settle {f : Fine} (t : Instant) : d.tables.fines.get? f.id = some f → f.settled = false → Move d m (d.settling f t) m

/-- Any number of moves one after the other, with time passing in between. -/
inductive Moves (d : Draft) (m : Moment) : Draft → Moment → Prop where
  | refl : Moves d m d m
  | wait {d' : Draft} {m' m'' : Moment} : Moves d m d' m' → rules.Later m' m'' → Moves d m d' m''
  | move {d' d'' : Draft} {m' m'' : Moment} : Moves d m d' m' → Move rules policy d' m' d'' m'' → Moves d m d'' m''

end

/-! ## A move keeps what a draft owes its base -/

section

variable {rules : Rules} {policy : Policy} {base : Ledger} {d d' : Draft} {m m' : Moment} {c : Copy} {l : Loan}
  {userId : Int}

/-- The loan that is closed was found borrowed. -/
theorem Returned.row (h : Returned rules policy d m l d' m') : d.tables.loans.get? l.id = some l ∧ l.isBorrowed = true := by
  obtain ⟨hl, hb, -⟩ := h
  exact ⟨hl, hb⟩

/-- What opening a loan leaves as it is. -/
theorem Opened.frame (h : Opened rules policy d m c userId l d' m') : d.SameShelves d' := by
  cases h
  exact ⟨rfl, rfl, rfl, rfl, rfl⟩

/-- What extending a loan leaves as it is. -/
theorem Renewed.frame (h : Renewed rules policy d m l d' m') : d.SameShelves d' := by
  cases h
  exact ⟨rfl, rfl, rfl, rfl, rfl⟩

/-- What charging a fine leaves as it is. -/
theorem Charged.frame {t : Instant} {n n' : Int} (h : Charged policy d n l t d' n') :
    d.SameShelves d' ∧ d.SameLoans d' := by
  cases h
  · exact ⟨⟨rfl, rfl, rfl, rfl, rfl⟩, ⟨rfl, rfl, rfl, rfl⟩⟩
  · exact ⟨⟨rfl, rfl, rfl, rfl, rfl⟩, ⟨rfl, rfl, rfl, rfl⟩⟩

/-- What closing a loan leaves as it is. -/
theorem Returned.frame (h : Returned rules policy d m l d' m') : d.SameShelves d' := by
  obtain ⟨-, -, -, -, hf, -⟩ := h
  cases hf
  · exact ⟨rfl, rfl, rfl, rfl, rfl⟩
  · exact ⟨rfl, rfl, rfl, rfl, rfl⟩

/-- What releasing a copy leaves as it is. -/
theorem Released.frame (h : Released d c userId d') : d'.tables.copies = d.tables.copies ∧ d'.locked = d.locked ∧
    d.SameLoans d' := by
  cases h
  · exact ⟨rfl, rfl, ⟨rfl, rfl, rfl, rfl⟩⟩
  · exact ⟨rfl, rfl, ⟨rfl, rfl, rfl, rfl⟩⟩

/-- Making a copy ready does not touch a fine. -/
theorem Released.fines (h : Released d c userId d') : d'.tables.fines = d.tables.fines := by
  cases h
  · rfl
  · rfl

/-- A draft stands when a copy of it is moved. -/
theorem Draft.Stands.moved {n : Int} (h : d.Stands base n) (hc : d.tables.copies.get? c.id = some c)
    (status : CopyStatus) (t : Instant) : (d.moved c status t).Stands base n :=
  h.putCopy c.id c { c with status := status, updatedAt := t } hc rfl

/-- A draft stands when a reservation of it is fulfilled. -/
theorem Draft.Stands.fulfilled {n : Int} {r : Reservation} (h : d.Stands base n)
    (hr : d.tables.reservations.get? r.id = some r) (t : Instant) : (d.fulfilled r t).Stands base n :=
  h.putReservation r.id r { r with status := .fulfilled, updatedAt := t } hr rfl

/-- A draft stands when a loan is opened. -/
theorem Opened.stands (h : Opened rules policy d m c userId l d' m') (hs : d.Stands base m.lastId) :
    d'.Stands base m'.lastId := by
  obtain ⟨-, -, -, hk, hj, hm⟩ := h
  exact ((hs.newLoan _ hk).newEntry _ hj).mono hm

/-- A draft stands when a loan is renewed. -/
theorem Renewed.stands (h : Renewed rules policy d m l d' m') (hs : d.Stands base m.lastId) :
    d'.Stands base m'.lastId := by
  cases h with
  | @intro t due _ j _ hl hb _ _ _ _ hj hm =>
    exact ((hs.putLoan l.id l (l.extended due t) hl hb rfl).newEntry _ hj).mono hm

/-- A draft stands when a fine is charged. -/
theorem Charged.stands {t : Instant} {n n' : Int} (h : Charged policy d n l t d' n') (hs : d.Stands base n) :
    d'.Stands base n' := by
  cases h with
  | none => exact hs
  | fine _ hk => exact hs.newFine _ hk

/-- A draft stands when a loan is returned. -/
theorem Returned.stands (h : Returned rules policy d m l d' m') (hs : d.Stands base m.lastId) :
    d'.Stands base m'.lastId := by
  cases h with
  | @intro t d₁ _ _ _ _ hl hb _ hn hf hj hm =>
    have hl' : d₁.tables.loans.get? l.id = some l := by rw [hf.frame.2.loans]; exact hl
    exact (((hf.stands (hs.mono hn)).putLoan l.id l (l.closed t) hl' hb rfl).newEntry _ hj).mono hm

/-- A draft stands when a copy is made ready. -/
theorem Released.stands {n : Int} (h : Released d c userId d') (hs : d.Stands base n) : d'.Stands base n := by
  cases h with
  | shelf => exact hs
  | hold r t _ hr => exact hs.fulfilled hr t

/-- A draft stands to its base after a move. -/
theorem Move.stands (h : Move rules policy d m d' m') (hs : d.Stands base m.lastId) : d'.Stands base m'.lastId := by
  cases h with
  | lock c hc => exact hs.lock c.id c hc
  | borrow t hc _ hr ho =>
    refine (ho.stands (hr.stands hs)).moved ?_ .onLoan t
    rw [ho.frame.copies, hr.frame.1]
    exact hc.row
  | takeBack t hc _ _ hr =>
    refine (hr.stands hs).moved ?_ .available t
    rw [hr.frame.copies]
    exact hc.row
  | renew _ _ _ hr => exact hr.stands hs
  | reserve t' hc _ _ _ hk hm => exact ((hs.newReservation _ hk).moved hc.row .onReserve t').mono hm
  | cancel t t' hc _ hr => exact (hs.fulfilled hr t).moved hc.row .available t'
  | addCopy _ _ hk hm => exact (hs.newCopy _ hk).mono hm
  | @withdraw c t hc => exact hs.putCopy c.id c { c with deletedAt := some t, updatedAt := t } hc.row rfl
  | @settle f t hf hn => exact hs.putFine f.id f { f with settled := true, updatedAt := t } hf hn rfl

/-- A draft stands to its base after any moves. -/
theorem Moves.stands (h : Moves rules policy d m d' m') (hs : d.Stands base m.lastId) : d'.Stands base m'.lastId := by
  induction h with
  | refl => exact hs
  | wait _ hm ih => exact ih.mono hm.lastId
  | move _ hm ih => exact hm.stands ih

/-- Whatever waiting and moving keep is kept by moves. -/
theorem Moves.keep {I : Draft → Moment → Prop} (h : Moves rules policy d m d' m') (hs : d.Stands base m.lastId)
    (hI : I d m) (wait : ∀ d m m', rules.Later m m' → I d m → I d m')
    (move : ∀ d m d' m', d.Stands base m.lastId → Move rules policy d m d' m' → I d m → I d' m') : I d' m' := by
  induction h with
  | refl => exact hI
  | wait _ hm ih => exact wait _ _ _ hm ih
  | move hms hm ih => exact move _ _ _ _ (hms.stands hs) hm ih

end

end Circulation
