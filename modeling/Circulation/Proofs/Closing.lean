import Circulation.Proofs.Moves

/-!
# Rows that close

Copies, loans, reservations and fines are open until they are closed: withdrawn, returned, fulfilled or settled. An entry
of a loan's history is closed from the start. `Closable` names a kind of row with what closed means for it, and
`Tables.Keep` says that rows last from some tables to others and that closed rows stay as they are. No move of the desk
touches a closed row (`Move.keep`).
-/

namespace Circulation

/-- Whether rows last from a table to another, the closed ones as they are. -/
def Table.KeepsClosed {α : Type} (closed : α → Bool) (t u : Table α) : Prop :=
  ∀ id a, t.get? id = some a → ∃ b, u.get? id = some b ∧ (closed a = true → b = a)

namespace Table.KeepsClosed

variable {α : Type} {closed : α → Bool} {t u v : Table α}

theorem refl (t : Table α) : t.KeepsClosed closed t :=
  fun _ a ha => ⟨a, ha, fun _ => rfl⟩

theorem trans (h : t.KeepsClosed closed u) (h' : u.KeepsClosed closed v) : t.KeepsClosed closed v := by
  intro id a ha
  obtain ⟨b, hb, hba⟩ := h id a ha
  obtain ⟨c, hc, hcb⟩ := h' id b hb
  refine ⟨c, hc, fun hclosed => ?_⟩
  obtain rfl := hba hclosed
  exact hcb hclosed

/-- A row is kept that is new or takes the place of an open one. -/
theorem insert {k : Int} (b : α) (h : ∀ a, t.get? k = some a → closed a = false) :
    t.KeepsClosed closed (t.insert k b) := by
  intro id a ha
  rw [get?_insert]
  split
  · rename_i hid
    subst hid
    exact ⟨b, rfl, fun hclosed => by simp [h a ha] at hclosed⟩
  · exact ⟨a, ha, fun _ => rfl⟩

/-- A closed row is still there. -/
theorem get? (h : t.KeepsClosed closed u) {id : Int} {a : α} (ha : t.get? id = some a) (hclosed : closed a = true) :
    u.get? id = some a := by
  obtain ⟨b, hb, hba⟩ := h id a ha
  rw [hb, hba hclosed]

end Table.KeepsClosed

/-- A kind of row with what closed means for it: where its rows are, which of them a draft wrote, and which are closed. -/
structure Closable (α : Type) where
  rows : Tables → Table α
  written : Written → IdSet
  closed : α → Bool

namespace Closable

variable {α : Type} (K : Closable α)

/-- Copies are withdrawn. -/
def copies : Closable Copy := ⟨Tables.copies, Written.copies, Copy.isDeleted⟩

/-- Loans are returned. -/
def loans : Closable Loan := ⟨Tables.loans, Written.loans, fun l => !l.isBorrowed⟩

/-- Entries of a history are never changed. -/
def entries : Closable LoanEntry := ⟨Tables.entries, Written.entries, fun _ => true⟩

/-- Reservations are fulfilled. -/
def reservations : Closable Reservation := ⟨Tables.reservations, Written.reservations, fun r => !r.isPending⟩

/-- Fines are settled. -/
def fines : Closable Fine := ⟨Tables.fines, Written.fines, Fine.settled⟩

/-- Whether rows of a kind last from some tables to others, the closed ones as they are. -/
def Keep (t t' : Tables) : Prop :=
  (K.rows t).KeepsClosed K.closed (K.rows t')

/-- Whether the row under an id is closed. -/
def Closed (t : Tables) (id : Int) : Prop :=
  ∃ a, (K.rows t).get? id = some a ∧ K.closed a = true

variable {K}

/-- What is closed stays closed. -/
theorem Keep.closed {t t' : Tables} (h : K.Keep t t') {id : Int} (hid : K.Closed t id) : K.Closed t' id := by
  obtain ⟨a, ha, hclosed⟩ := hid
  exact ⟨a, h.get? ha hclosed, hclosed⟩

end Closable

/-- Whether rows last from some tables to others, the closed ones as they are. -/
structure Tables.Keep (t t' : Tables) : Prop where
  copies : Closable.copies.Keep t t'
  loans : Closable.loans.Keep t t'
  entries : Closable.entries.Keep t t'
  reservations : Closable.reservations.Keep t t'
  fines : Closable.fines.Keep t t'

namespace Tables.Keep

variable {t t' t'' : Tables}

/-- Nothing is changed but titles and users. -/
theorem of_eq (h : t' = { t with books := t'.books, users := t'.users }) : t.Keep t' := by
  constructor <;> (rw [h]; exact .refl _)

theorem refl (t : Tables) : t.Keep t :=
  of_eq rfl

theorem trans (h : t.Keep t') (h' : t'.Keep t'') : t.Keep t'' where
  copies := h.copies.trans h'.copies
  loans := h.loans.trans h'.loans
  entries := h.entries.trans h'.entries
  reservations := h.reservations.trans h'.reservations
  fines := h.fines.trans h'.fines

end Tables.Keep

/-! ## What is written to a draft -/

namespace Draft

variable (d : Draft)

/-- Putting a copy keeps the closed rows unless the copy was withdrawn. -/
theorem keep_putCopy {id : Int} (c : Copy) (h : ∀ a, d.tables.copies.get? id = some a → a.isDeleted = false) :
    d.tables.Keep (d.putCopy c id).tables :=
  { Tables.Keep.refl d.tables with copies := .insert c h }

/-- Recording a loan with an entry keeps the closed rows unless the loan was returned or the entry was there. -/
theorem keep_record {l : Loan} {e : LoanEntry} (h : ∀ a, d.tables.loans.get? l.id = some a → a.isBorrowed = true)
    (he : d.tables.entries.get? e.id = none) : d.tables.Keep (d.record l e).tables :=
  { Tables.Keep.refl d.tables with
    loans := .insert l fun a ha => by simp [Closable.loans, h a ha]
    entries := .insert e fun a ha => by simp [Closable.entries, he] at ha }

/-- Putting a reservation keeps the closed rows unless it was fulfilled. -/
theorem keep_putReservation {id : Int} (r : Reservation)
    (h : ∀ a, d.tables.reservations.get? id = some a → a.isPending = true) :
    d.tables.Keep (d.putReservation r id).tables :=
  { Tables.Keep.refl d.tables with reservations := .insert r fun a ha => by simp [Closable.reservations, h a ha] }

/-- Putting a fine keeps the closed rows unless it was settled. -/
theorem keep_putFine {id : Int} (f : Fine) (h : ∀ a, d.tables.fines.get? id = some a → a.settled = false) :
    d.tables.Keep (d.putFine f id).tables :=
  { Tables.Keep.refl d.tables with fines := .insert f h }

variable {d} {c : Copy} {base : Ledger}

/-- Moving a copy that is held, which is not withdrawn, keeps the closed rows. -/
theorem Holding.keep_moved (h : d.Holding c) (status : CopyStatus) (t : Instant) :
    d.tables.Keep (d.moved c status t).tables :=
  d.keep_putCopy _ fun a ha => by
    cases h.row.symm.trans ha
    exact h.live

/-- Fulfilling a pending reservation keeps the closed rows. -/
theorem keep_fulfilled {r : Reservation} (hr : d.tables.reservations.get? r.id = some r) (hp : r.isPending = true)
    (t : Instant) : d.tables.Keep (d.fulfilled r t).tables :=
  d.keep_putReservation _ fun a ha => by
    cases hr.symm.trans ha
    exact hp

/-- A lock and the rows of copies carry over to a draft with the same ones. -/
theorem Holding.congr {d' : Draft} (h : d.Holding c) (hc : d'.tables.copies = d.tables.copies)
    (hl : d'.locked = d.locked) : d'.Holding c :=
  ⟨hc ▸ h.row, h.live, hl ▸ h.locked⟩

end Draft

/-! ## What moves do -/

section

variable {rules : Rules} {policy : Policy} {base : Ledger} {d d' : Draft} {m m' : Moment} {c : Copy} {l : Loan}
  {userId : Int}

/-- A loan that is opened has an entry of a new id, and closes nothing again. -/
theorem Opened.keep (h : Opened rules policy d m c userId l d' m') (hs : d.Stands base m.lastId) :
    d.tables.Keep d'.tables := by
  cases h with
  | intro _ _ _ hk hj _ =>
    refine d.keep_record (fun a ha => ?_) (hs.entries.keyed.none_of_lt (Int.lt_trans hk hj))
    exact absurd ha (by simp [NewLoan.toRow, hs.loans.keyed.none_of_lt hk])

/-- A renewal changes a loan that is out, and adds an entry of a new id. -/
theorem Renewed.keep (h : Renewed rules policy d m l d' m') (hs : d.Stands base m.lastId) :
    d.tables.Keep d'.tables := by
  cases h with
  | intro hl hb _ _ _ _ hj _ =>
    refine (d.guard l.id l.renewCount).keep_record (fun a ha => ?_) (hs.entries.keyed.none_of_lt hj)
    cases hl.symm.trans ha
    exact hb

/-- A fine that is charged has a new id. -/
theorem Charged.keep {t : Instant} {n n' : Int} (h : Charged policy d n l t d' n') (hs : d.Stands base n) :
    d.tables.Keep d'.tables := by
  cases h with
  | none => exact .refl _
  | fine _ hk => exact d.keep_putFine _ fun a ha => by simp [hs.fines.keyed.none_of_lt hk] at ha

/-- A return closes a loan that is out, and its fine and its entry have new ids. -/
theorem Returned.keep (h : Returned rules policy d m l d' m') (hs : d.Stands base m.lastId) :
    d.tables.Keep d'.tables := by
  cases h with
  | @intro t d₁ _ _ _ _ hl hb _ hn hf hj _ =>
    have hs₁ := hf.stands (hs.mono hn)
    refine (hf.keep (hs.mono hn)).trans ((d₁.guard l.id l.renewCount).keep_record (fun a ha => ?_)
      (hs₁.entries.keyed.none_of_lt hj))
    have hrow : d₁.tables.loans.get? l.id = some l := by rw [hf.frame.2.loans]; exact hl
    cases hrow.symm.trans ha
    exact hb

/-- Making a copy ready closes a pending hold at most. -/
theorem Released.keep (h : Released d c userId d') : d.tables.Keep d'.tables := by
  cases h with
  | shelf => exact .refl _
  | hold r t _ hr hp => exact Draft.keep_fulfilled hr hp t

/-- A move leaves every closed row as it is. -/
theorem Move.keep (h : Move rules policy d m d' m') (hs : d.Stands base m.lastId) : d.tables.Keep d'.tables := by
  cases h with
  | lock c _ => exact .refl _
  | borrow t hc _ hr ho =>
    have hc₁ := (hc.congr hr.frame.1 hr.frame.2.1).congr ho.frame.copies ho.frame.locked
    exact (hr.keep.trans (ho.keep (hr.stands hs))).trans (hc₁.keep_moved .onLoan t)
  | takeBack t hc _ _ hr =>
    exact (hr.keep hs).trans ((hc.congr hr.frame.copies hr.frame.locked).keep_moved .available t)
  | renew _ _ _ hr => exact hr.keep hs
  | @reserve c _ k _ _ _ t' hc _ _ _ hk _ =>
    have hnew : d.tables.reservations.get? k = none := hs.reservations.keyed.none_of_lt hk
    have hput (r : Reservation) : d.tables.Keep (d.putReservation r k).tables :=
      d.keep_putReservation r fun a ha => by simp [hnew] at ha
    have hc' (r : Reservation) : (d.putReservation r k).Holding c := hc.congr rfl rfl
    exact (hput _).trans ((hc' _).keep_moved .onReserve t')
  | @cancel c r t t' hc _ hr hp _ =>
    have hc' : (d.fulfilled r t).Holding c := hc.congr rfl rfl
    exact (Draft.keep_fulfilled hr hp t).trans (hc'.keep_moved .available t')
  | addCopy _ _ hk _ => exact d.keep_putCopy _ fun a ha => by simp [hs.copies.keyed.none_of_lt hk] at ha
  | withdraw t hc _ =>
    refine d.keep_putCopy _ fun a ha => ?_
    cases hc.row.symm.trans ha
    exact hc.live
  | @settle f t hf hn =>
    refine d.keep_putFine _ fun a ha => ?_
    cases hf.symm.trans ha
    exact hn

end

end Circulation
