import Circulation.Proofs.Discipline
import Circulation.Proofs.Operations
import Circulation.Proofs.Policy

/-!
# Quotas

A limit per user is checked in the view of one transaction: what a draft counts stays within it (`Quota.move`). A commit
looks at copies, guarded loans, settled fines and reservations that stand against each other, and at no limit, so two
transactions of one user that overlap may each open what one of them might, and both commit (`limits_overrun`). That is the
one way beyond a limit: the limits hold for everybody for whom no two transactions that overlapped both left something that
is still open (`limits_hold`).
-/

namespace Circulation

/-- Whether one committed transaction had begun before another, committed earlier, was committed. -/
def Overlapping (journal : List Transaction) (e x : Transaction) : Prop :=
  ∃ i j, journal[i]? = some e ∧ journal[j]? = some x ∧ i < j ∧ x.began ≤ i

theorem Overlapping.append {journal : List Transaction} {e x : Transaction} (h : Overlapping journal e x)
    (more : List Transaction) : Overlapping (journal ++ more) e x := by
  obtain ⟨i, j, hi, hj, hij, hb⟩ := h
  refine ⟨i, j, ?_, ?_, hij, hb⟩
  · rw [List.getElem?_append_left (List.getElem?_eq_some_iff.1 hi).1, hi]
  · rw [List.getElem?_append_left (List.getElem?_eq_some_iff.1 hj).1, hj]

/-- The next transaction to be committed overlaps those that were committed since it began. -/
theorem overlapping_last {journal : List Transaction} {e x : Transaction} (he : e ∈ journal.drop x.began) :
    Overlapping (journal ++ [x]) e x := by
  obtain ⟨i, hi⟩ := List.mem_iff_getElem?.1 he
  rw [List.getElem?_drop] at hi
  have hlt := (List.getElem?_eq_some_iff.1 hi).1
  refine ⟨x.began + i, journal.length, ?_, ?_, hlt, Nat.le_add_right _ _⟩
  · rw [List.getElem?_append_left hlt, hi]
  · rw [List.getElem?_append_right (Nat.le_refl _), Nat.sub_self]
    rfl

/-- Whether the reservations of its base that a draft wrote are no longer pending. -/
def Draft.Closes (d : Draft) (base : Ledger) : Prop :=
  ∀ i r, d.written.reservations.contains i = true → i ≤ base.lastId → d.tables.reservations.get? i = some r →
    r.isPending = false

/-- Rows that are counted and may not be more than a bound: whether the row under an id counts, and what is so of drafts
and commits. -/
structure Quota (policy : Policy) where
  Counts : Tables → Int → Prop
  count : Tables → Nat
  bound : Int
  nothing : (count {} : Int) ≤ bound
  congr : ∀ {t t' : Tables}, t'.loans = t.loans → t'.reservations = t.reservations →
    (∀ i, Counts t' i ↔ Counts t i) ∧ count t' = count t
  count_le : ∀ {t t' : Tables}, (∀ i, Counts t' i → Counts t i) → count t' ≤ count t
  move : ∀ {rules base d d' m m'}, d.Stands base m.lastId → Move rules policy d m d' m' →
    (count d.tables : Int) ≤ bound → (count d'.tables : Int) ≤ bound
  commit_ledger : ∀ {l x committed l'}, Committing l x committed l' → x.draft.Closes x.base →
    ∀ i, Counts l'.tables i → Counts l.tables i ∨ x.base.lastId < i ∧ Counts x.draft.tables i
  commit_draft : ∀ {l x committed l'}, Committing l x committed l' →
    ∀ i, Counts l'.tables i → Counts x.draft.tables i ∨ Counts l.tables i ∧ ¬Counts x.base.tables i

namespace Draft.Closes

variable {rules : Rules} {policy : Policy} {base : Ledger} {d d' : Draft} {m m' : Moment}

/-- A draft that begins has written no reservation. -/
theorem begin (l : Ledger) : l.draft.Closes l :=
  fun _ _ h => by cases h

/-- A hold that is fulfilled is closed. -/
theorem fulfilled (h : d.Closes base) (r : Reservation) (t : Instant) : (d.fulfilled r t).Closes base := by
  intro i r' hw hi hr'
  simp only [Draft.fulfilled_writtenReservation, Bool.or_eq_true, decide_eq_true_eq] at hw
  rw [Draft.fulfilled_reservation] at hr'
  split at hr'
  · cases hr'
    rfl
  · rename_i hne
    exact h i r' (hw.resolve_left hne) hi hr'

theorem congr (h : d.Closes base) (hw : d'.written.reservations = d.written.reservations)
    (ht : d'.tables.reservations = d.tables.reservations) : d'.Closes base :=
  fun i r hi hle hr => h i r (hw ▸ hi) hle (ht ▸ hr)

/-- Making a copy ready closes a hold at most. -/
theorem released {c : Copy} {userId : Int} (h : d.Closes base) (hr : Released d c userId d') : d'.Closes base := by
  cases hr with
  | shelf => exact h
  | hold r t => exact h.fulfilled r t

/-- What is done beside the shelves leaves reservations as they are. -/
theorem beside (h : d.Closes base) (hd : d.SameShelves d') : d'.Closes base :=
  h.congr hd.writtenReservations hd.reservations

/-- A move closes the reservations of the base that it writes. -/
theorem move (h : d.Closes base) (hle : base.lastId ≤ m.lastId) (hm : Move rules policy d m d' m') : d'.Closes base := by
  cases hm with
  | lock | addCopy | withdraw | settle => exact h.congr rfl rfl
  | borrow t _ _ hr ho => exact ((h.released hr).beside ho.frame).congr rfl rfl
  | takeBack t _ _ _ hr => exact (h.beside hr.frame).congr rfl rfl
  | renew _ _ _ hr => exact h.beside hr.frame
  | @reserve c _ k _ _ _ t' _ _ _ _ hk =>
    intro i r hw hi hr
    have hne : i ≠ k := by omega
    simp only [Draft.moved, Draft.putCopy, Draft.putReservation, Table.contains_add, Table.get?_insert, hne,
      decide_false, Bool.false_or] at hw hr
    exact h i r hw hi hr
  | cancel t t' => exact (h.fulfilled _ t).congr rfl rfl

end Draft.Closes

namespace Quota

variable {policy : Policy} (q : Quota policy)

/-- Whether a transaction leaves a new row that counts. -/
def Opens (x : Transaction) : Prop :=
  ∃ i, x.base.lastId < i ∧ q.Counts x.draft.tables i

/-- Whether no two transactions that overlapped both left new rows that count. -/
def Serial (journal : List Transaction) : Prop :=
  ∀ e x, Overlapping journal e x → ¬(q.Opens e ∧ q.Opens x)

variable {q}

/-- What is serial in the end was serial before. -/
theorem Serial.of_append {journal more : List Transaction} (h : q.Serial (journal ++ more)) : q.Serial journal :=
  fun e x ho => h e x (ho.append more)

/-- What is serial was so for every number of first commits. -/
theorem Serial.take {journal : List Transaction} (h : q.Serial journal) (n : Nat) : q.Serial (journal.take n) :=
  have hall : q.Serial (journal.take n ++ journal.drop n) := by rwa [List.take_append_drop]
  hall.of_append

/-- Transactions of desk operations keep to a quota as far as they are serial for it. -/
def discipline (q : Quota policy) (strict : Prop) : Discipline (Rules.desk policy strict) where
  Good l _ journal := q.Serial journal → (q.count l.tables : Int) ≤ q.bound
  Fit base d _ _ := ((q.count base.tables : Int) ≤ q.bound → (q.count d.tables : Int) ≤ q.bound) ∧ d.Closes base
  Moved base l committed := ∀ i, q.Counts l.tables i → q.Counts base.tables i ∨ ∃ e ∈ committed, q.Opens e
  good_start _ _ _ := q.nothing
  good_grown {l l' _ _} hg h hserial := by
    have hcount : q.count l'.tables = q.count l.tables := (q.congr (by rw [hg.tables]) (by rw [hg.tables])).2
    rw [hcount]
    exact h hserial
  good_later _ h := h
  moved_grown hg i hi := .inl (((q.congr (by rw [hg.tables]) (by rw [hg.tables])).1 i).1 hi)
  moved_trans h h' i hi := by
    rcases h' i hi with hi | ⟨e, he, hopens⟩
    · exact (h i hi).imp_right fun ⟨e, he, hopens⟩ => ⟨e, List.mem_append_left _ he, hopens⟩
    · exact .inr ⟨e, List.mem_append_right _ he, hopens⟩
  fit_begin _ _ := ⟨fun h => h, .begin _⟩
  fit_later _ h := h
  fit_call := by
    rintro base d hand m p - hs - hfit ⟨o, rfl⟩
    refine (o.keeps (I := fun d _ =>
      ((q.count base.tables : Int) ≤ q.bound → (q.count d.tables : Int) ≤ q.bound) ∧ d.Closes base)
      hs hfit (fun _ _ _ _ h => h) ?_).mono (fun _ _ _ h => h.2) fun _ _ h _ => h
    intro d m d' m' hs hmove h
    exact ⟨fun hbase => q.move hs hmove (h.1 hbase), h.2.move hs.le hmove⟩
  commit {l l' t journal x} _ hcom hgood hbase hmoved hfit := by
    have hledger := q.commit_ledger hcom hfit.2
    refine ⟨fun hserial => ?_, fun i hi => (hledger i hi).imp_right fun hi => ⟨x, List.mem_singleton_self x, i, hi⟩⟩
    by_cases hx : q.Opens x
    · -- Nobody else opened anything meanwhile, so all that counts afterwards counts in the draft.
      have hbefore : ∀ i, q.Counts l.tables i → q.Counts x.base.tables i := by
        intro i hi
        rcases hmoved i hi with hi | ⟨e, he, hopens⟩
        · exact hi
        · exact absurd ⟨hopens, hx⟩ (hserial e x (overlapping_last he))
      have hdraft : ∀ i, q.Counts l'.tables i → q.Counts x.draft.tables i := fun i hi =>
        (q.commit_draft hcom i hi).elim (fun h => h) fun h => absurd (hbefore i h.1) h.2
      have hle := q.count_le hdraft
      have hbound := hfit.1 (hbase (hserial.of_append.take x.began))
      omega
    · -- The draft has nothing new that counts, so all that counts afterwards counted before.
      have hsame : ∀ i, q.Counts l'.tables i → q.Counts l.tables i := fun i hi =>
        (hledger i hi).elim (fun h => h) fun h => absurd ⟨i, h⟩ hx
      have hle := q.count_le hsame
      have hbound := hgood hserial.of_append
      omega

end Quota

/-! ## The quotas of a user -/

section

variable {rules : Rules} {policy : Policy} {base : Ledger} {d d' : Draft} {m m' : Moment}

/-- The loans that are out after a move were out before it, but for one that the limits let its user borrow. -/
theorem Move.loans (h : Move rules policy d m d' m') : ∃ k, ∀ i l', d'.tables.loans.get? i = some l' →
    l'.isBorrowed = true → (i = k ∧ MayBorrow policy d l'.userId l'.bookId) ∨
      ∃ l, d.tables.loans.get? i = some l ∧ l.isBorrowed = true ∧ l.userId = l'.userId ∧ l.bookId = l'.bookId := by
  cases h with
  | lock | reserve | cancel | addCopy | withdraw | settle =>
    exact ⟨0, fun i l' hl' hb => .inr ⟨l', hl', hb, rfl, rfl⟩⟩
  | borrow t _ hmay hr ho =>
    cases ho with
    | @intro _ _ _ k =>
      refine ⟨k, fun i l' hl' hb => ?_⟩
      rw [Draft.moved_loans, Draft.record_loan, hr.frame.2.2.loans] at hl'
      split at hl'
      · rename_i hi
        cases hl'
        exact .inl ⟨hi, hmay⟩
      · exact .inr ⟨l', hl', hb, rfl, rfl⟩
  | takeBack t _ _ _ hr =>
    cases hr with
    | intro _ _ _ _ hf =>
      refine ⟨0, fun i l' hl' hb => .inr ?_⟩
      rw [Draft.moved_loans, Draft.record_loan, Draft.guard_tables, hf.frame.2.loans] at hl'
      split at hl'
      · cases hl'
        simp [Loan.closed, Loan.isBorrowed] at hb
      · exact ⟨l', hl', hb, rfl, rfl⟩
  | renew _ _ _ hr =>
    cases hr with
    | intro hl hborrowed =>
      refine ⟨0, fun i l' hl' hb => .inr ?_⟩
      rw [Draft.record_loan, Draft.guard_tables] at hl'
      split at hl'
      · rename_i hi
        cases hl'
        exact ⟨_, hi ▸ hl, hborrowed, rfl, rfl⟩
      · exact ⟨l', hl', hb, rfl, rfl⟩

/-- The reservations that are pending after a move were pending before it, but for one that the limits let its user place and
that has an expiry. -/
theorem Move.reservations (h : Move rules policy d m d' m') : ∃ k, ∀ i r', d'.tables.reservations.get? i = some r' →
    r'.isPending = true → (i = k ∧ MayReserve policy d r'.userId r'.bookId ∧
      ∃ t expiry : Instant, policy.reservationHold.bind t.after = .ok expiry) ∨ d.tables.reservations.get? i = some r' := by
  -- A fulfilled reservation is not pending.
  have hfulfilled : ∀ (r : Reservation) (t : Instant) i r', (d.fulfilled r t).tables.reservations.get? i = some r' →
      r'.isPending = true → d.tables.reservations.get? i = some r' := by
    intro r t i r' hr' hp
    rw [Draft.fulfilled_reservation] at hr'
    split at hr'
    · cases hr'
      simp [Reservation.isPending] at hp
    · exact hr'
  cases h with
  | lock | addCopy | withdraw | settle => exact ⟨0, fun i r' hr' _ => .inr hr'⟩
  | borrow t _ _ hr ho =>
    refine ⟨0, fun i r' hr' hp => .inr ?_⟩
    have hr' := ho.frame.reservations ▸ (hr' : _ = some r')
    cases hr with
    | shelf => exact hr'
    | hold r t' => exact hfulfilled r t' i r' hr' hp
  | takeBack t _ _ _ hr => exact ⟨0, fun i r' hr' _ => .inr (hr.frame.reservations ▸ (hr' : _ = some r'))⟩
  | renew _ _ _ hr => exact ⟨0, fun i r' hr' _ => .inr (hr.frame.reservations ▸ (hr' : _ = some r'))⟩
  | @reserve _ _ k t expiry _ t' _ _ hmay _ _ _ hexpiry =>
    refine ⟨k, fun i r' hr' _ => ?_⟩
    rw [Draft.moved_reservations, Draft.putReservation, Table.get?_insert] at hr'
    split at hr'
    · rename_i hi
      cases hr'
      exact .inl ⟨hi, hmay, t, expiry, hexpiry⟩
    · exact .inr hr'
  | cancel t t' => exact ⟨0, fun i r' hr' hp => .inr (hfulfilled _ t i r' hr' hp)⟩

end

namespace Committing

variable {l l' : Ledger} {x : Transaction} {committed : List Transaction}

/-- A loan that was there when a draft began, and that the draft wrote, is still out when it is committed. -/
theorem loan_out (h : Committing l x committed l') {i : Int} {a : Loan} (hw : x.draft.written.loans.contains i = true)
    (hi : i ≤ x.base.lastId) (ha : x.draft.tables.loans.get? i = some a) :
    ∃ row, l.tables.loans.get? i = some row ∧ row.isBorrowed = true ∧ row.userId = a.userId ∧ row.bookId = a.bookId := by
  obtain ⟨b, hb, hab⟩ := h.stands.loans.exists_base ha hi
  obtain ⟨row, hrow, hrb⟩ := h.since.loans i b hb
  obtain ⟨-, hbook, huser⟩ := Loan.of_lasting (hrb.trans hab.symm)
  exact ⟨row, hrow, h.loan_open hw hrow, huser, hbook⟩

end Committing

/-- Whether a loan is out. -/
def Tables.loanIsOut (t : Tables) (id : Int) : Bool :=
  (t.loans.get? id).any Loan.isBorrowed

/-- Whether a reservation is pending. -/
def Tables.holdIsPending (t : Tables) (id : Int) : Bool :=
  (t.reservations.get? id).any Reservation.isPending

/-- A borrowed loan is out. -/
theorem Tables.loanIsOut_of_get? {t : Tables} (id : Int) (l : Loan) (hl : t.loans.get? id = some l)
    (hborrowed : l.isBorrowed = true) : t.loanIsOut id = true := by
  rw [loanIsOut, hl, Option.any_some, hborrowed]

/-- A reservation that is pending is one. -/
theorem Tables.holdIsPending_of_get? {t : Tables} (id : Int) (r : Reservation) (hr : t.reservations.get? id = some r)
    (hpending : r.isPending = true) : t.holdIsPending id = true := by
  rw [holdIsPending, hr, Option.any_some, hpending]

namespace Quota

variable {policy : Policy}

/-- At most so many loans are out of a kind that is told by user and title, as far as loans are counted. -/
def loans (counted : Int → Bool) (kind : Int → Int → Bool) (bound : Int) (hnothing : 0 ≤ bound)
    (hmay : ∀ d userId bookId, kind userId bookId = true → MayBorrow policy d userId bookId →
      ((d.tables.loans.rows.filter fun l => kind l.userId l.bookId && l.isBorrowed).length : Int) < bound) :
    Quota policy where
  Counts t i := counted i = true ∧ ∃ l, t.loans.get? i = some l ∧ l.isBorrowed = true ∧ kind l.userId l.bookId = true
  count t := (t.loans.entries.filter fun e => counted e.1 && (kind e.2.userId e.2.bookId && e.2.isBorrowed)).length
  bound := bound
  nothing := hnothing
  congr hloans _ := by simp only [hloans, implies_true, and_self]
  count_le {t t'} h := by
    refine Table.length_filter_entries_le [] fun i a ha hp => ?_
    simp only [Bool.and_eq_true] at hp ⊢
    obtain ⟨hi, b, hb, hborrowed, hkind⟩ := h i ⟨hp.1, a, ha, hp.2.2, hp.2.1⟩
    exact .inr ⟨b, hb, hi, hkind, hborrowed⟩
  move {rules base d d' m m'} _ hm hd := by
    obtain ⟨k, hk⟩ := hm.loans
    refine Table.length_filter_entries_within k (fun i a ha hp => ?_) hd
    simp only [Bool.and_eq_true] at hp ⊢
    rcases hk i a ha hp.2.2 with ⟨hi, hmayBorrow⟩ | ⟨l, hl, hborrowed, huser, hbook⟩
    · have hle := Table.length_filter_counted_le d.tables.loans counted fun l => kind l.userId l.bookId && l.isBorrowed
      exact .inl ⟨hi, Int.lt_of_le_of_lt (Int.ofNat_le.2 hle) (hmay d a.userId a.bookId hp.2.1 hmayBorrow)⟩
    · exact .inr ⟨l, hl, hp.1, by rw [huser, hbook]; exact hp.2.1, hborrowed⟩
  commit_ledger {l x committed l'} hcom _ i hi := by
    obtain ⟨hcounted, a, ha, hborrowed, hkind⟩ := hi
    rw [hcom.loans] at ha
    split at ha
    · rename_i hw
      by_cases hle : i ≤ x.base.lastId
      · obtain ⟨row, hrow, hrb, huser, hbook⟩ := hcom.loan_out hw hle ha
        exact .inl ⟨hcounted, row, hrow, hrb, by rw [huser, hbook]; exact hkind⟩
      · exact .inr ⟨Int.not_le.1 hle, hcounted, a, ha, hborrowed, hkind⟩
    · exact .inl ⟨hcounted, a, ha, hborrowed, hkind⟩
  commit_draft {l x committed l'} hcom i hi := by
    obtain ⟨hcounted, hrow⟩ := hi
    rw [hcom.eq] at hrow
    exact (hcom.stands.loans.of_publish hrow).imp (fun h => ⟨hcounted, h⟩) fun h => ⟨⟨hcounted, h.1⟩, fun hb => h.2 hb.2⟩

/-- The cap on the loans of a user, as far as they are counted. -/
def ofUser (hvalid : policy.isValid = true) (userId : Int) (counted : Int → Bool) : Quota policy :=
  .loans counted (fun u _ => u = userId) policy.maxLoans (Int.le_trans (by decide) (Policy.one_le_maxLoans hvalid))
    fun d u b hu hmay => by
      have hcap := hmay.loans
      rwa [of_decide_eq_true hu] at hcap

/-- One loan of a user on a title, as far as they are counted. -/
def ofTitle (policy : Policy) (userId bookId : Int) (counted : Int → Bool) : Quota policy :=
  .loans counted (fun u b => u = userId && b = bookId) 1 (by decide) fun d u b hkind hmay => by
    simp only [Bool.and_eq_true, decide_eq_true_eq] at hkind
    have hnone := hmay.title
    rw [hkind.1, hkind.2] at hnone
    exact Int.lt_of_le_of_lt (Int.ofNat_le.2 (Nat.le_of_eq hnone)) (by decide)

/-- At most one reservation of a user more than the cap is pending, as far as they are counted. -/
def pending (hvalid : policy.isValid = true) (userId : Int) (counted : Int → Bool) : Quota policy where
  Counts t i := counted i = true ∧ ∃ r, t.reservations.get? i = some r ∧ r.isPending = true ∧ r.userId = userId
  count t := (t.reservations.entries.filter fun e => counted e.1 && (e.2.userId = userId && e.2.isPending)).length
  bound := policy.maxReservations + 1
  nothing := Int.le_add_one (Policy.maxReservations_nonneg hvalid)
  congr _ hreservations := by simp only [hreservations, implies_true, and_self]
  count_le {t t'} h := by
    refine Table.length_filter_entries_le [] fun i a ha hp => ?_
    simp only [Bool.and_eq_true, decide_eq_true_eq] at hp ⊢
    obtain ⟨hi, b, hb, hpending, huser⟩ := h i ⟨hp.1, a, ha, hp.2.2, hp.2.1⟩
    exact .inr ⟨b, hb, hi, huser, hpending⟩
  move {rules base d d' m m'} _ hm hd := by
    obtain ⟨k, hk⟩ := hm.reservations
    refine Table.length_filter_entries_within k (fun i a ha hp => ?_) hd
    simp only [Bool.and_eq_true, decide_eq_true_eq] at hp ⊢
    rcases hk i a ha hp.2.2 with ⟨hi, hmay, -⟩ | hold
    · have hle := Table.length_filter_counted_le d.tables.reservations counted fun r => r.userId = userId && r.isPending
      have hcap := hmay.reservations
      rw [hp.2.1] at hcap
      exact .inl ⟨hi, Int.lt_add_one_of_le (Int.le_trans (Int.ofNat_le.2 hle) hcap)⟩
    · exact .inr ⟨a, hold, hp⟩
  commit_ledger {l x committed l'} hcom hclosed i hi := by
    obtain ⟨hcounted, a, ha, hp, huser⟩ := hi
    rw [hcom.reservations] at ha
    split at ha
    · rename_i hw
      by_cases hle : i ≤ x.base.lastId
      · exact absurd (hclosed i a hw hle ha) (by simp [hp])
      · exact .inr ⟨Int.not_le.1 hle, hcounted, a, ha, hp, huser⟩
    · exact .inl ⟨hcounted, a, ha, hp, huser⟩
  commit_draft {l x committed l'} hcom i hi := by
    obtain ⟨hcounted, hrow⟩ := hi
    rw [hcom.eq] at hrow
    exact (hcom.stands.reservations.of_publish hrow).imp (fun h => ⟨hcounted, h⟩) fun h =>
      ⟨⟨hcounted, h.1⟩, fun hb => h.2 hb.2⟩

end Quota

namespace Transaction

/-- Whether a transaction left a new loan of a user out that is out in some tables. -/
def LendsTo (x : Transaction) (t : Tables) (userId : Int) : Prop :=
  ∃ i l, x.base.lastId < i ∧ x.draft.tables.loans.get? i = some l ∧ l.isBorrowed = true ∧ l.userId = userId ∧
    t.loanIsOut i = true

/-- Whether a transaction left a new loan of a title to a user out that is out in some tables. -/
def LendsTitleTo (x : Transaction) (t : Tables) (userId bookId : Int) : Prop :=
  ∃ i l, x.base.lastId < i ∧ x.draft.tables.loans.get? i = some l ∧ l.isBorrowed = true ∧ l.userId = userId ∧
    l.bookId = bookId ∧ t.loanIsOut i = true

/-- To lend a title is to lend. -/
theorem LendsTitleTo.lendsTo {x : Transaction} {t : Tables} {userId bookId : Int} (h : x.LendsTitleTo t userId bookId) :
    x.LendsTo t userId := by
  obtain ⟨i, l, hi, hl, hborrowed, huser, -, hout⟩ := h
  exact ⟨i, l, hi, hl, hborrowed, huser, hout⟩

/-- Whether a transaction left a new reservation of a user pending that is pending in some tables. -/
def HoldsFor (x : Transaction) (t : Tables) (userId : Int) : Prop :=
  ∃ i r, x.base.lastId < i ∧ x.draft.tables.reservations.get? i = some r ∧ r.isPending = true ∧ r.userId = userId ∧
    t.holdIsPending i = true

end Transaction

namespace Quota

variable {policy : Policy} {x : Transaction} {t : Tables} {userId bookId : Int} {counted : Int → Bool}

/-! ## What counts in the end

Loans and reservations that tables have closed since do not count against a limit there: it is enough to look at what was left
by those who opened the others. -/

/-- Who opens a loan of a user that is out in the end has lent to the user what is still out. -/
theorem lendsTo_of_opens {hvalid : policy.isValid = true} (h : (ofUser hvalid userId t.loanIsOut).Opens x) :
    x.LendsTo t userId := by
  obtain ⟨i, hi, hout, l, hl, hborrowed, huser⟩ := h
  exact ⟨i, l, hi, hl, hborrowed, of_decide_eq_true huser, hout⟩

/-- Who opens a loan of a user on a title that is out in the end has lent that title, and it is still out. -/
theorem lendsTitleTo_of_opens (h : (ofTitle policy userId bookId t.loanIsOut).Opens x) : x.LendsTitleTo t userId bookId := by
  obtain ⟨i, hi, hout, l, hl, hborrowed, hkind⟩ := h
  simp only [Bool.and_eq_true, decide_eq_true_eq] at hkind
  exact ⟨i, l, hi, hl, hborrowed, hkind.1, hkind.2, hout⟩

/-- Who opens a reservation of a user that is pending in the end holds for the user what is still pending. -/
theorem holdsFor_of_opens {hvalid : policy.isValid = true} (h : (pending hvalid userId t.holdIsPending).Opens x) :
    x.HoldsFor t userId := by
  obtain ⟨i, hi, hpending, r, hr, hrp, huser⟩ := h
  exact ⟨i, r, hi, hr, hrp, huser, hpending⟩

section

variable {kind : Int → Int → Bool} {bound : Int} {hnothing : 0 ≤ bound}
  {hmay : ∀ d userId bookId, kind userId bookId = true → MayBorrow policy d userId bookId →
    ((d.tables.loans.rows.filter fun l => kind l.userId l.bookId && l.isBorrowed).length : Int) < bound}

/-- No more loans of a kind are counted than there are. -/
theorem loans_count_le (t : Tables) (counted : Int → Bool) : (loans counted kind bound hnothing hmay).count t ≤
    (t.loans.rows.filter fun l => kind l.userId l.bookId && l.isBorrowed).length :=
  Table.length_filter_counted_le t.loans counted fun l => kind l.userId l.bookId && l.isBorrowed

/-- All loans of a kind are counted where those are counted that are out. -/
theorem loans_count (hall : ∀ i l, t.loans.get? i = some l → l.isBorrowed = true → counted i = true) :
    (loans counted kind bound hnothing hmay).count t =
      (t.loans.rows.filter fun l => kind l.userId l.bookId && l.isBorrowed).length := by
  have hcounted : ∀ i l, t.loans.get? i = some l → (kind l.userId l.bookId && l.isBorrowed) = true → counted i = true :=
    fun i l hl hp => hall i l hl (Bool.and_eq_true _ _ ▸ hp).2
  exact Table.length_filter_counted hcounted

end

/-- No more loans of a user are counted than there are. -/
theorem ofUser_count_le (hvalid : policy.isValid = true) (t : Tables) (userId : Int) (counted : Int → Bool) :
    (ofUser hvalid userId counted).count t ≤ (t.borrowedBy userId).length :=
  loans_count_le t counted

/-- No more loans of a user on a title are counted than there are. -/
theorem ofTitle_count_le (policy : Policy) (t : Tables) (userId bookId : Int) (counted : Int → Bool) :
    (ofTitle policy userId bookId counted).count t ≤ (t.borrowedOnTitle userId bookId).length :=
  loans_count_le t counted

/-- No more reservations of a user are counted than there are. -/
theorem pending_count_le (hvalid : policy.isValid = true) (t : Tables) (userId : Int) (counted : Int → Bool) :
    (pending hvalid userId counted).count t ≤ (t.pendingOf userId).length :=
  Table.length_filter_counted_le t.reservations counted fun r => decide (r.userId = userId) && r.isPending

/-- All loans of a user are counted where those are counted that are out. -/
theorem ofUser_count (hvalid : policy.isValid = true) (userId : Int)
    (hall : ∀ i l, t.loans.get? i = some l → l.isBorrowed = true → counted i = true) :
    (ofUser hvalid userId counted).count t = (t.borrowedBy userId).length :=
  loans_count hall

/-- All loans of a user on a title are counted where those are counted that are out. -/
theorem ofTitle_count (policy : Policy) (userId bookId : Int)
    (hall : ∀ i l, t.loans.get? i = some l → l.isBorrowed = true → counted i = true) :
    (ofTitle policy userId bookId counted).count t = (t.borrowedOnTitle userId bookId).length :=
  loans_count hall

/-- All reservations of a user are counted where those are counted that are pending. -/
theorem pending_count (hvalid : policy.isValid = true) (userId : Int)
    (hall : ∀ i r, t.reservations.get? i = some r → r.isPending = true → counted i = true) :
    (pending hvalid userId counted).count t = (t.pendingOf userId).length := by
  have hcounted : ∀ i r, t.reservations.get? i = some r → (decide (r.userId = userId) && r.isPending) = true →
      counted i = true := fun i r hr hp => hall i r hr (Bool.and_eq_true _ _ ▸ hp).2
  exact Table.length_filter_counted hcounted

end Quota

/-- A user has no more loans out than the policy allows, no two on one title, and at most one reservation pending beyond the
cap, as far as no two transactions that overlapped both left a new one of them that is still out, or still pending. -/
theorem limits_hold {policy : Policy} {s : Traffic} (hvalid : policy.isValid = true)
    (h : Reachable (Rules.desk policy True) s) (userId : Int) :
    ((∀ e x, Overlapping s.journal e x →
        ¬(e.LendsTo s.ledger.tables userId ∧ x.LendsTo s.ledger.tables userId)) →
      ((s.ledger.tables.borrowedBy userId).length : Int) ≤ policy.maxLoans) ∧
    (∀ bookId, (∀ e x, Overlapping s.journal e x →
        ¬(e.LendsTitleTo s.ledger.tables userId bookId ∧ x.LendsTitleTo s.ledger.tables userId bookId)) →
      (s.ledger.tables.borrowedOnTitle userId bookId).length ≤ 1) ∧
    ((∀ e x, Overlapping s.journal e x →
        ¬(e.HoldsFor s.ledger.tables userId ∧ x.HoldsFor s.ledger.tables userId)) →
      ((s.ledger.tables.pendingOf userId).length : Int) ≤ policy.maxReservations + 1) := by
  refine ⟨fun hserial => ?_, fun bookId hserial => ?_, fun hserial => ?_⟩
  · -- Of the loans there ever were, only those count that are out in the end.
    let q : Quota policy := .ofUser hvalid userId s.ledger.tables.loanIsOut
    have hgood := ((q.discipline True).holds h).good fun e x ho hboth =>
      hserial e x ho (hboth.imp Quota.lendsTo_of_opens Quota.lendsTo_of_opens)
    rwa [Quota.ofUser_count hvalid userId Tables.loanIsOut_of_get?] at hgood
  · let q : Quota policy := .ofTitle policy userId bookId s.ledger.tables.loanIsOut
    have hgood := ((q.discipline True).holds h).good fun e x ho hboth =>
      hserial e x ho (hboth.imp Quota.lendsTitleTo_of_opens Quota.lendsTitleTo_of_opens)
    rw [Quota.ofTitle_count policy userId bookId Tables.loanIsOut_of_get?] at hgood
    exact Int.ofNat_le.1 hgood
  · let q : Quota policy := .pending hvalid userId s.ledger.tables.holdIsPending
    have hgood := ((q.discipline True).holds h).good fun e x ho hboth =>
      hserial e x ho (hboth.imp Quota.holdsFor_of_opens Quota.holdsFor_of_opens)
    rwa [Quota.pending_count hvalid userId Tables.holdIsPending_of_get?] at hgood

/-- A policy of one loan and no reservation, which is passed at the second. -/
def sparing : Policy :=
  { maxLoans := 1, maxReservations := 0 }

/-- Three titles, the first of them with two copies, and one user. -/
def stocked : Traffic :=
  let s : Traffic := { clock := .epoch }
  let s := ((s.act (.addBook "Emma")).act (.addBook "Persuasion")).act (.addBook "Sanditon")
  let s := ((s.act (.addUser "ann")).act (.begin 0)).serve 0 (Operation.procedure sparing (.addCopies 1 2))
  let s := (s.serve 0 (Operation.procedure sparing (.addCopy 2))).serve 0 (Operation.procedure sparing (.addCopy 3))
  s.act (.commit 0)

theorem stocked_reachable : Reachable (Rules.desk sparing True) stocked := by
  have start : Reachable (Rules.desk sparing True) { clock := .epoch } := .start .epoch trivial
  have books := ((start.act (.addBook "Emma") trivial).act (.addBook "Persuasion") trivial).act (.addBook "Sanditon") trivial
  have opened := (books.act (.addUser "ann") trivial).act (.begin 0) trivial
  have first := opened.perform 0 (.addCopies 1 2) fun _ => by decide +kernel
  have second := first.perform 0 (.addCopy 2) fun _ => by decide +kernel
  have third := second.perform 0 (.addCopy 3) fun _ => by decide +kernel
  exact third.commit 0 fun _ => by decide +kernel

/-- The user lends and reserves in two transactions at once. -/
def overrun : Traffic :=
  let s := (stocked.act (.begin 0)).act (.begin 1)
  let s := (s.serve 0 (Operation.procedure sparing (.borrow 5 4))).serve 1 (Operation.procedure sparing (.borrow 6 4))
  let s := (s.serve 0 (Operation.procedure sparing (.reserve 7 4))).serve 1 (Operation.procedure sparing (.reserve 8 4))
  (s.act (.commit 0)).act (.commit 1)

theorem overrun_reachable : Reachable (Rules.desk sparing True) overrun := by
  have opened := (stocked_reachable.act (.begin 0) trivial).act (.begin 1) trivial
  have lent := opened.perform 0 (.borrow 5 4) fun _ => by decide +kernel
  have lentTwice := lent.perform 1 (.borrow 6 4) fun _ => by decide +kernel
  have held := lentTwice.perform 0 (.reserve 7 4) fun _ => by decide +kernel
  have heldTwice := held.perform 1 (.reserve 8 4) fun _ => by decide +kernel
  have first := heldTwice.commit 0 fun _ => by decide +kernel
  exact first.commit 1 fun _ => by decide +kernel

/-- Transactions that were refused nothing pass all limits of a user when they overlap. -/
theorem limits_overrun : sparing.isValid = true ∧ Reachable (Rules.desk sparing True) overrun ∧
    sparing.maxLoans < (overrun.ledger.tables.borrowedBy 4).length ∧
    1 < (overrun.ledger.tables.borrowedOnTitle 4 1).length ∧
    sparing.maxReservations + 1 < (overrun.ledger.tables.pendingOf 4).length :=
  ⟨by decide, overrun_reachable, by decide +kernel, by decide +kernel, by decide +kernel⟩

/-- After the overrun the user brings one of the copies back and gives up one of the holds. -/
def backWithin : Traffic :=
  let s := (overrun.act (.begin 0)).serve 0 (Operation.procedure sparing (.returnLoan 9))
  (s.serve 0 (Operation.procedure sparing (.cancelReservation 13))).act (.commit 0)

theorem backWithin_reachable : Reachable (Rules.desk sparing True) backWithin := by
  have returned := (overrun_reachable.act (.begin 0) trivial).perform 0 (.returnLoan 9) fun _ => by decide +kernel
  have released := returned.perform 0 (.cancelReservation 13) fun _ => by decide +kernel
  exact released.commit 0 fun _ => by decide +kernel

/-- The only transaction there that another overlapped has nothing left of what it lent and held. -/
theorem backWithin_overlaps {e x : Transaction} (h : Overlapping backWithin.journal e x) :
    (e.draft.tables.loans.entries.all fun row => !backWithin.ledger.tables.loanIsOut row.1) = true ∧
      (e.draft.tables.reservations.entries.all fun row => !backWithin.ledger.tables.holdIsPending row.1) = true := by
  obtain ⟨i, j, hi, hj, hij, hbegan⟩ := h
  have hmap : (backWithin.journal.map (·.began))[j]? = some x.began := by rw [List.getElem?_map, hj, Option.map_some]
  have hjournal : backWithin.journal.map (·.began) = [0, 1, 1, 3] := by decide +kernel
  have hone : i = 1 := by
    rw [hjournal] at hmap
    match j, hmap with
    | 0, h | 1, h | 2, h | 3, h =>
      have hx := Option.some.inj h
      omega
  subst hone
  have hloans : (backWithin.journal[1]?).all (fun e => e.draft.tables.loans.entries.all fun row =>
    !backWithin.ledger.tables.loanIsOut row.1) = true := by decide +kernel
  have hholds : (backWithin.journal[1]?).all (fun e => e.draft.tables.reservations.entries.all fun row =>
    !backWithin.ledger.tables.holdIsPending row.1) = true := by decide +kernel
  simp only [hi, Option.all_some] at hloans hholds
  exact ⟨hloans, hholds⟩

/-- Two transactions that passed all limits there have overlapped, and yet the user is within them again. -/
theorem backWithin_limits : (∃ e x, Overlapping backWithin.journal e x) ∧
    ((backWithin.ledger.tables.borrowedBy 4).length : Int) ≤ sparing.maxLoans ∧
    (backWithin.ledger.tables.borrowedOnTitle 4 1).length ≤ 1 ∧
    ((backWithin.ledger.tables.pendingOf 4).length : Int) ≤ sparing.maxReservations + 1 := by
  have holds := limits_hold (by decide) backWithin_reachable 4
  refine ⟨⟨_, _, 1, 2, Option.some_get (by decide +kernel) |>.symm, Option.some_get (by decide +kernel) |>.symm, by decide,
    by decide +kernel⟩, holds.1 fun e x ho hboth => ?_, holds.2.1 1 fun e x ho hboth => ?_, holds.2.2 fun e x ho hboth => ?_⟩
  · obtain ⟨⟨i, l, -, hl, -, -, hout⟩, -⟩ := hboth
    have hnone := List.all_eq_true.1 (backWithin_overlaps ho).1 (i, l) (Table.mem_entries.2 hl)
    simp [hout] at hnone
  · obtain ⟨⟨i, l, -, hl, -, -, -, hout⟩, -⟩ := hboth
    have hnone := List.all_eq_true.1 (backWithin_overlaps ho).1 (i, l) (Table.mem_entries.2 hl)
    simp [hout] at hnone
  · obtain ⟨⟨i, r, -, hr, -, -, hpending⟩, -⟩ := hboth
    have hnone := List.all_eq_true.1 (backWithin_overlaps ho).2 (i, r) (Table.mem_entries.2 hr)
    simp [hpending] at hnone

end Circulation
