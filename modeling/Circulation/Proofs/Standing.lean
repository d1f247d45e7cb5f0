import Circulation.Proofs.Moves

/-!
# Where copies stand

A copy's status sums up two other tables: it is on loan when one borrowed loan is of it, on reserve when one pending
reservation is on it, and available when there is neither. `Tables.Consistent` says so of all copies at once, with what
it takes to stay so: loans and reservations are of copies that exist, and nobody has two pending reservations on a title.
A move keeps tables consistent (`Move.consistent`), and what tables say of one copy depends on the rows that name it
(`SameOn`).
-/

namespace Circulation

namespace Tables

/-- Whether a loan is out on a copy. -/
def Out (t : Tables) (copyId loanId : Int) : Prop :=
  ∃ l, t.loans.get? loanId = some l ∧ l.copyId = copyId ∧ l.isBorrowed = true

/-- Whether a reservation holds a copy. -/
def Held (t : Tables) (copyId reservationId : Int) : Prop :=
  ∃ r, t.reservations.get? reservationId = some r ∧ r.copyId = copyId ∧ r.isPending = true

/-- What each status says of the loans and reservations of a copy. -/
inductive Fits (t : Tables) (copyId : Int) : CopyStatus → Prop where
  | available : (∀ i, ¬t.Out copyId i) → (∀ i, ¬t.Held copyId i) → Fits t copyId .available
  | onLoan (i : Int) :
    t.Out copyId i → (∀ j, t.Out copyId j → j = i) → (∀ j, ¬t.Held copyId j) → Fits t copyId .onLoan
  | onReserve (i : Int) :
    t.Held copyId i → (∀ j, t.Held copyId j → j = i) → (∀ j, ¬t.Out copyId j) → Fits t copyId .onReserve

/-- Whether nobody has two pending reservations on a title. -/
def OnePerTitle (t : Tables) : Prop :=
  ∀ i j r s, t.reservations.get? i = some r → t.reservations.get? j = some s → r.isPending = true →
    s.isPending = true → r.userId = s.userId → r.bookId = s.bookId → i = j

/-- Whether copies, loans and reservations go together. -/
structure Consistent (t : Tables) : Prop where
  fits : ∀ id c, t.copies.get? id = some c → t.Fits id c.status
  withdrawn : ∀ id c, t.copies.get? id = some c → c.isDeleted = true → c.status = .available
  loans : t.loans.All fun l => t.copies.contains l.copyId = true
  reservations : t.reservations.All fun r => t.copies.contains r.copyId = true
  titles : t.OnePerTitle

variable {t t' : Tables}

theorem Consistent.empty : Consistent {} where
  fits _ _ h := by cases h
  withdrawn _ _ h := by cases h
  loans _ _ h := by cases h
  reservations _ _ h := by cases h
  titles _ _ _ _ h := by cases h

/-- The loans out on copies, after a loan's row is kept. -/
theorem out_insert {k : Int} {l : Loan} (h : t'.loans = t.loans.insert k l) (c i : Int) :
    t'.Out c i ↔ if i = k then l.copyId = c ∧ l.isBorrowed = true else t.Out c i := by
  simp only [Out, h, Table.get?_insert]
  split
  · simp
  · exact Iff.rfl

/-- The reservations that hold copies, after a reservation's row is kept. -/
theorem held_insert {k : Int} {r : Reservation} (h : t'.reservations = t.reservations.insert k r) (c i : Int) :
    t'.Held c i ↔ if i = k then r.copyId = c ∧ r.isPending = true else t.Held c i := by
  simp only [Held, h, Table.get?_insert]
  split
  · simp
  · exact Iff.rfl

/-- Which loans are out on a copy is told by the loans. -/
theorem out_congr (h : t'.loans = t.loans) (c i : Int) : t'.Out c i ↔ t.Out c i := by
  simp only [Out, h]

/-- Which reservations hold a copy is told by the reservations. -/
theorem held_congr (h : t'.reservations = t.reservations) (c i : Int) : t'.Held c i ↔ t.Held c i := by
  simp only [Held, h]

/-- A loan has one copy. -/
theorem Out.eq {c c' i : Int} (h : t.Out c i) (h' : t.Out c' i) : c = c' := by
  obtain ⟨l, hl, rfl, -⟩ := h
  obtain ⟨l', hl', rfl, -⟩ := h'
  cases hl.symm.trans hl'
  rfl

/-- A status fits that fitted when the same loans and reservations were of the copy. -/
theorem Fits.congr {c : Int} {status : CopyStatus} (h : t.Fits c status) (hout : ∀ i, t'.Out c i ↔ t.Out c i)
    (hheld : ∀ i, t'.Held c i ↔ t.Held c i) : t'.Fits c status := by
  cases h with
  | available ho hh => exact .available (fun i hi => ho i ((hout i).1 hi)) fun i hi => hh i ((hheld i).1 hi)
  | onLoan i hi ho hh =>
    exact .onLoan i ((hout i).2 hi) (fun j hj => ho j ((hout j).1 hj)) fun j hj => hh j ((hheld j).1 hj)
  | onReserve i hi hh ho =>
    exact .onReserve i ((hheld i).2 hi) (fun j hj => hh j ((hheld j).1 hj)) fun j hj => ho j ((hout j).1 hj)

/-- Whether two tables say the same of a copy. -/
structure SameOn (t t' : Tables) (copyId : Int) : Prop where
  copy : t'.copies.get? copyId = t.copies.get? copyId
  loans : ∀ i l, l.copyId = copyId → (t.loans.get? i = some l ↔ t'.loans.get? i = some l)
  reservations : ∀ i r, r.copyId = copyId → (t.reservations.get? i = some r ↔ t'.reservations.get? i = some r)

namespace SameOn

variable {c i : Int}

theorem trans {t'' : Tables} (h : t.SameOn t' c) (h' : t'.SameOn t'' c) : t.SameOn t'' c :=
  ⟨h'.copy.trans h.copy, fun i l hl => (h.loans i l hl).trans (h'.loans i l hl),
    fun i r hr => (h.reservations i r hr).trans (h'.reservations i r hr)⟩

/-- Tables that say the same of a copy have the same loans out on it. -/
theorem out (h : t.SameOn t' c) : t.Out c i ↔ t'.Out c i :=
  exists_congr fun l => and_congr_left fun hl => h.loans i l hl.1

/-- Tables that say the same of a copy have the same reservations hold it. -/
theorem held (h : t.SameOn t' c) : t.Held c i ↔ t'.Held c i :=
  exists_congr fun r => and_congr_left fun hr => h.reservations i r hr.1

/-- A status that fits a copy in tables fits it in others that say the same of it. -/
theorem fits {status : CopyStatus} (h : t.SameOn t' c) (hf : t.Fits c status) : t'.Fits c status :=
  hf.congr (fun _ => h.out.symm) fun _ => h.held.symm

end SameOn

/-- Tables stay consistent when what changes concerns one copy, which fits afterwards. -/
theorem Consistent.change (h : t.Consistent) (id : Int)
    (hcopies : ∀ j, j ≠ id → t'.copies.get? j = t.copies.get? j)
    (hkept : t.copies.contains id = true → t'.copies.contains id = true)
    (hout : ∀ j, j ≠ id → ∀ i, t'.Out j i ↔ t.Out j i) (hheld : ∀ j, j ≠ id → ∀ i, t'.Held j i ↔ t.Held j i)
    (hone : ∀ c, t'.copies.get? id = some c → t'.Fits id c.status ∧ (c.isDeleted = true → c.status = .available))
    (hloans : t'.loans.All fun l => t.copies.contains l.copyId = true)
    (hreservations : t'.reservations.All fun r => t.copies.contains r.copyId = true) (htitles : t'.OnePerTitle) : t'.Consistent := by
  have hall : ∀ j, t.copies.contains j = true → t'.copies.contains j = true := by
    intro j hj
    by_cases hid : j = id
    · subst hid
      exact hkept hj
    · rwa [Table.contains, hcopies j hid]
  refine ⟨fun j c hc => ?_, fun j c hc hd => ?_, fun i l hl => hall _ (hloans i l hl),
    fun i r hr => hall _ (hreservations i r hr), htitles⟩
  · by_cases hid : j = id
    · subst hid
      exact (hone c hc).1
    · exact (h.fits j c (hcopies j hid ▸ hc)).congr (hout j hid) (hheld j hid)
  · by_cases hid : j = id
    · subst hid
      exact (hone c hc).2 hd
    · exact h.withdrawn j c (hcopies j hid ▸ hc) hd

/-- Two pending reservations on a copy are one. -/
theorem Consistent.held_eq {c i j : Int} (h : t.Consistent) (hi : t.Held c i) (hj : t.Held c j) : i = j := by
  obtain ⟨r, hr, rfl, -⟩ := id hi
  obtain ⟨copy, hcopy⟩ := Table.contains_iff.1 (h.reservations i r hr)
  have hfits := h.fits _ copy hcopy
  generalize copy.status = status at hfits
  cases hfits with
  | available _ hheld => exact absurd hi (hheld i)
  | onLoan _ _ _ hheld => exact absurd hi (hheld i)
  | onReserve k _ hone => exact (hone i hi).trans (hone j hj).symm

/-- Two borrowed loans of a copy are one. -/
theorem Consistent.out_eq {c i j : Int} (h : t.Consistent) (hi : t.Out c i) (hj : t.Out c j) : i = j := by
  obtain ⟨l, hl, rfl, -⟩ := id hi
  obtain ⟨copy, hcopy⟩ := Table.contains_iff.1 (h.loans i l hl)
  have hfits := h.fits _ copy hcopy
  generalize copy.status = status at hfits
  cases hfits with
  | available hout _ => exact absurd hi (hout i)
  | onReserve _ _ _ hout => exact absurd hi (hout i)
  | onLoan k _ hone => exact (hone i hi).trans (hone j hj).symm

/-- A copy that a borrowed loan is of is on loan. -/
theorem Consistent.status_of_out {c : Copy} {id i : Int} (h : t.Consistent) (hc : t.copies.get? id = some c)
    (hi : t.Out id i) : c.status = .onLoan := by
  have hfits := h.fits id c hc
  generalize c.status = status at hfits
  cases hfits with
  | available hout _ => exact absurd hi (hout i)
  | onReserve _ _ _ hout => exact absurd hi (hout i)
  | onLoan => rfl

/-- A copy that a pending reservation is on is on reserve. -/
theorem Consistent.status_of_held {c : Copy} {id i : Int} (h : t.Consistent) (hc : t.copies.get? id = some c)
    (hi : t.Held id i) : c.status = .onReserve := by
  have hfits := h.fits id c hc
  generalize c.status = status at hfits
  cases hfits with
  | available _ hheld => exact absurd hi (hheld i)
  | onLoan _ _ _ hheld => exact absurd hi (hheld i)
  | onReserve => rfl

/-- Two pending reservations that stand against each other are one. -/
theorem Consistent.not_collides {i j : Int} {r s : Reservation} (h : t.Consistent)
    (hr : t.reservations.get? i = some r) (hs : t.reservations.get? j = some s) (hrp : r.isPending = true)
    (hsp : s.isPending = true)
    (heq : s.copyId = r.copyId ∨ s.userId = r.userId ∧ s.bookId = r.bookId) : i = j := by
  rcases heq with hcopy | ⟨huser, hbook⟩
  · exact h.held_eq ⟨r, hr, rfl, hrp⟩ ⟨s, hs, hcopy, hsp⟩
  · exact h.titles i j r s hr hs hrp hsp huser.symm hbook.symm

/-- A reservation is kept that stands against no other of its user on its title. -/
theorem OnePerTitle.insert {k : Int} {r : Reservation} (h : t.OnePerTitle)
    (ht : t'.reservations = t.reservations.insert k r)
    (hr : r.isPending = true → ∀ j s, t.reservations.get? j = some s → s.isPending = true → r.userId = s.userId →
      r.bookId = s.bookId → j = k) : t'.OnePerTitle := by
  intro i j a b ha hb hpa hpb huser hbook
  rw [ht, Table.get?_insert] at ha hb
  split at ha
  · rename_i hi
    cases ha
    split at hb
    · rename_i hj
      exact hi.trans hj.symm
    · exact hi.trans (hr hpa j b hb hpb huser hbook).symm
  · split at hb
    · rename_i hj
      cases hb
      exact (hr hpb i a ha hpa huser.symm hbook.symm).trans hj.symm
    · exact h i j a b ha hb hpa hpb huser hbook

end Tables

/-! ## What moves do -/

section

variable {rules : Rules} {policy : Policy} {base : Ledger} {d d' : Draft} {m m' : Moment} {c : Copy}

/-- A fulfilled reservation holds its copy no longer. -/
theorem Draft.held_fulfilled (d : Draft) (r : Reservation) (t : Instant) (copyId i : Int) :
    (d.fulfilled r t).tables.Held copyId i ↔ d.tables.Held copyId i ∧ i ≠ r.id := by
  rw [Tables.held_insert rfl]
  split
  · rename_i hi
    simp [hi, Reservation.isPending]
  · rename_i hi
    simp [hi]

/-- A hold that is fulfilled leaves nobody with two pending reservations on a title. -/
theorem Draft.fulfilled_titles {r : Reservation} (h : d.tables.OnePerTitle) (t : Instant) :
    (d.fulfilled r t).tables.OnePerTitle :=
  h.insert rfl fun hp => by simp [Reservation.isPending] at hp

/-- A hold that is fulfilled is of the copy that it was of. -/
theorem Draft.fulfilled_named {r : Reservation} {P : Int → Prop} (h : d.tables.reservations.All fun r => P r.copyId)
    (hr : d.tables.reservations.get? r.id = some r) (t : Instant) :
    (d.fulfilled r t).tables.reservations.All fun r => P r.copyId :=
  h.insert (h r.id r hr)

/-- A copy on reserve is held by the one pending reservation there is on it. -/
theorem Tables.Consistent.only_held (h : d.tables.Consistent) (hc : d.Holding c) (hstatus : c.status = .onReserve)
    {r : Reservation} (hr : d.tables.reservations.get? r.id = some r) (hp : r.isPending = true) (hrc : r.copyId = c.id) :
    (∀ i, d.tables.Held c.id i → i = r.id) ∧ ∀ i, ¬d.tables.Out c.id i := by
  have hfits := h.fits c.id c hc.row
  rw [hstatus] at hfits
  cases hfits with
  | onReserve i hi hone hout =>
    have hri : r.id = i := hone r.id ⟨r, hr, hrc, hp⟩
    exact ⟨fun j hj => (hone j hj).trans hri.symm, hout⟩

/-- A copy on loan is out by the one borrowed loan there is of it. -/
theorem Tables.Consistent.only_out (h : d.tables.Consistent) (hc : d.Holding c) (hstatus : c.status = .onLoan)
    {l : Loan} (hl : d.tables.loans.get? l.id = some l) (hb : l.isBorrowed = true) (hlc : l.copyId = c.id) :
    (∀ i, d.tables.Out c.id i → i = l.id) ∧ ∀ i, ¬d.tables.Held c.id i := by
  have hfits := h.fits c.id c hc.row
  rw [hstatus] at hfits
  cases hfits with
  | onLoan i hi hone hheld =>
    have hli : l.id = i := hone l.id ⟨l, hl, hlc, hb⟩
    exact ⟨fun j hj => (hone j hj).trans hli.symm, hheld⟩

/-- A copy that is held on the shelf is neither out nor held. -/
theorem Tables.Consistent.free (h : d.tables.Consistent) (hc : d.Holding c) (hstatus : c.status = .available) :
    (∀ i, ¬d.tables.Out c.id i) ∧ ∀ i, ¬d.tables.Held c.id i := by
  have hfits := h.fits c.id c hc.row
  rw [hstatus] at hfits
  cases hfits with
  | available hout hheld => exact ⟨hout, hheld⟩

/-- A released copy is neither out nor held, and no other copy is concerned. -/
theorem Released.free {userId : Int} (h : Released d c userId d') (ht : d.tables.Consistent) (hc : d.Holding c) :
    (∀ i, ¬d'.tables.Out c.id i) ∧ (∀ i, ¬d'.tables.Held c.id i) ∧
      (∀ j, j ≠ c.id → ∀ i, d'.tables.Held j i ↔ d.tables.Held j i) ∧ d'.tables.OnePerTitle ∧
      d'.tables.reservations.All fun r => d.tables.copies.contains r.copyId = true := by
  cases h with
  | shelf hstatus =>
    obtain ⟨hout, hheld⟩ := ht.free hc hstatus
    exact ⟨hout, hheld, fun _ _ _ => Iff.rfl, ht.titles, ht.reservations⟩
  | hold r t hstatus hr hp hrc huser =>
    obtain ⟨hone, hout⟩ := ht.only_held hc hstatus hr hp hrc
    refine ⟨hout, fun i hi => ?_, fun j hj i => ?_, Draft.fulfilled_titles ht.titles t,
      Draft.fulfilled_named (P := fun j => d.tables.copies.contains j = true) ht.reservations hr t⟩
    · obtain ⟨hi, hne⟩ := (d.held_fulfilled r t c.id i).1 hi
      exact hne (hone i hi)
    · refine (d.held_fulfilled r t j i).trans ⟨fun h => h.1, fun h => ⟨h, fun hi => hj ?_⟩⟩
      obtain ⟨r', hr', hj', -⟩ := h
      subst hi
      cases hr.symm.trans hr'
      exact hj'.symm.trans hrc

/-- A loan that is opened is the one new loan out. -/
theorem Opened.out {userId : Int} {l : Loan} (h : Opened rules policy d m c userId l d' m') (hs : d.Stands base m.lastId)
    (copyId i : Int) : d'.tables.Out copyId i ↔ (i = l.id ∧ copyId = c.id) ∨ d.tables.Out copyId i := by
  cases h with
  | @intro t due _ k _ _ _ _ _ hk =>
    have hnew : d.tables.loans.get? k = none := hs.loans.keyed.none_of_lt hk
    rw [Tables.out_insert (t := d.tables) rfl]
    split
    · rename_i hi
      have hi : i = k := hi
      subst hi
      simp [NewLoan.toRow, Loan.isBorrowed, Tables.Out, hnew, eq_comm]
    · rename_i hi
      have hi : i ≠ k := hi
      simp [hi, NewLoan.toRow]

/-- A renewal leaves the same loans out. -/
theorem Renewed.out {l : Loan} (h : Renewed rules policy d m l d' m') (copyId i : Int) :
    d'.tables.Out copyId i ↔ d.tables.Out copyId i := by
  cases h with
  | intro hl hb =>
    rw [Tables.out_insert rfl]
    split
    · rename_i hi
      subst hi
      exact ⟨fun h => ⟨l, hl, h⟩, fun ⟨l', hl', h⟩ => by cases hl.symm.trans hl'; exact h⟩
    · exact Iff.rfl

/-- A loan that is closed is out no longer. -/
theorem Returned.out {l : Loan} (h : Returned rules policy d m l d' m') (copyId i : Int) :
    d'.tables.Out copyId i ↔ d.tables.Out copyId i ∧ i ≠ l.id := by
  cases h with
  | @intro t d₁ _ _ _ _ _ _ _ _ hf =>
    rw [Tables.out_insert (t := d₁.tables) rfl, Tables.out_congr hf.frame.2.loans]
    split
    · rename_i hi
      simp [hi, Loan.closed, Loan.isBorrowed]
    · rename_i hi
      exact ⟨fun h => ⟨h, hi⟩, fun h => h.1⟩

/-- The loans after one is opened are of the copies they were of and of the copy lent. -/
theorem Opened.named {userId : Int} {l : Loan} {P : Int → Prop} (h : Opened rules policy d m c userId l d' m')
    (hall : d.tables.loans.All fun l => P l.copyId) (hc : P c.id) : d'.tables.loans.All fun l => P l.copyId := by
  cases h
  exact hall.insert hc

/-- A loan that is renewed is of the copy that it was of. -/
theorem Renewed.named {l : Loan} {P : Int → Prop} (h : Renewed rules policy d m l d' m')
    (hall : d.tables.loans.All fun l => P l.copyId) : d'.tables.loans.All fun l => P l.copyId := by
  cases h with
  | intro hl => exact hall.insert (hall l.id l hl)

/-- A loan that is returned is of the copy that it was of. -/
theorem Returned.named {l : Loan} {P : Int → Prop} (h : Returned rules policy d m l d' m')
    (hall : d.tables.loans.All fun l => P l.copyId) : d'.tables.loans.All fun l => P l.copyId := by
  cases h with
  | @intro t d₁ _ _ _ _ hl _ _ _ hf =>
    have hall₁ : d₁.tables.loans.All fun l => P l.copyId := by rw [hf.frame.2.loans]; exact hall
    exact hall₁.insert (hall l.id l hl)

/-- A copy that is moved is the one copy whose row changes, and it fits when its new status does. -/
theorem Tables.Consistent.moved (h : d.tables.Consistent) (hc : d.Holding c) {d₁ : Draft} (status : CopyStatus) (t : Instant)
    (hcopies : d₁.tables.copies = d.tables.copies)
    (hout : ∀ j, j ≠ c.id → ∀ i, d₁.tables.Out j i ↔ d.tables.Out j i)
    (hheld : ∀ j, j ≠ c.id → ∀ i, d₁.tables.Held j i ↔ d.tables.Held j i) (hfits : d₁.tables.Fits c.id status)
    (hloans : d₁.tables.loans.All fun l => d.tables.copies.contains l.copyId = true)
    (hreservations : d₁.tables.reservations.All fun r => d.tables.copies.contains r.copyId = true)
    (htitles : d₁.tables.OnePerTitle) : (d₁.moved c status t).tables.Consistent := by
  have hrow : ∀ j, (d₁.moved c status t).tables.copies.get? j =
      if j = c.id then some { c with status := status, updatedAt := t } else d.tables.copies.get? j := by
    intro j
    rw [← hcopies]
    exact Table.get?_insert _ _ _ _
  refine h.change c.id (fun j hj => ?_) (fun _ => ?_) hout hheld (fun c' hc' => ?_) hloans hreservations htitles
  · rw [hrow, if_neg hj]
  · exact Table.contains_of_get? (hrow c.id ▸ if_pos rfl)
  · rw [hrow, if_pos rfl] at hc'
    cases hc'
    have hlive : c.deletedAt.isSome = false := hc.live
    exact ⟨hfits.congr (fun _ => Iff.rfl) fun _ => Iff.rfl, fun hd => by simp [Copy.isDeleted, hlive] at hd⟩

/-- Tables stay consistent when neither copies nor loans nor reservations change. -/
theorem Tables.Consistent.congr {t t' : Tables} (h : t.Consistent) (hcopies : t'.copies = t.copies)
    (hloans : t'.loans = t.loans) (hreservations : t'.reservations = t.reservations) : t'.Consistent where
  fits id c hc := (h.fits id c (hcopies ▸ hc)).congr (out_congr hloans id) (held_congr hreservations id)
  withdrawn id c hc := h.withdrawn id c (hcopies ▸ hc)
  loans i l hl := hcopies ▸ h.loans i l (hloans ▸ hl)
  reservations i r hr := hcopies ▸ h.reservations i r (hreservations ▸ hr)
  titles i j r s hr hs := h.titles i j r s (hreservations ▸ hr) (hreservations ▸ hs)

theorem Tables.OnePerTitle.congr {t t' : Tables} (h : t.OnePerTitle) (hreservations : t'.reservations = t.reservations) :
    t'.OnePerTitle :=
  fun i j r s hr hs => h i j r s (hreservations ▸ hr) (hreservations ▸ hs)

/-- A copy is lent: the loan that is opened is the one that is out on it. -/
theorem consistent_borrow {userId : Int} {l : Loan} {d₁ d₂ : Draft} (t : Instant) (h : d.tables.Consistent)
    (hs : d.Stands base m.lastId) (hc : d.Holding c) (hr : Released d c userId d₁)
    (ho : Opened rules policy d₁ m c userId l d₂ m') : (d₂.moved c .onLoan t).tables.Consistent := by
  obtain ⟨hout, hheld, hothers, htitles, hnamed⟩ := hr.free h hc
  obtain ⟨hcopies, -, ⟨hloans, -⟩⟩ := hr.frame
  obtain ⟨hcopies₂, hreservations, -⟩ := ho.frame
  have hout₂ := ho.out (hr.stands hs)
  have hheld₂ := Tables.held_congr hreservations
  have hloans₁ : d₁.tables.loans.All fun l => d.tables.copies.contains l.copyId = true := hloans ▸ h.loans
  refine h.moved hc .onLoan t (hcopies₂.trans hcopies) (fun j hj i => ?_) (fun j hj i => ?_) ?_
    (ho.named (P := fun j => d.tables.copies.contains j = true) hloans₁ (Table.contains_of_get? hc.row)) (hreservations ▸ hnamed) (htitles.congr hreservations)
  · rw [hout₂, Tables.out_congr hloans]
    simp [hj]
  · exact (hheld₂ j i).trans (hothers j hj i)
  · refine .onLoan l.id ((hout₂ c.id l.id).2 (.inl ⟨rfl, rfl⟩)) (fun j hj => ?_) fun j hj => hheld j ((hheld₂ _ _).1 hj)
    rcases (hout₂ c.id j).1 hj with ⟨hj, -⟩ | hj
    · exact hj
    · exact absurd hj (hout j)

/-- A copy is taken back: the one loan that was out on it is closed. -/
theorem consistent_takeBack {l : Loan} {d₁ : Draft} (t : Instant) (h : d.tables.Consistent) (hc : d.Holding c)
    (hstatus : c.status = .onLoan) (hlc : l.copyId = c.id) (hr : Returned rules policy d m l d₁ m') :
    (d₁.moved c .available t).tables.Consistent := by
  obtain ⟨hl, hb⟩ := hr.row
  obtain ⟨hone, hheld⟩ := h.only_out hc hstatus hl hb hlc
  obtain ⟨hcopies, hreservations, -⟩ := hr.frame
  refine h.moved hc .available t hcopies (fun j hj i => ?_) (fun j _ i => Tables.held_congr hreservations j i) ?_
    (hr.named (P := fun j => d.tables.copies.contains j = true) h.loans) (hreservations ▸ h.reservations)
    (h.titles.congr hreservations)
  · refine (hr.out j i).trans ⟨fun h => h.1, fun hi => ⟨hi, fun hil => hj ?_⟩⟩
    subst hil
    exact hi.eq ⟨l, hl, hlc, hb⟩
  · refine .available (fun i hi => ?_) fun i hi => hheld i ((Tables.held_congr hreservations _ i).1 hi)
    obtain ⟨hi, hne⟩ := (hr.out c.id i).1 hi
    exact hne (hone i hi)

/-- A renewal keeps the tables consistent. -/
theorem consistent_renew {l : Loan} (h : d.tables.Consistent) (hr : Renewed rules policy d m l d' m') :
    d'.tables.Consistent := by
  obtain ⟨hcopies, hreservations, -⟩ := hr.frame
  have hnamed := hr.named (P := fun j => d.tables.copies.contains j = true) h.loans
  exact {
    fits := fun id c hc => (h.fits id c (hcopies ▸ hc)).congr (hr.out id) (Tables.held_congr hreservations id)
    withdrawn := fun id c hc => h.withdrawn id c (hcopies ▸ hc)
    loans := hcopies ▸ hnamed
    reservations := by rw [hcopies, hreservations]; exact h.reservations
    titles := h.titles.congr hreservations }

/-- A copy is held: nothing was on it, and nothing else is pending for its user on its title. -/
theorem consistent_reserve {userId k : Int} {t expiry : Instant} (t' : Instant) (h : d.tables.Consistent)
    (hs : d.Stands base m.lastId) (hc : d.Holding c) (hstatus : c.status = .available)
    (hmay : MayReserve policy d userId c.bookId) (hk : m.lastId < k) :
    ((d.putReservation (NewReservation.toRow ⟨c.id, c.bookId, userId, expiry, t⟩ k) k).moved
      c .onReserve t').tables.Consistent := by
  obtain ⟨hout, hheld⟩ := h.free hc hstatus
  have hnew : d.tables.reservations.get? k = none := hs.reservations.keyed.none_of_lt hk
  have hheld' : ∀ j i, (d.putReservation (NewReservation.toRow ⟨c.id, c.bookId, userId, expiry, t⟩ k) k).tables.Held j i ↔
      (i = k ∧ j = c.id) ∨ d.tables.Held j i := by
    intro j i
    rw [Tables.held_insert (t := d.tables) rfl]
    split
    · rename_i hi
      subst hi
      simp [NewReservation.toRow, Reservation.isPending, Tables.Held, hnew, eq_comm]
    · rename_i hi
      simp [hi]
  refine h.moved hc .onReserve t' rfl (fun _ _ _ => Iff.rfl) (fun j hj i => ?_) ?_ h.loans
    (h.reservations.insert (Table.contains_of_get? hc.row)) (h.titles.insert rfl fun _ j s hs' hp huser hbook => ?_)
  · rw [hheld']
    simp [hj]
  · refine .onReserve k ((hheld' c.id k).2 (.inl ⟨rfl, rfl⟩)) (fun j hj => ?_) hout
    rcases (hheld' c.id j).1 hj with ⟨hj, -⟩ | hj
    · exact hj
    · exact absurd hj (hheld j)
  · have hmem : s ∈ d.tables.pendingOnTitle userId c.bookId := by
      refine List.mem_filter.2 ⟨Table.mem_rows.2 ⟨j, hs'⟩, ?_⟩
      simpa [hp, NewReservation.toRow] using And.intro huser.symm hbook.symm
    have hnil := List.length_eq_zero_iff.1 hmay.title
    rw [hnil] at hmem
    nomatch hmem

/-- A hold is released: the one reservation that was pending on the copy is fulfilled. -/
theorem consistent_cancel {r : Reservation} (t t' : Instant) (h : d.tables.Consistent) (hc : d.Holding c)
    (hstatus : c.status = .onReserve) (hr : d.tables.reservations.get? r.id = some r) (hp : r.isPending = true)
    (hrc : r.copyId = c.id) : ((d.fulfilled r t).moved c .available t').tables.Consistent := by
  have hfree := Released.free (.hold r t hstatus hr hp hrc rfl) h hc
  obtain ⟨hout, hheld, hothers, htitles, hnamed⟩ := hfree
  exact h.moved hc .available t' rfl (fun _ _ _ => Iff.rfl) hothers (.available hout hheld) h.loans hnamed htitles

/-- A copy is added: no loan and no reservation is of a copy that is not there yet. -/
theorem consistent_addCopy {bookId k : Int} {t : Instant} (h : d.tables.Consistent) (hs : d.Stands base m.lastId)
    (hk : m.lastId < k) : (d.putCopy (NewCopy.toRow ⟨bookId, t⟩ k) k).tables.Consistent := by
  have hnew : d.tables.copies.get? k = none := hs.copies.keyed.none_of_lt hk
  have hnot : ∀ j, d.tables.copies.contains j = true → j ≠ k := by
    intro j hj hjk
    subst hjk
    exact Table.not_contains_iff.2 hnew hj
  refine h.change k (fun j hj => ?_) (fun _ => ?_) (fun _ _ _ => Iff.rfl) (fun _ _ _ => Iff.rfl) (fun c hc => ?_)
    h.loans h.reservations h.titles
  · simp [Draft.putCopy, hj]
  · simp [Draft.putCopy]
  · simp only [Draft.putCopy, Table.get?_insert, if_true] at hc
    cases hc
    refine ⟨.available (fun i hi => ?_) fun i hi => ?_, fun _ => rfl⟩
    · obtain ⟨l, hl, hlk, -⟩ := hi
      exact hnot _ (h.loans i l hl) hlk
    · obtain ⟨r, hr, hrk, -⟩ := hi
      exact hnot _ (h.reservations i r hr) hrk

/-- A copy is withdrawn: it is available, and stays so. -/
theorem consistent_withdraw (t : Instant) (h : d.tables.Consistent) (hc : d.Holding c) (hstatus : c.status = .available) :
    (d.putCopy { c with deletedAt := some t, updatedAt := t } c.id).tables.Consistent := by
  obtain ⟨hout, hheld⟩ := h.free hc hstatus
  refine h.change c.id (fun j hj => ?_) (fun _ => ?_) (fun _ _ _ => Iff.rfl) (fun _ _ _ => Iff.rfl)
    (fun c' hc' => ?_) h.loans h.reservations h.titles
  · simp [Draft.putCopy, hj]
  · simp [Draft.putCopy]
  · simp only [Draft.putCopy, Table.get?_insert, if_true] at hc'
    cases hc'
    refine ⟨?_, fun _ => hstatus⟩
    rw [show ({ c with deletedAt := some t, updatedAt := t } : Copy).status = .available from hstatus]
    exact .available hout hheld

/-- A move keeps tables consistent. -/
theorem Move.consistent (hm : Move rules policy d m d' m') (hs : d.Stands base m.lastId) (h : d.tables.Consistent) :
    d'.tables.Consistent := by
  cases hm with
  | lock c _ => exact h
  | borrow t hc _ hr ho => exact consistent_borrow t h hs hc hr ho
  | takeBack t hc hstatus hlc hr => exact consistent_takeBack t h hc hstatus hlc hr
  | renew _ _ _ hr => exact consistent_renew h hr
  | reserve t' hc hstatus hmay _ hk _ => exact consistent_reserve t' h hs hc hstatus hmay hk
  | cancel t t' hc hstatus hr hp hrc => exact consistent_cancel t t' h hc hstatus hr hp hrc
  | addCopy _ _ hk _ => exact consistent_addCopy h hs hk
  | withdraw t hc hstatus => exact consistent_withdraw t h hc hstatus
  | settle t _ _ => exact h.congr rfl rfl rfl

end

end Circulation
