import Circulation.Proofs.Amid
import Circulation.Proofs.Finality

/-!
# Releasing a hold

What the commit of a cancellation does to the ledger it meets, however old the draft is. The draft locked the copy of the
hold, so a commit that goes through meets the hold still pending and the copy still on reserve for it, and leaves the one
fulfilled, the other available and everything else as it met it (`Committing.closes`). If the hold was closed before, or
the copy lent, withdrawn or held again, the commit is refused.
-/

namespace Circulation

open Lasting

/-- Whether a transaction did nothing but cancel a reservation, which it found pending and its copy on reserve. -/
structure Transaction.Releasing (x : Transaction) (r : Reservation) (c : Copy) (t t' : Instant) : Prop where
  holding : (x.base.draft.lock c.id).Holding c
  reserved : c.status = .onReserve
  reservation : x.base.tables.reservations.get? r.id = some r
  pending : r.isPending = true
  copyId : r.copyId = c.id
  draft : x.draft = ((x.base.draft.lock c.id).fulfilled r t).moved c .available t'

/-- Such a transaction closes the reservation. -/
theorem Transaction.Releasing.closedBy {x : Transaction} {r : Reservation} {c : Copy} {t t' : Instant}
    (h : x.Releasing r c t t') : Closable.reservations.ClosedBy x r.id := by
  refine ⟨⟨{ r with status := .fulfilled, updatedAt := t }, ?_, rfl⟩, ?_⟩
  · rw [h.draft]
    exact (Draft.fulfilled_reservation ..).trans (if_pos rfl)
  · rintro ⟨a, ha, hclosed⟩
    cases h.reservation.symm.trans ha
    simp [Closable.reservations, h.pending] at hclosed

/-- Whether a commit closes a reservation and nothing else: it met the reservation pending and its copy on reserve for it
alone, and left the one fulfilled, the other available and every other row as it met it. -/
structure OwnCommit.Closes (own : OwnCommit) (r : Reservation) (c : Copy) (t t' : Instant) : Prop where
  reservation : own.met.tables.reservations.get? r.id = some r
  pending : r.isPending = true
  copy : own.met.tables.copies.get? r.copyId = some c
  live : c.isDeleted = false
  reserved : c.status = .onReserve
  held : ∀ i, own.met.tables.Held r.copyId i ↔ i = r.id
  out : ∀ i, ¬own.met.tables.Out r.copyId i
  left : own.left.tables = { own.met.tables with
    copies := own.met.tables.copies.insert r.copyId { c with status := .available, updatedAt := t' }
    reservations := own.met.tables.reservations.insert r.id { r with status := .fulfilled, updatedAt := t } }

/-- Whether a commit moves a hold from pending to fulfilled and its copy from reserve to the shelf. -/
structure OwnCommit.Releases (own : OwnCommit) (hold : Reservation) : Prop where
  pending : (own.met.tables.reservations.get? hold.id).map (·.status) = some .pending
  fulfilled : (own.left.tables.reservations.get? hold.id).map (·.status) = some .fulfilled
  reserved : (own.met.tables.copies.get? hold.copyId).map (·.status) = some .onReserve
  available : (own.left.tables.copies.get? hold.copyId).map (·.status) = some .available

namespace OwnCommit

/-- Whether a commit of the source's own is the cancellation of a hold: it closes the hold and nothing else, and it stands
in the journal. -/
structure Cancels (journal : List Transaction) (own : OwnCommit) (hold : Reservation) : Prop where
  closes : ∃ r c t t', lasting r = lasting hold ∧ own.Closes r c t t'
  recorded : ∃ x, journal[own.position]? = some x ∧ Closable.reservations.ClosedBy x hold.id

variable {own : OwnCommit} {journal : List Transaction} {hold r : Reservation} {c : Copy} {t t' : Instant}

theorem Cancels.append (h : own.Cancels journal hold) (more : List Transaction) : own.Cancels (journal ++ more) hold := by
  obtain ⟨x, hx, hclosed⟩ := h.recorded
  have hlt := (List.getElem?_eq_some_iff.1 hx).1
  exact ⟨h.closes, x, by rw [List.getElem?_append_left hlt, hx], hclosed⟩

/-- The cancellation of a hold releases it. -/
theorem Cancels.releases (h : own.Cancels journal hold) : own.Releases hold := by
  obtain ⟨r, c, t, t', hlast, hcloses⟩ := h.closes
  have hid : r.id = hold.id := id_eq hlast
  have hcopy : r.copyId = hold.copyId := (Reservation.of_lasting hlast).1
  have hpending : r.status = .pending := by simpa [Reservation.isPending] using hcloses.pending
  constructor
  · simp [← hid, hcloses.reservation, hpending]
  · simp [← hid, hcloses.left]
  · simp [← hcopy, hcloses.copy, hcloses.reserved]
  · simp [← hcopy, hcloses.left]

/-- A commit that closes a reservation and nothing else releases no other hold. -/
theorem Closes.eq_of_releases (h : own.Closes r c t t') (hr : own.Releases hold) : hold.id = r.id := by
  have hpending := hr.pending
  have hfulfilled := hr.fulfilled
  refine Classical.byContradiction fun hne => ?_
  simp [h.left, hne, hpending] at hfulfilled

/-- A commit that closes a reservation leaves other copies as they were, with their loans and reservations. -/
theorem Closes.sameOn (h : own.Closes r c t t') {copyId : Int} (hne : copyId ≠ r.copyId) :
    own.met.tables.SameOn own.left.tables copyId := by
  rw [h.left]
  refine ⟨by simp [hne], fun _ _ _ => Iff.rfl, fun i a ha => ?_⟩
  by_cases hi : i = r.id
  · -- The reservation that is closed is of another copy, before and after.
    subst hi
    constructor
    · intro hmet
      cases h.reservation.symm.trans hmet
      exact absurd ha.symm hne
    · intro hleft
      simp only [Table.get?_insert, if_true, Option.some.injEq] at hleft
      subst hleft
      exact absurd ha.symm hne
  · simp [hi]

end OwnCommit

/-! ## Committing a cancellation -/

/-- Publishing one row that was written. -/
theorem Ledger.publish_one {α : Type} (source target : Table α) (id : Int) (a : α) :
    publish (IdSet.add .empty id) (source.insert id a) target = target.insert id a := by
  refine Table.ext fun j => ?_
  rw [get?_publish, Table.get?_insert, Table.get?_insert, Table.contains_add, Table.contains_empty, Bool.or_false]
  by_cases hj : j = id
  · simp [hj]
  · simp [hj]

/-- Publishing a cancellation puts the two rows in their places. -/
theorem Transaction.Releasing.publishAll {x : Transaction} {r : Reservation} {c : Copy} {t t' : Instant}
    (h : x.Releasing r c t t') (tables : Tables) : Ledger.publishAll tables x.draft = { tables with
      copies := tables.copies.insert c.id { c with status := .available, updatedAt := t' }
      reservations := tables.reservations.insert r.id { r with status := .fulfilled, updatedAt := t } } := by
  rw [h.draft, ← Ledger.publish_one x.base.tables.copies, ← Ledger.publish_one x.base.tables.reservations]
  rfl

/-- A transaction that did nothing but cancel a reservation commits by closing it, as the ledger has it by then. -/
theorem Committing.closes {l l' : Ledger} {x : Transaction} {committed : List Transaction} {r : Reservation} {c : Copy}
    {t t' : Instant} (h : Committing l x committed l') (hmoved : x.base.Unmoved l committed) (hl : l.tables.Consistent)
    (hx : x.Releasing r c t t') (position : Nat) : OwnCommit.Closes ⟨position, l, l'⟩ r c t t' := by
  have hlocked : x.draft.locked.contains c.id = true := by
    rw [hx.draft]
    exact hx.holding.locked
  -- Nobody else locked the copy in between, so the ledger says of it what the transaction found.
  have hsame := h.sameOn_locked hmoved (Table.contains_of_get? hx.holding.row) hlocked
  have hcopy : l.tables.copies.get? c.id = some c := hsame.copy.trans hx.holding.row
  have hreservation : l.tables.reservations.get? r.id = some r := (hsame.reservations r.id r hx.copyId).1 hx.reservation
  have hheld : l.tables.Held c.id r.id := ⟨r, hreservation, hx.copyId, hx.pending⟩
  have hout : ∀ i, ¬l.tables.Out c.id i := by
    have hfits := hl.fits c.id c hcopy
    rw [hx.reserved] at hfits
    cases hfits with
    | onReserve i _ _ hout => exact hout
  have hleft : l'.tables = Ledger.publishAll l.tables x.draft := by rw [h.eq]
  rw [hx.publishAll] at hleft
  constructor
  · exact hreservation
  · exact hx.pending
  · exact hx.copyId ▸ hcopy
  · exact hx.holding.live
  · exact hx.reserved
  · rw [hx.copyId]
    exact fun i => ⟨fun hi => hl.held_eq hi hheld, fun hi => hi ▸ hheld⟩
  · exact hx.copyId ▸ hout
  · exact hx.copyId ▸ hleft

end Circulation
