import Circulation.Proofs.Agreement
import Circulation.Proofs.Kinds
import Circulation.Proofs.Renaming

/-!
# Mirrors

A transaction that is about to commit has a draft made on an old ledger. `Mirror` is how a draft made on the ledger that it
meets stands to it when both have done the same deeds: the copies that are locked in the end, with their loans and their
reservations, are the same in both, new rows are the same but for their ids, and so are fines that are settled in the end. A
request that the one answered is answered by the other, with new ids, and leaves a mirror (`Mirror.answer`), so a whole
page of deeds is done again on the other draft (`Mirror.does`).
-/

namespace Circulation

/-! ## New ids for old -/

/-- The id of a row that a deed made. -/
def Deed.newId? : Deed → Option Int
  | .asked (.insertCopy _ _) (.ok c) => some c.id
  | .asked (.insertLoan _) (.ok l) => some l.id
  | .asked (.insertEntry _) (.ok e) => some e.id
  | .asked (.insertReservation _) (.ok r) => some r.id
  | .asked (.insertFine _) (.ok f) => some f.id
  | _ => none

/-- The renaming that gives some ids, in their order, those that come after a last one. -/
def renumber (ids : List Int) (last : Int) (id : Int) : Int :=
  if id ∈ ids then last + 1 + ids.idxOf id else id

section

variable {ids : List Int} {last i j : Int}

/-- An id that is not among those to be renamed stays as it is. -/
theorem renumber_of_not_mem (h : i ∉ ids) : renumber ids last i = i :=
  if_neg h

/-- A new id comes after the last one. -/
theorem lt_renumber (last : Int) (h : i ∈ ids) : last < renumber ids last i := by
  rw [renumber, if_pos h]
  omega

/-- The ids are renamed in their order, the first to the one after the last. -/
theorem renumber_getElem {n : Nat} (h : ids.Nodup) (hi : ids[n]? = some i) : renumber ids last i = last + 1 + n := by
  obtain ⟨hn, rfl⟩ := List.getElem?_eq_some_iff.1 hi
  rw [renumber, if_pos (List.getElem_mem hn), h.idxOf_getElem n hn]

/-- No two ids up to the last one are given one. -/
theorem renumber_inj (hi : i ≤ last) (hj : j ≤ last) (h : renumber ids last i = renumber ids last j) : i = j := by
  by_cases hmi : i ∈ ids <;> by_cases hmj : j ∈ ids
  · rw [renumber, renumber, if_pos hmi, if_pos hmj] at h
    exact (List.idxOf_inj hmi).1 (by omega)
  · have := lt_renumber last hmi
    rw [renumber_of_not_mem hmj] at h
    omega
  · have := lt_renumber last hmj
    rw [renumber_of_not_mem hmi] at h
    omega
  · rwa [renumber_of_not_mem hmi, renumber_of_not_mem hmj] at h

end

/-- The new id of a deed is that of the row it inserted. -/
theorem Deed.newId?_eq (d : Deed) : d.newId? = d.inserted?.map AnyRow.id := by
  rcases d with p | t | ⟨q, a⟩
  · rfl
  · rfl
  · cases q <;> cases a <;> rfl

/-- A request that makes a row makes it under the next id. -/
theorem Work.newId_of_answer {q : Request} {d : Draft} {n : Int} {a : Except Stop q.Answer} {w : Work}
    (hw : Work.answer q ⟨d, n, 0⟩ = (a, w)) {k : Int} (hk : (Deed.asked q a).newId? = some k) :
    k = n + 1 ∧ w.lastId = n + 1 ∧ w.draft.tables.Holds k := by
  rw [Deed.newId?_eq] at hk
  rcases Draft.inserted_cases hw with ⟨hnone, -⟩ | ⟨g, hsome, hid, hlast, htables, hwritten⟩
  · rw [hnone] at hk
    cases hk
  · rw [hsome] at hk
    cases hk
    exact ⟨hid, hlast, Tables.holds_of_row? hwritten (by simp [htables, Tables.row?_put])⟩

/-- The rows that deeds make have ids that come one after the other, and are there afterwards. -/
theorem Draft.Did.newIds {base : Ledger} {d d' : Draft} {n n' : Int} {ds : List Deed} (h : d.Did n ds d' n')
    (hs : d.Stands base n) : (ds.filterMap Deed.newId?).Pairwise (· < ·) ∧
      ∀ k ∈ ds.filterMap Deed.newId?, n < k ∧ d'.tables.Holds k := by
  induction h with
  | nil => exact ⟨.nil, fun k hk => nomatch hk⟩
  | called p _ ih => exact ih hs
  | read t _ ih => exact ih hs
  | @asked d d' n m n' ds q a w hm hw h ih =>
    have hc := Draft.change_of_answered hw
    have hs' := (hs.mono hm).change hc
    obtain ⟨hsorted, hnew⟩ := ih hs'
    have hle : n ≤ w.lastId := Int.le_trans hm hc.le
    cases hid : (Deed.asked q a).newId? with
    | none =>
      rw [List.filterMap_cons_none hid]
      exact ⟨hsorted, fun k hk => ⟨Int.lt_of_le_of_lt hle (hnew k hk).1, (hnew k hk).2⟩⟩
    | some k =>
      obtain ⟨rfl, hlast, hholds⟩ := Work.newId_of_answer hw hid
      rw [List.filterMap_cons_some hid]
      refine ⟨List.pairwise_cons.2 ⟨fun j hj => hlast ▸ (hnew j hj).1, hsorted⟩, fun j hj => ?_⟩
      rcases List.mem_cons.1 hj with rfl | hj
      · exact ⟨by omega, (h.grows hs').holds _ hholds⟩
      · exact ⟨Int.lt_of_le_of_lt hle (hnew j hj).1, (hnew j hj).2⟩

/-! ## Tables -/

namespace Table

variable {α : Type} {ρ : Int → Int} {f : α → α} {S : Int → Prop} {t u l : Table α} {w w' : IdSet}

/-- How a table of a draft stands to one of a draft that it is a mirror of: the rows of interest are there with new ids, and what
was written of the one was written of the other. -/
structure Reflects (ρ : Int → Int) (f : α → α) (S : Int → Prop) (t : Table α) (w : IdSet) (u : Table α) (w' : IdSet) :
    Prop where
  rows : ∀ i a, S i → t.get? i = some a → u.get? (ρ i) = some (f a)
  written : ∀ j, w'.contains j = true ↔ ∃ i, w.contains i = true ∧ ρ i = j

/-- A row is put in both, under an id that is given to no other. -/
theorem Reflects.insert (h : Reflects ρ f S t w u w') (k : Int) (a : α)
    (hk : ∀ i, t.contains i = true → ρ i = ρ k → i = k) :
    Reflects ρ f S (t.insert k a) (w.add k) (u.insert (ρ k) (f a)) (w'.add (ρ k)) where
  rows i b hi hb := by
    rw [get?_insert] at hb
    rw [get?_insert]
    split at hb
    · rename_i hik
      cases hb
      rw [if_pos (by rw [hik])]
    · rename_i hik
      rw [if_neg fun he => hik (hk i (contains_of_get? hb) he)]
      exact h.rows i b hi hb
  written j := by
    simp only [contains_add, Bool.or_eq_true, decide_eq_true_eq, h.written]
    constructor
    · rintro (rfl | ⟨i, hi, rfl⟩)
      · exact ⟨k, .inl rfl, rfl⟩
      · exact ⟨i, .inr hi, rfl⟩
    · rintro ⟨i, rfl | hi, rfl⟩
      · exact .inl rfl
      · exact .inr ⟨i, hi, rfl⟩

/-- Whether a table is another with new ids. -/
structure Renamed (ρ : Int → Int) (f : α → α) (t u : Table α) : Prop where
  inj : ∀ i j, t.contains i = true → t.contains j = true → ρ i = ρ j → i = j
  rows : ∀ j b, u.get? j = some b ↔ ∃ i a, t.get? i = some a ∧ ρ i = j ∧ f a = b

/-- What is published from a mirror is what is published from the draft, with new ids. -/
theorem Reflects.publish [Lasting α] {base : Table α} {first last first' last' : Int} (h : Reflects ρ f S t w u w')
    (ht : base.Follows first t w last) (hu : l.Follows first' u w' last') (hl : l.Keyed last)
    (hcov : ∀ i, w.contains i = true → S i) (hfix : ∀ i, l.contains i = true → ρ i = i)
    (hinj : ∀ i j, i ≤ last → j ≤ last → ρ i = ρ j → i = j) (hf : ∀ a, ρ (Listed.id a) = Listed.id a → f a = a) :
    (Ledger.publish w t l).Renamed ρ f (Ledger.publish w' u l) := by
  have hle : ∀ i, (Ledger.publish w t l).contains i = true → i ≤ last := fun i hi => by
    obtain ⟨a, ha⟩ := contains_iff.1 hi
    exact ((ht.publish_keyed hl) i a ha).2
  refine ⟨fun i j hi hj => hinj i j (hle i hi) (hle j hj), fun j b => ?_⟩
  simp only [ht.get?_publish, hu.get?_publish]
  constructor
  · intro hb
    split at hb
    · rename_i hw'
      obtain ⟨i, hi, rfl⟩ := (h.written j).1 hw'
      obtain ⟨a, ha⟩ := contains_iff.1 (ht.held i hi)
      have hrow := h.rows i a (hcov i hi) ha
      exact ⟨i, a, by rw [if_pos hi, ha], rfl, Option.some.inj (hrow.symm.trans hb)⟩
    · rename_i hw'
      have hj := hfix j (contains_of_get? hb)
      have hw : ¬w.contains j = true := fun hw => hw' ((h.written j).2 ⟨j, hw, hj⟩)
      exact ⟨j, b, by rw [if_neg hw, hb], hj, hf b (by rw [(hl j b hb).1, hj])⟩
  · rintro ⟨i, a, ha, rfl, rfl⟩
    split at ha
    · rename_i hw
      rw [if_pos ((h.written _).2 ⟨i, hw, rfl⟩)]
      exact h.rows i a (hcov i hw) ha
    · rename_i hw
      have hi := hfix i (contains_of_get? ha)
      have hw' : ¬w'.contains (ρ i) = true := by
        intro hw'
        obtain ⟨j, hj, hji⟩ := (h.written _).1 hw'
        obtain ⟨c, hc⟩ := contains_iff.1 (ht.held j hj)
        exact hw (hinj j i (ht.keyed j c hc).2 (hl i a ha).2 hji ▸ hj)
      rw [if_neg hw', hi, hf a (by rw [(hl i a ha).1, hi])]
      exact ha

end Table

/-! ## Drafts -/

/-- How a draft stands to one that it is a mirror of. `final` is the draft that the one comes to in the end, and `base` the
ledger that it began on. -/
structure Mirror (ρ : Int → Int) (base : Ledger) (final d e : Draft) : Prop where
  books : ∀ i b, d.tables.books.get? i = some b → e.tables.books.get? i = some b
  copies : Table.Reflects ρ (Copy.rename ρ) (fun i => final.locked.contains i = true ∨ base.lastId < i)
    d.tables.copies d.written.copies e.tables.copies e.written.copies
  loans : ∀ i l, final.locked.contains l.copyId = true → (d.tables.loans.get? i = some l ↔ e.tables.loans.get? i = some l)
  entries : Table.Reflects ρ (LoanEntry.rename ρ) (fun i => base.lastId < i)
    d.tables.entries d.written.entries e.tables.entries e.written.entries
  reservations : ∀ i r, final.locked.contains r.copyId = true →
    (d.tables.reservations.get? i = some r ↔ e.tables.reservations.get? i = some r)
  fines : Table.Reflects ρ (Fine.rename ρ) (fun i => final.settled.contains i = true ∨ base.lastId < i)
    d.tables.fines d.written.fines e.tables.fines e.written.fines
  writtenLoans : e.written.loans = d.written.loans
  writtenReservations : e.written.reservations = d.written.reservations
  oldLoans : d.tables.loans.All fun l => l.copyId ≤ base.lastId
  oldReservations : d.tables.reservations.All fun r => r.copyId ≤ base.lastId
  fulfilled : ∀ i r, d.written.reservations.contains i = true → d.tables.reservations.get? i = some r → r.isPending = false

/-- What is known of a page of deeds, of the draft that it leads to, and of a renaming. -/
structure Facing (ρ : Int → Int) (base : Ledger) (final : Draft) (page : List Deed) : Prop where
  fixed : ∀ i, i ≤ base.lastId → ρ i = i
  inj : ∀ i j, final.tables.Holds i → final.tables.Holds j → ρ i = ρ j → i = j
  covered : final.Covered base
  locks : ∀ c, page.any (Deed.locks c) = true → final.locked.contains c = true
  copy : ∀ id c, .asked (.lockCopy id) (.ok (some c)) ∈ page → c.id = id
  loan : ∀ id l, .asked (.getLoan id) (.ok (some l)) ∈ page →
    ∃ row, final.tables.loans.get? id = some row ∧ row.copyId = l.copyId
  settles : ∀ id t, .asked (.settleFine id t) (.ok true) ∈ page → final.settled.contains id = true

/-- Whether a deed is what becomes of a request on a draft, which is a mirror of another afterwards. -/
def Deed.Mirrors (ρ : Int → Int) (base : Ledger) (final d : Draft) (e : Draft) (m : Int) (m' : Int) (deed : Deed) : Prop :=
  ∃ (q : Request) (a : q.Answer) (e' : Draft), deed = .asked q (.ok a) ∧
    (∀ readings, Work.answer q ⟨e, m, readings⟩ = (.ok a, ⟨e', m', readings⟩)) ∧ Mirror ρ base final d e'

namespace Mirror

variable {ρ : Int → Int} {base : Ledger} {final d d' e e' : Draft} {page : List Deed} {n m k : Int} {w : Work}

/-- Locks, guards and settlements are not in the mirror. -/
theorem lock (h : Mirror ρ base final d e) (c c' : Int) : Mirror ρ base final (d.lock c) (e.lock c') :=
  { h with books := h.books }

/-- A mirror has the same guards. -/
theorem guard (h : Mirror ρ base final d e) (id expected : Int) :
    Mirror ρ base final (d.guard id expected) (e.guard id expected) :=
  { h with books := h.books }

/-- A mirror may note other fines as settled. -/
theorem settling (h : Mirror ρ base final d e) (s s' : IdSet) :
    Mirror ρ base final { d with settled := s } { e with settled := s' } :=
  { h with books := h.books }

/-- A copy is put on both sides, under its new id on the one. -/
theorem putCopy (h : Mirror ρ base final d e) (c : Copy)
    (hk : ∀ i, d.tables.copies.contains i = true → ρ i = ρ k → i = k) :
    Mirror ρ base final (d.putCopy c k) (e.putCopy (c.rename ρ) (ρ k)) :=
  { h with copies := h.copies.insert k c hk }

/-- An entry is put on both sides, under its new id on the one. -/
theorem putEntry (h : Mirror ρ base final d e) (row : LoanEntry)
    (hk : ∀ i, d.tables.entries.contains i = true → ρ i = ρ k → i = k) :
    Mirror ρ base final (d.putEntry row k) (e.putEntry (row.rename ρ) (ρ k)) :=
  { h with entries := h.entries.insert k row hk }

/-- A fine is put on both sides, under its new id on the one. -/
theorem putFine (h : Mirror ρ base final d e) (f : Fine)
    (hk : ∀ i, d.tables.fines.contains i = true → ρ i = ρ k → i = k) :
    Mirror ρ base final (d.putFine f k) (e.putFine (f.rename ρ) (ρ k)) :=
  { h with fines := h.fines.insert k f hk }

/-- Rows that are the same in two tables are so after one is kept in both. -/
theorem same_insert {α : Type} {t u : Table α} {P : α → Prop} (h : ∀ i b, P b → (t.get? i = some b ↔ u.get? i = some b))
    (k : Int) (a : α) (i : Int) (b : α) (hb : P b) :
    (t.insert k a).get? i = some b ↔ (u.insert k a).get? i = some b := by
  rw [Table.get?_insert, Table.get?_insert]
  split
  · exact Iff.rfl
  · exact h i b hb

/-- A loan of a copy that was there is put on both sides, under its own id. -/
theorem putLoan (h : Mirror ρ base final d e) {l : Loan} (hl : l.copyId ≤ base.lastId) :
    Mirror ρ base final (d.putLoan l k) (e.putLoan l k) :=
  { h with
    loans := same_insert (P := fun l : Loan => final.locked.contains l.copyId = true) h.loans k l
    writtenLoans := congrArg (·.add k) h.writtenLoans
    oldLoans := h.oldLoans.insert hl }

/-- A reservation that is not pending, of a copy that was there, is put on both sides, under its own id. -/
theorem putReservation (h : Mirror ρ base final d e) {r : Reservation} (hr : r.copyId ≤ base.lastId)
    (hf : r.isPending = false) : Mirror ρ base final (d.putReservation r k) (e.putReservation r k) :=
  { h with
    reservations := same_insert (P := fun r : Reservation => final.locked.contains r.copyId = true) h.reservations k r
    writtenReservations := congrArg (·.add k) h.writtenReservations
    oldReservations := h.oldReservations.insert hr
    fulfilled := by
      intro i r' hi hr'
      simp only [Draft.putReservation, Table.contains_add, Bool.or_eq_true, decide_eq_true_eq, Table.get?_insert] at hi hr'
      split at hr'
      · cases hr'
        exact hf
      · rename_i hik
        exact h.fulfilled i r' (hi.resolve_left hik) hr' }

/-! ## One request -/

/-- A title that one finds the other finds. -/
theorem getBook (h : Mirror ρ base final d e) {id : Int} {b : Book}
    (hw : Work.answer (.getBook id) ⟨d, n, 0⟩ = (.ok (some b), w)) :
    Deed.Mirrors ρ base final w.draft e m m (.asked (.getBook id) (.ok (some b))) := by
  simp only [Work.answer, Work.read, Prod.mk.injEq, Except.ok.injEq] at hw
  obtain ⟨hb, rfl⟩ := hw
  have hb' := h.books id b hb
  exact ⟨_, _, e, rfl, fun readings => by simp only [Work.answer, Work.read, hb'], h⟩

/-- A copy that is found alive and locked. -/
theorem lockCopy (h : Mirror ρ base final d e) {id : Int} {c : Copy}
    (hw : Work.answer (.lockCopy id) ⟨d, n, 0⟩ = (.ok (some c), w)) (hgrow : w.draft.Grows final) :
    Deed.Mirrors ρ base final w.draft e m m (.asked (.lockCopy (ρ id)) (.ok (some (c.rename ρ)))) := by
  simp only [Work.answer] at hw
  split at hw
  · rename_i c' hc
    cases hw
    obtain ⟨hrow, hlive⟩ := Option.filter_eq_some_iff.1 hc
    have hrow' := h.copies.rows id c (.inl (hgrow.locked id (by simp [Draft.lock]))) hrow
    have hlive' : e.liveCopy? (ρ id) = some (c.rename ρ) := Option.filter_eq_some_iff.2 ⟨hrow', hlive⟩
    exact ⟨_, _, e.lock (ρ id), rfl, fun readings => by simp only [Work.answer, hlive'], h.lock id (ρ id)⟩
  · cases hw

/-- A copy that one inserts the other inserts, under the next id of its own. -/
theorem insertCopy (h : Mirror ρ base final d e) {bookId : Int} {t : Instant} {c : Copy}
    (hw : Work.answer (.insertCopy bookId t) ⟨d, n, 0⟩ = (.ok c, w)) (hk : ρ c.id = m + 1)
    (hinj : ∀ i, d.tables.Holds i → ρ i = ρ c.id → i = c.id) :
    Deed.Mirrors ρ base final w.draft e m (m + 1) (.asked (.insertCopy bookId t) (.ok (c.rename ρ))) := by
  simp only [Work.answer] at hw
  split at hw
  · rename_i hbook
    cases hw
    obtain ⟨b, hb⟩ := Table.contains_iff.1 hbook
    have hbook' : e.tables.books.contains bookId = true := Table.contains_of_get? (h.books bookId b hb)
    have hrow : (NewCopy.toRow ⟨bookId, t⟩ (n + 1)).rename ρ = NewCopy.toRow ⟨bookId, t⟩ (m + 1) := by
      rw [← hk]
      rfl
    have hput := h.putCopy (NewCopy.toRow ⟨bookId, t⟩ (n + 1)) fun i hi => hinj i (.inl hi)
    rw [hk, hrow] at hput
    exact ⟨_, _, _, by rw [hrow], fun readings => by simp only [Work.answer, hbook', if_true]; rfl, hput⟩
  · cases hw

/-- An entry that one inserts the other inserts, under the next id of its own. -/
theorem insertEntry (h : Mirror ρ base final d e) {entry : NewLoanEntry} {row : LoanEntry}
    (hw : Work.answer (.insertEntry entry) ⟨d, n, 0⟩ = (.ok row, w)) (hk : ρ row.id = m + 1)
    (hinj : ∀ i, d.tables.Holds i → ρ i = ρ row.id → i = row.id) :
    Deed.Mirrors ρ base final w.draft e m (m + 1) (.asked (.insertEntry entry) (.ok (row.rename ρ))) := by
  cases hw
  have hrow : (entry.toRow (n + 1)).rename ρ = entry.toRow (m + 1) := by
    rw [← hk]
    rfl
  have hput := h.putEntry (entry.toRow (n + 1)) fun i hi => hinj i (.inr (.inr (.inl hi)))
  rw [hk, hrow] at hput
  exact ⟨_, _, _, by rw [hrow], fun readings => rfl, hput⟩

/-- A fine that one inserts the other inserts, under the next id of its own. -/
theorem insertFine (h : Mirror ρ base final d e) {fine : NewFine} {row : Fine}
    (hw : Work.answer (.insertFine fine) ⟨d, n, 0⟩ = (.ok row, w)) (hk : ρ row.id = m + 1)
    (hinj : ∀ i, d.tables.Holds i → ρ i = ρ row.id → i = row.id) :
    Deed.Mirrors ρ base final w.draft e m (m + 1) (.asked (.insertFine fine) (.ok (row.rename ρ))) := by
  cases hw
  have hrow : (fine.toRow (n + 1)).rename ρ = fine.toRow (m + 1) := by
    rw [← hk]
    rfl
  have hput := h.putFine (fine.toRow (n + 1)) fun i hi => hinj i (.inr (.inr (.inr (.inr hi))))
  rw [hk, hrow] at hput
  exact ⟨_, _, _, by rw [hrow], fun readings => rfl, hput⟩

/-- A conditional change of a copy that is locked in the end or new. -/
theorem changeCopy (h : Mirror ρ base final d e) (hF : Facing ρ base final page) {id : Int} {holds : Copy → Bool}
    {change : Copy → Copy} (hw : Work.write ⟨d, n, 0⟩ (d.changeCopy id holds change) = (.ok true, w))
    (hgrow : w.draft.Grows final) (hinj : ∀ i j, d.tables.Holds i → d.tables.Holds j → ρ i = ρ j → i = j)
    (hholds : ∀ c, holds (c.rename ρ) = holds c) (hchange : ∀ c, change (c.rename ρ) = (change c).rename ρ) :
    ∃ e', (∀ readings, Work.write ⟨e, m, readings⟩ (e.changeCopy (ρ id) holds change) = (.ok true, ⟨e', m, readings⟩)) ∧
      Mirror ρ base final w.draft e' := by
  unfold Draft.changeCopy at hw
  split at hw
  · rename_i c hc
    split at hw
    · rename_i hcond
      cases hw
      have hwritten := hF.covered.copies id (hgrow.writtenCopies id (by simp [Draft.putCopy]))
      have hrow := h.copies.rows id c hwritten hc
      refine ⟨e.putCopy ((change c).rename ρ) (ρ id), fun readings => ?_, h.putCopy _ fun i hi => ?_⟩
      · simp only [Work.write, Draft.changeCopy, hrow, hholds, hcond, hchange, if_true]
      · exact hinj i id (.inl hi) (.inl (Table.contains_of_get? hc))
    · cases hw
  · cases hw

/-- A copy that one moves the other moves, by its new id. -/
theorem moveCopy (h : Mirror ρ base final d e) (hF : Facing ρ base final page) {id : Int} {expected status : CopyStatus}
    {t : Instant} (hw : Work.answer (.moveCopy id expected status t) ⟨d, n, 0⟩ = (.ok true, w))
    (hgrow : w.draft.Grows final) (hinj : ∀ i j, d.tables.Holds i → d.tables.Holds j → ρ i = ρ j → i = j) :
    Deed.Mirrors ρ base final w.draft e m m (.asked (.moveCopy (ρ id) expected status t) (.ok true)) := by
  obtain ⟨e', hanswer, hmirror⟩ := h.changeCopy hF hw hgrow hinj (fun _ => rfl) fun _ => rfl
  exact ⟨_, _, e', rfl, hanswer, hmirror⟩

/-- A copy that one withdraws the other withdraws, by its new id. -/
theorem withdrawCopy (h : Mirror ρ base final d e) (hF : Facing ρ base final page) {id : Int} {t : Instant}
    (hw : Work.answer (.withdrawCopy id t) ⟨d, n, 0⟩ = (.ok true, w)) (hgrow : w.draft.Grows final)
    (hinj : ∀ i j, d.tables.Holds i → d.tables.Holds j → ρ i = ρ j → i = j) :
    Deed.Mirrors ρ base final w.draft e m m (.asked (.withdrawCopy (ρ id) t) (.ok true)) := by
  obtain ⟨e', hanswer, hmirror⟩ := h.changeCopy hF hw hgrow hinj (fun _ => rfl) fun _ => rfl
  exact ⟨_, _, e', rfl, hanswer, hmirror⟩

/-- A loan of a copy that is locked in the end is read as it is, its copy being no new one. -/
theorem loan_rename (h : Mirror ρ base final d e) (hF : Facing ρ base final page) {i : Int} {l : Loan}
    (hl : d.tables.loans.get? i = some l) : l.rename ρ = l := by
  rw [Loan.rename, hF.fixed l.copyId (h.oldLoans i l hl)]

/-- A loan that one reads is read alike by the other, when its copy was locked. -/
theorem getLoan (h : Mirror ρ base final d e) (hF : Facing ρ base final page) {id : Int} {l l' : Loan}
    (hw : Work.answer (.getLoan id) ⟨d, n, 0⟩ = (.ok (some l), w)) (hgrow : w.draft.Grows final)
    (hread : .asked (.getLoan id) (.ok (some l')) ∈ page) (hlock : page.any (Deed.locks l'.copyId) = true) :
    Deed.Mirrors ρ base final w.draft e m m (.asked (.getLoan id) (.ok (some (l.rename ρ)))) := by
  simp only [Work.answer, Work.read, Prod.mk.injEq, Except.ok.injEq] at hw
  obtain ⟨hl, rfl⟩ := hw
  obtain ⟨row, hrow, hcopy⟩ := hF.loan id l' hread
  obtain ⟨row', hrow', hlast⟩ := hgrow.loans id l hl
  cases hrow.symm.trans hrow'
  have hlocked : final.locked.contains l.copyId = true := by
    rw [← (Loan.of_lasting hlast).1, hcopy]
    exact hF.locks _ hlock
  have hl' := (h.loans id l hlocked).1 hl
  rw [h.loan_rename hF hl]
  exact ⟨_, _, e, rfl, fun readings => by simp only [Work.answer, Work.read, hl'], h⟩

/-- The loan that one finds out on a locked copy the other finds out on it. -/
theorem activeLoan (h : Mirror ρ base final d e) (hF : Facing ρ base final page) {c : Int} {l : Loan}
    (hw : Work.answer (.activeLoan c) ⟨d, n, 0⟩ = (.ok (some l), w)) (hlocked : final.locked.contains c = true) :
    Deed.Mirrors ρ base final w.draft e m m (.asked (.activeLoan (ρ c)) (.ok (some (l.rename ρ)))) := by
  simp only [Work.answer, Work.read, Prod.mk.injEq, Except.ok.injEq] at hw
  obtain ⟨hl, rfl⟩ := hw
  obtain ⟨⟨i, hi⟩, hcond⟩ := Table.get?_of_find?_rows hl
  simp only [Bool.and_eq_true, decide_eq_true_eq] at hcond
  have hfixed : ρ c = c := hF.fixed c (hcond.1 ▸ h.oldLoans i l hi)
  have hsame : (d.tables.loans.rows.filter fun l => l.copyId = c && l.isBorrowed) =
      e.tables.loans.rows.filter fun l => l.copyId = c && l.isBorrowed := by
    refine Table.filter_rows_congr fun i l hcond => ?_
    simp only [Bool.and_eq_true, decide_eq_true_eq] at hcond
    exact h.loans i l (hcond.1.symm ▸ hlocked)
  rw [← List.head?_filter, hsame, List.head?_filter] at hl
  rw [hfixed, h.loan_rename hF hi]
  exact ⟨_, _, e, rfl, fun readings => by simp only [Work.answer, Work.read, hl], h⟩

/-- A conditional write of a loan, whose copy is locked in the end. -/
theorem updateLoan (h : Mirror ρ base final d e) (hF : Facing ρ base final page) {l : Loan} {expected : Int}
    (hw : Work.answer (.updateLoan l expected) ⟨d, n, 0⟩ = (.ok true, w)) (hgrow : w.draft.Grows final) :
    Deed.Mirrors ρ base final w.draft e m m (.asked (.updateLoan (l.rename ρ) expected) (.ok true)) := by
  have hw' : Work.write ⟨d, n, 0⟩ (d.updateLoan l expected) = (.ok true, w) := hw
  unfold Draft.updateLoan at hw'
  split at hw'
  · rename_i row hrow
    split at hw'
    · rename_i hcond
      cases hw'
      obtain ⟨row', hrow', hlast⟩ := hgrow.loans l.id _ (Table.get?_insert _ _ _ _ |>.trans (if_pos rfl))
      have hlocked := hF.covered.loans l.id row' (hgrow.writtenLoans l.id (by simp [Draft.putLoan])) hrow'
      rw [(Loan.of_lasting hlast).1] at hlocked
      have hrow₁ := (h.loans l.id row hlocked).1 hrow
      refine ⟨_, _, _, rfl, fun readings => ?_, (h.guard l.id expected).putLoan (h.oldLoans l.id row hrow)⟩
      show Work.write ⟨e, m, readings⟩ (e.updateLoan (l.rename ρ) expected) = _
      simp only [Work.write, Draft.updateLoan, Loan.rename, hrow₁, hcond, if_true]
    · cases hw'
  · cases hw'

/-- A reservation that one reads is read alike by the other, when its copy was locked. -/
theorem getReservation (h : Mirror ρ base final d e) (hF : Facing ρ base final page) {id : Int} {r : Reservation}
    (hw : Work.answer (.getReservation id) ⟨d, n, 0⟩ = (.ok (some r), w)) (hlock : page.any (Deed.locks r.copyId) = true) :
    Deed.Mirrors ρ base final w.draft e m m (.asked (.getReservation id) (.ok (some (r.rename ρ)))) := by
  simp only [Work.answer, Work.read, Prod.mk.injEq, Except.ok.injEq] at hw
  obtain ⟨hr, rfl⟩ := hw
  have hr' := (h.reservations id r (hF.locks _ hlock)).1 hr
  rw [Reservation.rename, hF.fixed r.copyId (h.oldReservations id r hr)]
  exact ⟨_, _, e, rfl, fun readings => by simp only [Work.answer, Work.read, hr'], h⟩

/-- A reservation is fulfilled, whose copy is locked in the end. -/
theorem fulfil (h : Mirror ρ base final d e) (hF : Facing ρ base final page) {id : Int} {t : Instant}
    (hw : Work.answer (.moveReservation id .pending .fulfilled t) ⟨d, n, 0⟩ = (.ok true, w)) (hgrow : w.draft.Grows final) :
    Deed.Mirrors ρ base final w.draft e m m (.asked (.moveReservation id .pending .fulfilled t) (.ok true)) := by
  have hw' : Work.write ⟨d, n, 0⟩ (d.moveReservation id .pending .fulfilled t) = (.ok true, w) := hw
  unfold Draft.moveReservation at hw'
  split at hw'
  · rename_i row hrow
    split at hw'
    · rename_i hcond
      cases hw'
      obtain ⟨row', hrow', hlast⟩ := hgrow.reservations id _ (Table.get?_insert _ _ _ _ |>.trans (if_pos rfl))
      have hlocked := hF.covered.reservations id row' (hgrow.writtenReservations id (by simp [Draft.putReservation])) hrow'
      rw [(Reservation.of_lasting hlast).1] at hlocked
      have hrow₁ := (h.reservations id row hlocked).1 hrow
      refine ⟨_, _, _, rfl, fun readings => ?_, h.putReservation (h.oldReservations id row hrow) rfl⟩
      show Work.write ⟨e, m, readings⟩ (e.moveReservation id .pending .fulfilled t) = _
      simp only [Work.write, Draft.moveReservation, hrow₁, hcond, if_true]
    · cases hw'
  · cases hw'

/-- A fine that one reads, and settles in the end, is read alike by the other. -/
theorem getFine (h : Mirror ρ base final d e) {id : Int} {f : Fine}
    (hw : Work.answer (.getFine id) ⟨d, n, 0⟩ = (.ok (some f), w)) (hsettled : final.settled.contains id = true) :
    Deed.Mirrors ρ base final w.draft e m m (.asked (.getFine (ρ id)) (.ok (some (f.rename ρ)))) := by
  simp only [Work.answer, Work.read, Prod.mk.injEq, Except.ok.injEq] at hw
  obtain ⟨hf, rfl⟩ := hw
  have hf' := h.fines.rows id f (.inl hsettled) hf
  exact ⟨_, _, e, rfl, fun readings => by simp only [Work.answer, Work.read, hf'], h⟩

/-- A fine that one settles the other settles, by its new id. -/
theorem settleFine (h : Mirror ρ base final d e) {id : Int} {t : Instant}
    (hw : Work.answer (.settleFine id t) ⟨d, n, 0⟩ = (.ok true, w)) (hgrow : w.draft.Grows final)
    (hinj : ∀ i j, d.tables.Holds i → d.tables.Holds j → ρ i = ρ j → i = j) :
    Deed.Mirrors ρ base final w.draft e m m (.asked (.settleFine (ρ id) t) (.ok true)) := by
  have hw' : Work.write ⟨d, n, 0⟩ (d.settleFine id t) = (.ok true, w) := hw
  unfold Draft.settleFine at hw'
  split at hw'
  · rename_i f hf
    split at hw'
    · cases hw'
    · rename_i hcond
      cases hw'
      have hf' := h.fines.rows id f (.inl (hgrow.settled id (by simp))) hf
      refine ⟨_, _, _, rfl, fun readings => ?_,
        (h.putFine { f with settled := true, updatedAt := t } fun i hi =>
          hinj i id (.inr (.inr (.inr (.inr hi)))) (.inr (.inr (.inr (.inr (Table.contains_of_get? hf)))))).settling
          (d.settled.add id) (e.settled.add (ρ id))⟩
      show Work.write ⟨e, m, readings⟩ (e.settleFine (ρ id) t) = _
      simp only [Work.write, Draft.settleFine, hf', Fine.rename, hcond]
      rfl
  · cases hw'

/-! ## A page of requests -/

/-- What a request without limits made of a draft it makes of the mirror, where a new row gets the next id. -/
theorem answer (h : Mirror ρ base final d e) (hF : Facing ρ base final page) (hs : d.Stands base n) {q : Request}
    {a : q.Answer} {deed : Deed} (hpar : Deed.Parallel ρ page (.asked q (.ok a)) deed)
    (hw : Work.answer q ⟨d, n, 0⟩ = (.ok a, w)) (hgrow : w.draft.Grows final)
    (hnew : ∀ k, (Deed.asked q (.ok a)).newId? = some k → ρ k = m + 1) :
    Deed.Mirrors ρ base final w.draft e m ((Deed.asked q (.ok a)).newId?.elim m fun _ => m + 1) deed := by
  have hc := Draft.change_of_answered hw
  have hheld : ∀ i, d.tables.Holds i → final.tables.Holds i := fun i hi => hgrow.holds i ((hc.grows hs).holds i hi)
  have hinj : ∀ i j, d.tables.Holds i → d.tables.Holds j → ρ i = ρ j → i = j :=
    fun i j hi hj => hF.inj i j (hheld i hi) (hheld j hj)
  have hfresh : ∀ k, (Deed.asked q (.ok a)).newId? = some k → ∀ i, d.tables.Holds i → ρ i = ρ k → i = k :=
    fun k hk i hi => hF.inj i k (hheld i hi) (hgrow.holds k (Work.newId_of_answer hw hk).2.2)
  cases hpar with
  | getBook => exact h.getBook hw
  | lockCopy => exact h.lockCopy hw hgrow
  | insertCopy => exact h.insertCopy hw (hnew _ rfl) (hfresh _ rfl)
  | moveCopy => exact h.moveCopy hF hw hgrow hinj
  | withdrawCopy => exact h.withdrawCopy hF hw hgrow hinj
  | getLoan id l l' hread hlock => exact h.getLoan hF hw hgrow hread hlock
  | activeLoan id c l hmem =>
    have hlock : page.any (Deed.locks id) = true := List.any_eq_true.2 ⟨_, hmem, by simp [Deed.locks]⟩
    exact h.activeLoan hF hw (hF.copy id c hmem ▸ hF.locks id hlock)
  | updateLoan => exact h.updateLoan hF hw hgrow
  | insertEntry => exact h.insertEntry hw (hnew _ rfl) (hfresh _ rfl)
  | getReservation id r hlock => exact h.getReservation hF hw hlock
  | fulfil => exact h.fulfil hF hw hgrow
  | getFine id f t hmem => exact h.getFine hw (hF.settles id t hmem)
  | insertFine => exact h.insertFine hw (hnew _ rfl) (hfresh _ rfl)
  | settleFine => exact h.settleFine hw hgrow hinj

/-- What deeds without limits made of a draft is made of a mirror by the deeds beside them, when the clock reads the same and
new rows get the ids that come next. -/
theorem does {timeline : Nat → Instant} {ds es : List Deed} {n' : Int} {r : Nat} (h : Mirror ρ base final d e)
    (hF : Facing ρ base final page) (hdid : d.Did n ds final n') (hs : d.Stands base n)
    (hpar : List.Forall₂ (Deed.Parallel ρ page) (ds.filter (!·.isCall)) es)
    (hnew : ∀ (i : Nat) k, (ds.filterMap Deed.newId?)[i]? = some k → ρ k = m + 1 + i)
    (htime : ∀ i t, (ds.filterMap Deed.reading?)[i]? = some t → timeline (r + i) = t) :
    ∃ w, Work.Does timeline ⟨e, m, r⟩ es w ∧ Mirror ρ base final final w.draft := by
  induction hdid generalizing e m r es with
  | nil =>
    cases hpar
    exact ⟨_, .nil, h⟩
  | called p _ ih => exact ih h hF hs hpar hnew htime
  | read t _ ih =>
    cases hpar with
    | cons hhead htail =>
      cases hhead
      obtain ⟨w, hdoes, hmirror⟩ := ih (r := r + 1) h hF hs htail hnew fun i t' hi => by
        rw [Nat.add_assoc, Nat.add_comm 1]
        exact htime (i + 1) t' hi
      have ht : timeline r = t := htime 0 t rfl
      subst ht
      exact ⟨w, .read hdoes, hmirror⟩
  | @asked d d' n k n' ds q a w₁ hk hw hdid ih =>
    have hs₁ := (hs.mono hk).change (Draft.change_of_answered hw)
    cases hpar with
    | cons hhead htail =>
      cases a with
      | error why => nomatch hhead
      | ok a =>
        have hfirst : ∀ j, (Deed.asked q (.ok a)).newId? = some j → ρ j = m + 1 := fun j hj => by
          have hj0 := hnew 0 j (by rw [List.filterMap_cons_some hj]; rfl)
          simpa using hj0
        have hrest : ∀ (i : Nat) j, (ds.filterMap Deed.newId?)[i]? = some j →
            ρ j = ((Deed.asked q (.ok a)).newId?.elim m fun _ => m + 1) + 1 + i := fun i j hj => by
          cases hid : (Deed.asked q (.ok a)).newId? with
          | none =>
            rw [List.filterMap_cons_none hid] at hnew
            exact hnew i j hj
          | some j' =>
            rw [List.filterMap_cons_some hid] at hnew
            have hnext := hnew (i + 1) j hj
            simp only [Option.elim]
            omega
        obtain ⟨q', a', e', rfl, hanswer, hmirror⟩ := h.answer hF (hs.mono hk) hhead hw (hdid.grows hs₁) hfirst
        obtain ⟨w, hdoes, hmirror⟩ := ih hmirror hF hs₁ htail hrest htime
        exact ⟨w, .asked (hanswer r) hdoes, hmirror⟩

end Mirror

end Circulation
