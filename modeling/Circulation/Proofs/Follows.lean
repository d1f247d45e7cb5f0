import Circulation.Proofs.Table

/-!
# Tables of a draft

A part of every row lasts: whatever becomes of the row, `lasting` answers the same. `Follows` is how a table of a draft
stands to the table it began as: rows lie under their own ids, those of the base are still there, unwritten ones
unchanged, and new ones have ids that had not been given out. The second part says what becomes of such a table when it
is published into a ledger that has moved meanwhile.
-/

namespace Circulation

/-- A kind of row of which a part lasts: whatever becomes of the row, `lasting` answers the same. -/
class Lasting (α : Type) extends Listed α where
  lasting : α → α
  id_lasting : ∀ a, Listed.id (lasting a) = Listed.id a

instance : Lasting Copy where
  lasting c := { c with status := .available, updatedAt := c.createdAt, deletedAt := none }
  id_lasting _ := rfl

instance : Lasting Loan where
  lasting l := { l with
    status := .borrowed, dueDate := l.borrowDate, returnDate := none, renewCount := 0, updatedAt := l.createdAt }
  id_lasting _ := rfl

instance : Lasting LoanEntry where
  lasting e := e
  id_lasting _ := rfl

instance : Lasting Reservation where
  lasting r := { r with status := .pending, updatedAt := r.createdAt }
  id_lasting _ := rfl

instance : Lasting Fine where
  lasting f := { f with settled := false, updatedAt := f.createdAt }
  id_lasting _ := rfl

open Lasting

/-- Rows with one lasting part have one id. -/
theorem Lasting.id_eq {α : Type} [Lasting α] {a b : α} (h : lasting a = lasting b) : Listed.id a = Listed.id b := by
  rw [← id_lasting a, h, id_lasting]

/-- Loans with one lasting part are of one copy to one user. -/
theorem Loan.of_lasting {a b : Loan} (h : lasting a = lasting b) :
    a.copyId = b.copyId ∧ a.bookId = b.bookId ∧ a.userId = b.userId := by
  have hcopy := congrArg Loan.copyId h
  have hbook := congrArg Loan.bookId h
  have huser := congrArg Loan.userId h
  exact ⟨hcopy, hbook, huser⟩

/-- Reservations with one lasting part are on one copy for one user. -/
theorem Reservation.of_lasting {a b : Reservation} (h : lasting a = lasting b) :
    a.copyId = b.copyId ∧ a.bookId = b.bookId ∧ a.userId = b.userId := by
  have hcopy := congrArg Reservation.copyId h
  have hbook := congrArg Reservation.bookId h
  have huser := congrArg Reservation.userId h
  exact ⟨hcopy, hbook, huser⟩

/-- Fines with one lasting part are of one loan, of one amount and charged at once. -/
theorem Fine.of_lasting {a b : Fine} (h : lasting a = lasting b) :
    a.loanId = b.loanId ∧ a.amount = b.amount ∧ a.createdAt = b.createdAt := by
  have hloan := congrArg Fine.loanId h
  have hamount := congrArg Fine.amount h
  have hat := congrArg Fine.createdAt h
  exact ⟨hloan, hamount, hat⟩

namespace Table

variable {α : Type}

/-- Whether every row is under its own id, none beyond the last one given out. -/
def Keyed [Listed α] (t : Table α) (n : Int) : Prop :=
  ∀ id a, t.get? id = some a → Listed.id a = id ∧ id ≤ n

theorem Keyed.mono [Listed α] {t : Table α} {n n' : Int} (h : t.Keyed n) (hn : n ≤ n') : t.Keyed n' :=
  fun id a ha => ⟨(h id a ha).1, Int.le_trans (h id a ha).2 hn⟩

/-- Nothing is under an id that was not given out. -/
theorem Keyed.none_of_lt [Listed α] {t : Table α} {n id : Int} (h : t.Keyed n) (hid : n < id) : t.get? id = none := by
  cases ht : t.get? id with
  | none => rfl
  | some a => exact absurd (h id a ht).2 (by omega)

/-- Rows are in the order of their ids. -/
theorem Keyed.rows_ids [Listed α] {t : Table α} {n : Int} (h : t.Keyed n) :
    t.rows.Pairwise fun a b => Listed.id a < Listed.id b := by
  refine List.pairwise_map.2 (t.sorted.imp_of_mem fun {a b} ha hb hlt => ?_)
  rw [(h a.1 a.2 (Table.mem_entries.1 ha)).1, (h b.1 b.2 (Table.mem_entries.1 hb)).1]
  exact hlt

/-- Whether a table kept its rows: each is still there, its lasting part unchanged. -/
def Kept [Lasting α] (t u : Table α) : Prop :=
  ∀ id a, t.get? id = some a → ∃ b, u.get? id = some b ∧ lasting b = lasting a

theorem Kept.refl [Lasting α] (t : Table α) : t.Kept t :=
  fun _ a ha => ⟨a, ha, rfl⟩

/-- A row that is kept is there. -/
theorem Kept.contains [Lasting α] {t u : Table α} (h : t.Kept u) {id : Int} (hid : t.contains id = true) :
    u.contains id = true := by
  obtain ⟨a, ha⟩ := contains_iff.1 hid
  obtain ⟨b, hb, -⟩ := h id a ha
  exact contains_of_get? hb

theorem Kept.trans [Lasting α] {t u v : Table α} (h : t.Kept u) (h' : u.Kept v) : t.Kept v := by
  intro id a ha
  obtain ⟨b, hb, hba⟩ := h id a ha
  obtain ⟨c, hc, hcb⟩ := h' id b hb
  exact ⟨c, hc, hcb.trans hba⟩

/-- A table keeps its rows when one is put under a new id, or under the id of a row with the same lasting part. -/
theorem kept_insert [Lasting α] {t : Table α} {k : Int} {a : α} (h : ∀ b, t.get? k = some b → lasting a = lasting b) :
    t.Kept (t.insert k a) := by
  intro i b hb
  rw [get?_insert]
  split
  · rename_i hi
    subst hi
    exact ⟨a, rfl, h b hb⟩
  · exact ⟨b, hb, rfl⟩

/-- How a table of a draft stands to the table it began as, when `first` was the last id given out; `last` is the last
one now. -/
structure Follows [Lasting α] (base : Table α) (first : Int) (t : Table α) (written : IdSet) (last : Int) : Prop where
  keyed : t.Keyed last
  kept : base.Kept t
  old : ∀ id, t.contains id = true → id ≤ first → base.contains id = true
  unwritten : ∀ id, written.contains id = false → t.get? id = base.get? id
  held : ∀ id, written.contains id = true → t.contains id = true

namespace Follows

variable [Lasting α] {base t : Table α} {written : IdSet} {first last : Int}

/-- A table follows the one it is. -/
theorem begin (h : base.Keyed first) : base.Follows first base .empty first where
  keyed := h
  kept := .refl base
  old _ h _ := h
  unwritten _ _ := rfl
  held _ h := by simp at h

theorem mono {last' : Int} (h : base.Follows first t written last) (hl : last ≤ last') :
    base.Follows first t written last' :=
  { h with keyed := h.keyed.mono hl }

/-- A new row, under an id that has not been given out. -/
theorem insert_new (h : base.Follows first t written last) (hl : first ≤ last) {k : Int} (hk : last < k) {a : α}
    (ha : Listed.id a = k) : base.Follows first (t.insert k a) (written.add k) k where
  keyed id b hb := by
    rw [get?_insert] at hb
    split at hb
    · rename_i hid
      cases hb
      exact ⟨ha.trans hid.symm, by omega⟩
    · exact ⟨(h.keyed id b hb).1, by have := (h.keyed id b hb).2; omega⟩
  kept id b hb := by
    obtain ⟨c, hc, hcb⟩ := h.kept id b hb
    have hne : id ≠ k := by have := (h.keyed id c hc).2; omega
    exact ⟨c, by rw [get?_insert, if_neg hne, hc], hcb⟩
  old id hid hf := by
    have hne : id ≠ k := by omega
    exact h.old id (by simpa [hne] using hid) hf
  unwritten id hid := by
    simp only [contains_add, Bool.or_eq_false_iff, decide_eq_false_iff_not] at hid
    rw [get?_insert, if_neg hid.1]
    exact h.unwritten id hid.2
  held id hid := by
    simp only [contains_add, Bool.or_eq_true, decide_eq_true_eq, contains_insert] at hid ⊢
    exact hid.imp_right (h.held id)

/-- A changed row, its lasting part unchanged. -/
theorem insert_old (h : base.Follows first t written last) {id : Int} {a b : α} (ha : t.get? id = some a)
    (hb : lasting b = lasting a) : base.Follows first (t.insert id b) (written.add id) last where
  keyed j c hc := by
    rw [get?_insert] at hc
    split at hc
    · rename_i hj
      cases hc
      subst hj
      have hid : Listed.id b = Listed.id a := id_eq hb
      exact ⟨hid.trans (h.keyed j a ha).1, (h.keyed j a ha).2⟩
    · exact h.keyed j c hc
  kept j c hc := by
    obtain ⟨e, he, hec⟩ := h.kept j c hc
    by_cases hj : j = id
    · subst hj
      have hea : e = a := Option.some.inj (he.symm.trans ha)
      exact ⟨b, by simp, hb.trans (hea ▸ hec)⟩
    · exact ⟨e, by rw [get?_insert, if_neg hj, he], hec⟩
  old j hj hf := by
    refine h.old j ?_ hf
    simp only [contains_insert, Bool.or_eq_true, decide_eq_true_eq] at hj
    rcases hj with rfl | hj
    · exact contains_of_get? ha
    · exact hj
  unwritten j hj := by
    simp only [contains_add, Bool.or_eq_false_iff, decide_eq_false_iff_not] at hj
    rw [get?_insert, if_neg hj.1]
    exact h.unwritten j hj.2
  held j hj := by
    simp only [contains_add, Bool.or_eq_true, decide_eq_true_eq, contains_insert] at hj ⊢
    exact hj.imp_right (h.held j)

/-- A row under an id that was given out before is a row of the base, its lasting part unchanged. -/
theorem exists_base (h : base.Follows first t written last) {id : Int} {b : α} (hb : t.get? id = some b)
    (hid : id ≤ first) : ∃ a, base.get? id = some a ∧ lasting b = lasting a := by
  obtain ⟨a, ha⟩ := contains_iff.1 (h.old id (contains_of_get? hb) hid)
  obtain ⟨c, hc, hca⟩ := h.kept id a ha
  have hcb : c = b := Option.some.inj (hc.symm.trans hb)
  exact ⟨a, ha, hcb ▸ hca⟩

/-- A row that is not written is a row of the base. -/
theorem base_of_unwritten (h : base.Follows first t written last) {id : Int} {b : α} (hb : t.get? id = some b)
    (hid : written.contains id = false) : base.get? id = some b := by
  rw [← h.unwritten id hid, hb]

end Follows

end Table

/-! ## What is published -/

namespace Table

variable {α : Type} [Lasting α] {base t l : Table α} {written : IdSet} {first last : Int}

/-- A published table has the written rows of the draft, and its own elsewhere. -/
theorem Follows.get?_publish (h : base.Follows first t written last) (l : Table α) (id : Int) :
    (Ledger.publish written t l).get? id = if written.contains id then t.get? id else l.get? id := by
  rw [Ledger.get?_publish]
  split
  · rename_i hw
    obtain ⟨a, ha⟩ := contains_iff.1 (h.held id hw)
    simp [ha]
  · rfl

/-- Rows that are published are under their own ids. -/
theorem Follows.publish_keyed (h : base.Follows first t written last) (hl : l.Keyed last) :
    (Ledger.publish written t l).Keyed last := by
  intro id a ha
  rw [h.get?_publish] at ha
  split at ha
  · exact h.keyed id a ha
  · exact hl id a ha

/-- A published row was there, or is one of the draft. -/
theorem Follows.contains_publish (h : base.Follows first t written last) {id : Int}
    (hid : (Ledger.publish written t l).contains id = true) : l.contains id = true ∨ t.contains id = true := by
  obtain ⟨a, ha⟩ := contains_iff.1 hid
  rw [h.get?_publish] at ha
  split at ha
  · exact .inr (contains_of_get? ha)
  · exact .inl (contains_of_get? ha)

/-- What a draft has lasts when it is published. -/
theorem Follows.draft_kept (h : base.Follows first t written last) (hl : base.Kept l) :
    t.Kept (Ledger.publish written t l) := by
  intro id a ha
  rw [h.get?_publish]
  cases hw : written.contains id with
  | true => exact ⟨a, ha, rfl⟩
  | false => exact hl id a (h.base_of_unwritten ha hw)

/-- What a draft has is there after it is published. -/
theorem Follows.contains_publish_of_draft (h : base.Follows first t written last) (hl : base.Kept l) {id : Int}
    (hid : t.contains id = true) : (Ledger.publish written t l).contains id = true :=
  (h.draft_kept hl).contains hid

/-- Publication keeps the rows there are, since a draft has no row of its own under an id that the table knows. -/
theorem Follows.kept_publish (h : base.Follows first t written last) (hl : base.Kept l)
    (hapart : ∀ id, first < id → t.contains id = true → ¬l.contains id = true) :
    l.Kept (Ledger.publish written t l) := by
  intro id a ha
  rw [h.get?_publish]
  split
  · rename_i hw
    obtain ⟨b, hb⟩ := contains_iff.1 (h.held id hw)
    have hid : id ≤ first := Int.not_lt.1 fun hf => hapart id hf (h.held id hw) (contains_of_get? ha)
    obtain ⟨c, hc, hbc⟩ := h.exists_base hb hid
    obtain ⟨e, he, hec⟩ := hl id c hc
    have hea : e = a := Option.some.inj (he.symm.trans ha)
    exact ⟨b, hb, hbc.trans (hea ▸ hec.symm)⟩
  · exact ⟨a, ha, rfl⟩

/-- A published row with a property is one of the draft's, or the ledger had one where the base had none. -/
theorem Follows.of_publish {P : α → Prop} (h : base.Follows first t written last) {i : Int}
    (hi : ∃ a, (Ledger.publish written t l).get? i = some a ∧ P a) :
    (∃ a, t.get? i = some a ∧ P a) ∨ (∃ a, l.get? i = some a ∧ P a) ∧ ¬∃ a, base.get? i = some a ∧ P a := by
  obtain ⟨a, ha, hp⟩ := hi
  rw [h.get?_publish] at ha
  split at ha
  · exact .inl ⟨a, ha, hp⟩
  · rename_i hw
    by_cases hbase : ∃ b, base.get? i = some b ∧ P b
    · obtain ⟨b, hb, hpb⟩ := hbase
      exact .inl ⟨b, (h.unwritten i (by simpa using hw)).trans hb, hpb⟩
    · exact .inr ⟨⟨a, ha, hp⟩, hbase⟩

/-- Rows on which the ledger was as the base are published as the draft has them. -/
theorem Follows.publish_draft {P : α → Prop} (h : base.Follows first t written last)
    (hsame : ∀ i a, P a → (base.get? i = some a ↔ l.get? i = some a)) (i : Int) (a : α) (ha : P a) :
    t.get? i = some a ↔ (Ledger.publish written t l).get? i = some a := by
  rw [h.get?_publish]
  split
  · exact Iff.rfl
  · rename_i hw
    rw [h.unwritten i (by simpa using hw)]
    exact hsame i a ha

/-- Rows of which the draft wrote none are published as the ledger has them. -/
theorem Follows.publish_ledger {P : α → Prop} (h : base.Follows first t written last) (hl : base.Kept l)
    (hold : ∀ id, t.contains id = true → l.contains id = true → id ≤ first)
    (hlast : ∀ a b, lasting a = lasting b → P a → P b)
    (hnot : ∀ i a, written.contains i = true → t.get? i = some a → ¬P a) (i : Int) (a : α) (ha : P a) :
    l.get? i = some a ↔ (Ledger.publish written t l).get? i = some a := by
  rw [h.get?_publish]
  split
  · rename_i hw
    refine ⟨fun hli => ?_, fun hti => absurd ha (hnot i a hw hti)⟩
    -- The row the draft wrote over was there when the draft began, so it lasts in the draft.
    obtain ⟨b, hb⟩ := contains_iff.1 (h.held i hw)
    obtain ⟨e, he, hbe⟩ := h.exists_base hb (hold i (h.held i hw) (contains_of_get? hli))
    obtain ⟨f, hf, hfe⟩ := hl i e he
    cases hf.symm.trans hli
    exact absurd (hlast a b (hfe.trans hbe.symm) ha) (hnot i b hw hb)
  · exact Iff.rfl

end Table

end Circulation
