import Circulation.Proofs.Draft
import Circulation.Proofs.Traffic

/-!
# Commits

A commit goes through exactly when nothing stands against it: `Clear` says so lock by lock, guard by guard, fine by fine
and reservation by reservation (`clash?_eq_none_iff`). A commit that goes through puts the rows a draft wrote in place of
the ledger's (`Follows.get?_publish`). `Since` is how a ledger may differ from what it was when a transaction began:
rows last, and whatever moved was moved by a transaction that committed in between (`Committing.since'`).
-/

namespace Circulation

namespace Ledger

/-- Whether nothing stands against the commit of a draft. -/
structure Clear (l : Ledger) (d : Draft) : Prop where
  locked : ∀ id v, d.locked.get? id = some v → l.version id = v
  guards : ∀ id c row, d.guards.get? id = some c → l.tables.loans.get? id = some row →
    row.isBorrowed = true ∧ row.renewCount = c
  settled : ∀ id f, d.settled.contains id = true → l.tables.fines.get? id = some f → f.settled = false
  pending : ∀ id r j s, d.written.reservations.contains id = true → d.tables.reservations.get? id = some r →
    r.isPending = true → l.tables.reservations.get? j = some s → collides r s = false

/-- No copy is stale when every locked one has the version that was found. -/
theorem staleCopy?_eq_none_iff {l : Ledger} {d : Draft} :
    l.staleCopy? d = none ↔ ∀ id v, d.locked.get? id = some v → l.version id = v := by
  simp only [staleCopy?, Option.map_eq_none_iff, List.find?_eq_none, Prod.forall, Table.mem_entries, decide_eq_true_eq,
    Decidable.not_not]

/-- No loan is stale when every guarded one is out with the renewal count expected. -/
theorem staleLoan?_eq_none_iff {l : Ledger} {d : Draft} :
    l.staleLoan? d = none ↔ ∀ id c row, d.guards.get? id = some c → l.tables.loans.get? id = some row →
      row.isBorrowed = true ∧ row.renewCount = c := by
  simp only [staleLoan?, Option.map_eq_none_iff, List.find?_eq_none, Prod.forall, Table.mem_entries, Option.any_eq_true,
    not_exists, not_and, Bool.or_eq_true, Bool.not_eq_true', decide_eq_true_eq, not_or, Bool.not_eq_false,
    Decidable.not_not]
  exact ⟨fun h id c row hc hr => h id c hc row hr, fun h id c hc row hr => h id c row hc hr⟩

/-- No fine is stale when none of the settled ones has been settled. -/
theorem staleFine?_eq_none_iff {l : Ledger} {d : Draft} :
    l.staleFine? d = none ↔ ∀ id f, d.settled.contains id = true → l.tables.fines.get? id = some f →
      f.settled = false := by
  simp only [staleFine?, Option.map_eq_none_iff, List.find?_eq_none, Table.mem_ids, Option.any_eq_true, not_exists,
    not_and, Bool.not_eq_true]
  exact ⟨fun h id f hs hf => h id hs f hf, fun h id hs f hf => h id f hs hf⟩

/-- There is no collision when no pending reservation that the draft wrote collides with a committed one. -/
theorem collision?_eq_none_iff {l : Ledger} {d : Draft} :
    l.collision? d = none ↔ ∀ id r j s, d.written.reservations.contains id = true →
      d.tables.reservations.get? id = some r → r.isPending = true → l.tables.reservations.get? j = some s →
        collides r s = false := by
  simp only [collision?, Option.map_eq_none_iff, List.find?_eq_none, List.mem_filterMap, Table.mem_ids, Bool.and_eq_true,
    List.any_eq_true, Table.mem_rows, not_and, not_exists, Bool.not_eq_true, forall_exists_index, and_imp]
  exact ⟨fun h id r j s hw hr hp hs => h r id hw hr hp s j hs, fun h r id hw hr hp s j hs => h id r j s hw hr hp hs⟩

/-- Nothing clashes when a draft is clear. -/
theorem clash?_eq_none_iff {l : Ledger} {d : Draft} : l.clash? d = none ↔ l.Clear d := by
  simp only [clash?, Option.orElse_eq_orElse, Option.orElse_eq_or, Option.or_eq_none_iff, staleCopy?_eq_none_iff,
    staleLoan?_eq_none_iff, staleFine?_eq_none_iff, collision?_eq_none_iff]
  exact ⟨fun ⟨h1, h2, h3, h4⟩ => ⟨h1, h2, h3, h4⟩, fun ⟨h1, h2, h3, h4⟩ => ⟨h1, h2, h3, h4⟩⟩

/-- A commit goes through exactly when nothing stands against it. -/
theorem commit_eq_ok_iff {l l' : Ledger} {d : Draft} :
    l.commit d = .ok l' ↔
      l.Clear d ∧ l' = { l with tables := publishAll l.tables d, versions := bump l.versions d.locked.ids } := by
  unfold commit
  rw [← clash?_eq_none_iff]
  cases l.clash? d with
  | none => simp [eq_comm]
  | some why => simp

/-- A commit that does not go through is refused as a conflict. -/
theorem commit_eq_conflict {l : Ledger} {d : Draft} {why : Refusal} (h : l.commit d = .error why) :
    ¬l.Clear d ∧ ∃ clash, why = .conflict clash := by
  unfold commit at h
  rw [← clash?_eq_none_iff]
  cases hc : l.clash? d with
  | none => simp [hc] at h
  | some clash =>
    rw [hc] at h
    cases h
    exact ⟨by simp, clash, rfl⟩

/-- A commit that something stands against is refused as a conflict. -/
theorem commit_of_not_clear {l : Ledger} {d : Draft} (h : ¬l.Clear d) : ∃ clash, l.commit d = .error (.conflict clash) := by
  rw [← clash?_eq_none_iff] at h
  obtain ⟨clash, hc⟩ := Option.ne_none_iff_exists'.1 h
  exact ⟨clash, by simp [commit, hc]⟩

end Ledger

/-! ## What a ledger was, and what it is -/

namespace Ledger

/-- A ledger that has given out ids and gained titles and users, and nothing else. -/
structure Grown (l l' : Ledger) : Prop where
  lastId : l.lastId ≤ l'.lastId
  versions : l'.versions = l.versions
  tables : l'.tables = { l.tables with books := l'.tables.books, users := l'.tables.users }

theorem Grown.refl (l : Ledger) : l.Grown l :=
  ⟨Int.le_refl _, rfl, rfl⟩

/-- A title makes a ledger grow. -/
theorem addBook_grown (l : Ledger) (title : String) : l.Grown (l.addBook title).2 :=
  ⟨Int.le_of_lt (Int.lt_succ _), rfl, rfl⟩

/-- A user makes a ledger grow. -/
theorem addUser_grown (l : Ledger) (username : String) : l.Grown (l.addUser username).2 :=
  ⟨Int.le_of_lt (Int.lt_succ _), rfl, rfl⟩

/-- A sound ledger that grows is sound. -/
theorem Sound.grown {l l' : Ledger} (h : l.Sound) (hg : l.Grown l') : l'.Sound := by
  constructor <;> rw [hg.tables]
  · exact h.copies.mono hg.lastId
  · exact h.loans.mono hg.lastId
  · exact h.entries.mono hg.lastId
  · exact h.reservations.mono hg.lastId
  · exact h.fines.mono hg.lastId

/-- How a ledger may differ from what it was before some transactions committed: rows last, versions move on by locks, a fine
is settled by one of them, and a reservation is as it was or as one of them left it. -/
structure Since (base l : Ledger) (committed : List Transaction) : Prop where
  lastId : base.lastId ≤ l.lastId
  copies : base.tables.copies.Kept l.tables.copies
  loans : base.tables.loans.Kept l.tables.loans
  entries : base.tables.entries.Kept l.tables.entries
  reservations : base.tables.reservations.Kept l.tables.reservations
  fines : base.tables.fines.Kept l.tables.fines
  version_le : ∀ id, base.version id ≤ l.version id
  unmoved : ∀ id, base.version id = l.version id ↔ ∀ e ∈ committed, e.draft.locked.contains id = false
  settled : ∀ id f f', base.tables.fines.get? id = some f → f.settled = false → l.tables.fines.get? id = some f' →
    f'.settled = true → ∃ e ∈ committed, e.draft.settled.contains id = true
  placed : ∀ id r, l.tables.reservations.get? id = some r → base.tables.reservations.get? id = some r ∨
    ∃ e ∈ committed, e.draft.written.reservations.contains id = true ∧ e.draft.tables.reservations.get? id = some r

namespace Since

variable {base l l' : Ledger} {committed : List Transaction}

/-- Growth commits nothing. -/
theorem of_grown (h : l.Grown l') : l.Since l' [] := by
  have hver : ∀ id, l'.version id = l.version id := fun id => by simp [version, h.versions]
  have ht := h.tables
  refine ⟨h.lastId, ?_, ?_, ?_, ?_, ?_, fun id => Nat.le_of_eq (hver id).symm, fun id => by simp [hver], ?_, ?_⟩
  · rw [ht]; exact .refl _
  · rw [ht]; exact .refl _
  · rw [ht]; exact .refl _
  · rw [ht]; exact .refl _
  · rw [ht]; exact .refl _
  · intro id f f' hf hs hf' hs'
    rw [ht] at hf'
    cases hf.symm.trans hf'
    simp [hs] at hs'
  · intro id r hr
    rw [ht] at hr
    exact .inl hr

theorem trans {more : List Transaction} (h : base.Since l committed) (h' : l.Since l' more) :
    base.Since l' (committed ++ more) where
  lastId := Int.le_trans h.lastId h'.lastId
  copies := h.copies.trans h'.copies
  loans := h.loans.trans h'.loans
  entries := h.entries.trans h'.entries
  reservations := h.reservations.trans h'.reservations
  fines := h.fines.trans h'.fines
  version_le id := Nat.le_trans (h.version_le id) (h'.version_le id)
  unmoved id := by
    have h1 := h.version_le id
    have h2 := h'.version_le id
    constructor
    · intro heq e he
      rcases List.mem_append.1 he with he | he
      · exact (h.unmoved id).1 (by omega) e he
      · exact (h'.unmoved id).1 (by omega) e he
    · intro hall
      have e1 := (h.unmoved id).2 fun e he => hall e (List.mem_append_left _ he)
      have e2 := (h'.unmoved id).2 fun e he => hall e (List.mem_append_right _ he)
      omega
  settled id f f' hf hs hf' hs' := by
    obtain ⟨g, hg, -⟩ := h.fines id f hf
    cases hgs : g.settled with
    | true =>
      obtain ⟨e, he, hes⟩ := h.settled id f g hf hs hg hgs
      exact ⟨e, List.mem_append_left _ he, hes⟩
    | false =>
      obtain ⟨e, he, hes⟩ := h'.settled id g f' hg hgs hf' hs'
      exact ⟨e, List.mem_append_right _ he, hes⟩
  placed id r hr := by
    rcases h'.placed id r hr with hr | ⟨e, he, her⟩
    · exact (h.placed id r hr).imp_right fun ⟨e, he, her⟩ => ⟨e, List.mem_append_left _ he, her⟩
    · exact .inr ⟨e, List.mem_append_right _ he, her⟩

end Since

end Ledger

/-- Whether a transaction has no row of its own under an id that some tables know. -/
def Transaction.Apart (x : Transaction) (t : Tables) : Prop :=
  ∀ id, x.base.lastId < id → x.draft.tables.Holds id → ¬t.Holds id

/-- What a transaction and some tables both have was there when the transaction began. -/
theorem Transaction.Apart.old {x : Transaction} {t : Tables} (h : x.Apart t) {id : Int} (hx : x.draft.tables.Holds id)
    (ht : t.Holds id) : id ≤ x.base.lastId :=
  Int.not_lt.1 fun hlt => h id hlt hx ht

/-- A transaction that is about to commit, with the ledger it meets and the ledger it leaves. -/
structure Committing (l : Ledger) (x : Transaction) (committed : List Transaction) (l' : Ledger) : Prop where
  sound : l.Sound
  base : x.base.Sound
  stands : x.draft.Stands x.base l.lastId
  since : x.base.Since l committed
  apart : x.Apart l.tables
  clear : l.Clear x.draft
  eq : l' = { l with
    tables := Ledger.publishAll l.tables x.draft, versions := Ledger.bump l.versions x.draft.locked.ids }

namespace Committing

variable {l l' : Ledger} {x : Transaction} {committed : List Transaction}

/-- A commit leaves the copies that the draft wrote as the draft has them, and the others as they were. -/
theorem copies (h : Committing l x committed l') (id : Int) : l'.tables.copies.get? id =
    if x.draft.written.copies.contains id then x.draft.tables.copies.get? id else l.tables.copies.get? id := by
  rw [h.eq]; exact h.stands.copies.get?_publish _ id

/-- A commit leaves the loans that the draft wrote as the draft has them, and the others as they were. -/
theorem loans (h : Committing l x committed l') (id : Int) : l'.tables.loans.get? id =
    if x.draft.written.loans.contains id then x.draft.tables.loans.get? id else l.tables.loans.get? id := by
  rw [h.eq]; exact h.stands.loans.get?_publish _ id

/-- A commit leaves the entries that the draft wrote as the draft has them, and the others as they were. -/
theorem entries (h : Committing l x committed l') (id : Int) : l'.tables.entries.get? id =
    if x.draft.written.entries.contains id then x.draft.tables.entries.get? id else l.tables.entries.get? id := by
  rw [h.eq]; exact h.stands.entries.get?_publish _ id

/-- A commit leaves the reservations that the draft wrote as the draft has them, and the others as they were. -/
theorem reservations (h : Committing l x committed l') (id : Int) : l'.tables.reservations.get? id =
    if x.draft.written.reservations.contains id then x.draft.tables.reservations.get? id
    else l.tables.reservations.get? id := by
  rw [h.eq]; exact h.stands.reservations.get?_publish _ id

/-- A commit leaves the fines that the draft wrote as the draft has them, and the others as they were. -/
theorem fines (h : Committing l x committed l') (id : Int) : l'.tables.fines.get? id =
    if x.draft.written.fines.contains id then x.draft.tables.fines.get? id else l.tables.fines.get? id := by
  rw [h.eq]; exact h.stands.fines.get?_publish _ id

/-- A commit moves on the versions of the copies that were locked. -/
theorem version (h : Committing l x committed l') (id : Int) :
    l'.version id = l.version id + if x.draft.locked.contains id then 1 else 0 := by
  rw [h.eq]; exact Ledger.getD_bump l.versions x.draft.locked id

/-- A commit gives out no id. -/
theorem lastId (h : Committing l x committed l') : l'.lastId = l.lastId := by
  rw [h.eq]

/-- A commit leaves a sound ledger. -/
theorem sound' (h : Committing l x committed l') : l'.Sound := by
  rw [h.eq]
  exact ⟨h.stands.copies.publish_keyed h.sound.copies, h.stands.loans.publish_keyed h.sound.loans,
    h.stands.entries.publish_keyed h.sound.entries, h.stands.reservations.publish_keyed h.sound.reservations,
    h.stands.fines.publish_keyed h.sound.fines⟩

/-- Nobody who committed since a transaction began locked a copy that it locked. -/
theorem not_locked (h : Committing l x committed l') {c : Int} (hc : x.draft.locked.contains c = true) :
    ∀ e ∈ committed, e.draft.locked.contains c = false := by
  obtain ⟨v, hv⟩ := Table.contains_iff.1 hc
  have hver := (h.stands.locked c v hv).1.symm.trans (h.clear.locked c v hv).symm
  exact (h.since.unmoved c).1 hver

/-- A loan that a draft wrote is out, if the ledger has it. -/
theorem loan_open (h : Committing l x committed l') {id : Int} {a : Loan} (hw : x.draft.written.loans.contains id = true)
    (ha : l.tables.loans.get? id = some a) : a.isBorrowed = true := by
  have hheld := h.stands.loans.held id hw
  have hid := h.apart.old (.inr (.inl hheld)) (.inr (.inl (Table.contains_of_get? ha)))
  obtain ⟨v, hv⟩ := Table.contains_iff.1 (h.stands.guarded id hw (h.stands.loans.old id hheld hid))
  exact (h.clear.guards id v a hv ha).1

/-- A fine that a draft wrote is outstanding, if the ledger has it. -/
theorem fine_open (h : Committing l x committed l') {id : Int} {a : Fine} (hw : x.draft.written.fines.contains id = true)
    (ha : l.tables.fines.get? id = some a) : a.settled = false := by
  have hheld := h.stands.fines.held id hw
  have hid := h.apart.old (.inr (.inr (.inr (.inr hheld)))) (.inr (.inr (.inr (.inr (Table.contains_of_get? ha)))))
  exact h.clear.settled id a (h.stands.unsettled id hw (h.stands.fines.old id hheld hid)) ha

/-- What is committed afterwards was committed before or is in the draft. -/
theorem holds (h : Committing l x committed l') {id : Int} (hid : l'.tables.Holds id) :
    l.tables.Holds id ∨ x.draft.tables.Holds id := by
  rw [h.eq] at hid
  rcases hid with hid | hid | hid | hid | hid
  · exact (h.stands.copies.contains_publish hid).imp .inl .inl
  · exact (h.stands.loans.contains_publish hid).imp (fun h => .inr (.inl h)) (fun h => .inr (.inl h))
  · exact (h.stands.entries.contains_publish hid).imp (fun h => .inr (.inr (.inl h)))
      (fun h => .inr (.inr (.inl h)))
  · exact (h.stands.reservations.contains_publish hid).imp (fun h => .inr (.inr (.inr (.inl h))))
      (fun h => .inr (.inr (.inr (.inl h))))
  · exact (h.stands.fines.contains_publish hid).imp (fun h => .inr (.inr (.inr (.inr h))))
      (fun h => .inr (.inr (.inr (.inr h))))

/-- A commit moves the ledger on by what the transaction locked and settled. -/
theorem since' (h : Committing l x committed l') : l.Since l' [x] where
  lastId := Int.le_of_eq h.lastId.symm
  copies := by
    rw [h.eq]
    exact h.stands.copies.kept_publish h.since.copies fun id hf ht hl => h.apart id hf (.inl ht) (.inl hl)
  loans := by
    rw [h.eq]
    exact h.stands.loans.kept_publish h.since.loans fun id hf ht hl =>
      h.apart id hf (.inr (.inl ht)) (.inr (.inl hl))
  entries := by
    rw [h.eq]
    exact h.stands.entries.kept_publish h.since.entries fun id hf ht hl =>
      h.apart id hf (.inr (.inr (.inl ht))) (.inr (.inr (.inl hl)))
  reservations := by
    rw [h.eq]
    exact h.stands.reservations.kept_publish h.since.reservations fun id hf ht hl =>
      h.apart id hf (.inr (.inr (.inr (.inl ht)))) (.inr (.inr (.inr (.inl hl))))
  fines := by
    rw [h.eq]
    exact h.stands.fines.kept_publish h.since.fines fun id hf ht hl =>
      h.apart id hf (.inr (.inr (.inr (.inr ht)))) (.inr (.inr (.inr (.inr hl))))
  version_le id := by rw [h.version]; omega
  unmoved id := by
    simp only [h.version, List.mem_singleton, forall_eq]
    cases x.draft.locked.contains id <;> simp
  settled id f f' hf hs hf' hs' := by
    refine ⟨x, List.mem_singleton_self x, ?_⟩
    rw [h.fines] at hf'
    split at hf'
    · rename_i hw
      -- The fine was there when the transaction began, since rows of its own are new to the ledger.
      have hid := h.apart.old (.inr (.inr (.inr (.inr (h.stands.fines.held id hw)))))
        (.inr (.inr (.inr (.inr (Table.contains_of_get? hf)))))
      exact h.stands.unsettled id hw (h.stands.fines.old id (h.stands.fines.held id hw) hid)
    · cases hf.symm.trans hf'
      simp [hs] at hs'
  placed id r hr := by
    rw [h.reservations] at hr
    split at hr
    · rename_i hw
      exact .inr ⟨x, List.mem_singleton_self x, hw, hr⟩
    · exact .inl hr

end Committing

end Circulation
