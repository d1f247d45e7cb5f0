import Circulation.Proofs.Kinds
import Mathlib.Data.List.Nodup

/-!
# Numbering

Rows of every kind take their ids from the one counter of the ledger: titles and users when they are added, the rows of a
transaction when it inserts them, long before it commits, and for good even if it never does. A `Register` is a logbook with
a list of all rows that were given an id, as they were answered. Main statement: the ids on the list are 1, 2, 3 and so on,
whichever transactions they went to and whatever became of those; a row in the ledger or in a draft is under the id that it
carries, which was given to a row of its kind; and the rows that a transaction inserted are published where the ledger has
none (`ids_never_shared`).
-/

namespace Circulation

/-- Whether rows that a transaction inserted come where tables had none, when it is committed, and a row that the tables had
stays unless it was there when the transaction began. -/
structure Transaction.Spares (x : Transaction) (inserted : List AnyRow) (t t' : Tables) : Prop where
  inserted : ∀ g ∈ inserted, (∀ kind, t.row? kind g.id = none) ∧
    ∃ row, x.draft.tables.row? g.kind g.id = some row ∧ t'.row? g.kind g.id = some row
  others : ∀ kind id row, t.row? kind id = some row → t'.row? kind id = some row ∨
    (∃ old, x.base.tables.row? kind id = some old) ∧ t'.row? kind id = x.draft.tables.row? kind id

/-! ## The register -/

/-- What an action gives an id to. -/
def Traffic.given? (s : Traffic) : Action → Option AnyRow
  | .addBook title => some (.book (s.ledger.addBook title).1)
  | .addUser username => some (.user (s.ledger.addUser username).1)
  | .advance k => ((s.opened k).bind (·.next? s)).bind Deed.inserted?
  | _ => none

/-- A logbook with all rows that were given an id, in order. -/
structure Register where
  book : Logbook
  given : List AnyRow := []

/-- Carries out an action and keeps the register. -/
def Register.act (r : Register) (a : Action) : Register where
  book := r.book.act a
  given := r.given ++ (r.book.traffic.given? a).toList

/-- The registers of what actions within the rules lead to, from an empty ledger. -/
inductive Registered (rules : Rules) : Register → Prop where
  | start (t : Instant) : rules.admits t → Registered rules { book := { traffic := { clock := t } } }
  | act {r : Register} (a : Action) : Registered rules r → rules.Permits r.book.traffic a → Registered rules (r.act a)

/-- Registers are kept of what the rules lead to. -/
theorem Registered.recorded {rules : Rules} {r : Register} (h : Registered rules r) : Recorded rules r.book := by
  induction h with
  | start t ht => exact .start t ht
  | act a _ ha ih => exact ih.act a ha

namespace Traffic

/-- An action moves the counter exactly if it gives out an id, which is the next one. -/
theorem given?_cases (s : Traffic) (a : Action) :
    s.given? a = none ∧ (s.act a).ledger.lastId = s.ledger.lastId ∨
    ∃ g, s.given? a = some g ∧ g.id = s.ledger.lastId + 1 ∧ (s.act a).ledger.lastId = s.ledger.lastId + 1 := by
  cases a with
  | addBook title => exact .inr ⟨_, rfl, rfl, rfl⟩
  | addUser username => exact .inr ⟨_, rfl, rfl, rfl⟩
  | setClock t => exact .inl ⟨rfl, rfl⟩
  | begin k => exact .inl ⟨rfl, rfl⟩
  | call k p =>
    rcases s.act_call_cases k p with he | ⟨x, -, -, he⟩
    · rw [he]; exact .inl ⟨rfl, rfl⟩
    · rw [he]; exact .inl ⟨rfl, rfl⟩
  | advance k =>
    cases hx : s.opened k with
    | none => exact .inl ⟨by simp [given?, hx], by simp [act, hx]⟩
    | some x =>
      have hgiven : s.given? (.advance k) = (x.next? s).bind Deed.inserted? := by simp [given?, hx]
      have hact : s.act (.advance k) = s.advance k x := by simp only [act, hx]
      rw [hgiven, hact]
      unfold Transaction.next? advance
      rcases x.doing with - | (loans | (why | what) | next | ⟨q, next⟩)
      · exact .inl ⟨rfl, rfl⟩
      · exact .inl ⟨rfl, rfl⟩
      · exact .inl ⟨rfl, rfl⟩
      · exact .inl ⟨rfl, rfl⟩
      · exact .inl ⟨rfl, rfl⟩
      · cases hw : Work.answer q ⟨x.draft, s.ledger.lastId, 0⟩ with
        | mk a w =>
          simp only [hw]
          rcases Draft.inserted_cases hw with ⟨hnone, hlast, -⟩ | ⟨g, hsome, hid, hlast, -⟩
          · refine .inl ⟨hnone, ?_⟩
            cases a with
            | error why => exact hlast
            | ok answer => exact hlast
          · refine .inr ⟨g, hsome, hid, ?_⟩
            cases a with
            | error why => exact hlast
            | ok answer => exact hlast
  | commit k =>
    rcases s.act_commit_cases k with he | he | ⟨x, l, -, -, hl, he⟩
    · rw [he]; exact .inl ⟨rfl, rfl⟩
    · rw [he]; exact .inl ⟨rfl, rfl⟩
    · rw [he]; exact .inl ⟨rfl, by rw [(Ledger.commit_eq_ok_iff.1 hl).2]⟩
  | rollback k => exact .inl ⟨rfl, rfl⟩

/-- What an action makes of the rows of the ledger: it leaves them, adds the one that it gives an id to, or is a commit that
goes through. -/
theorem act_tables_cases (s : Traffic) (a : Action) :
    (s.act a).ledger.tables = s.ledger.tables ∨
    (∃ g, s.given? a = some g ∧ (s.act a).ledger.tables = s.ledger.tables.put g g.id) ∨
    ∃ k x l, s.opened k = some x ∧ s.ledger.commit x.draft = .ok l ∧ (s.act a).ledger = l := by
  cases a with
  | addBook title => exact .inr (.inl ⟨_, rfl, rfl⟩)
  | addUser username => exact .inr (.inl ⟨_, rfl, rfl⟩)
  | setClock t => exact .inl rfl
  | begin k => exact .inl rfl
  | call k p =>
    rcases s.act_call_cases k p with he | ⟨x, -, -, he⟩
    · rw [he]; exact .inl rfl
    · rw [he]; exact .inl rfl
  | advance k =>
    left
    simp only [act]
    split
    · rename_i x _
      rcases s.advance_cases k x with he | he | ⟨x', n, -, -, -, he⟩
      · rw [he]
      · rw [he]; rfl
      · rw [he]; rfl
    · rfl
  | commit k =>
    rcases s.act_commit_cases k with he | he | ⟨x, l, hx, -, hl, he⟩
    · rw [he]; exact .inl rfl
    · rw [he]; exact .inl rfl
    · rw [he]; exact .inr (.inr ⟨k, x, l, hx, hl, rfl⟩)
  | rollback k => exact .inl rfl

end Traffic

/-- What is inserted on a page by an action, the action gave an id to. -/
theorem Logbook.insertions_page (b : Logbook) (a : Action) (k : Nat) :
    Deed.insertions (b.page k a) ⊆ Deed.insertions (b.pages k) ++ (b.traffic.given? a).toList := by
  have kept : Deed.insertions (b.pages k) ⊆ Deed.insertions (b.pages k) ++ (b.traffic.given? a).toList :=
    List.subset_append_left _ _
  cases a with
  | begin j =>
    simp only [page]
    split
    · exact List.nil_subset _
    · exact kept
  | call j p =>
    simp only [page]
    split
    · rw [Deed.insertions, List.filterMap_append]
      exact List.append_subset.2 ⟨kept, List.nil_subset _⟩
    · exact kept
  | advance j =>
    simp only [page]
    split
    · rename_i hj
      subst hj
      intro g hg
      simpa [Deed.insertions, Traffic.given?, Option.bind_eq_some_iff, or_and_right, exists_or] using hg
    · exact kept
  | _ => exact kept

/-- What is so in every register: the ids given out are the first ones, each once and in order; what is inserted on a page is
on the list; and the ledger is numbered, now and when the open transactions began. -/
structure Register.InOrder (r : Register) : Prop where
  ids : r.given.map AnyRow.id = (List.range r.given.length).map fun i : Nat => (i : Int) + 1
  lastId : r.book.traffic.ledger.lastId = r.given.length
  pages : ∀ k, Deed.insertions (r.book.pages k) ⊆ r.given
  ledger : r.book.traffic.ledger.tables.Numbered r.book.traffic.ledger.lastId r.given
  bases : ∀ k x, r.book.traffic.opened k = some x → x.base.tables.Numbered x.base.lastId r.given

namespace Register.InOrder

variable {rules : Rules} {r : Register}

theorem start (t : Instant) : Register.InOrder { book := { traffic := { clock := t } } } where
  ids := rfl
  lastId := rfl
  pages _ := List.nil_subset _
  ledger kind _ _ h := by cases kind <;> cases h
  bases _ _ h := nomatch h

/-- No id was given to two rows. -/
theorem ids_nodup (h : r.InOrder) : (r.given.map AnyRow.id).Nodup := by
  rw [h.ids]
  exact List.nodup_range.map fun i j hij => Int.ofNat_inj.1 ((Int.add_left_inj 1).1 hij)

/-- A row on the list is known by its id. -/
theorem eq_of_id_eq (h : r.InOrder) {g g' : AnyRow} (hg : g ∈ r.given) (hg' : g' ∈ r.given) (hid : g.id = g'.id) : g = g' :=
  List.inj_on_of_nodup_map h.ids_nodup hg hg' hid

/-- A draft is numbered, since the ledger that it began on was and all that it inserted is on the list. -/
theorem draft (h : r.InOrder) (hr : Registered rules r) {k : Nat} {x : Transaction} (hx : r.book.traffic.opened k = some x) :
    x.draft.tables.Numbered r.book.traffic.ledger.lastId r.given := by
  obtain ⟨n, hn, hdid⟩ := hr.recorded.did hx
  exact (hdid.numbered (h.bases k x hx) (h.pages k)).mono hn (List.Subset.refl _)

/-- What an action gives an id to comes last on the list, with the next id. -/
theorem ids_act (h : r.InOrder) (a : Action) :
    (r.act a).given.map AnyRow.id = (List.range (r.act a).given.length).map (fun i : Nat => (i : Int) + 1) ∧
      (r.act a).book.traffic.ledger.lastId = (r.act a).given.length := by
  have hlast := h.lastId
  rcases r.book.traffic.given?_cases a with ⟨hnone, hsame⟩ | ⟨g, hsome, hid, hnext⟩
  · have hgiven : (r.act a).given = r.given := by simp [Register.act, hnone]
    rw [hgiven]
    exact ⟨h.ids, hsame.trans hlast⟩
  · have hgiven : (r.act a).given = r.given ++ [g] := by simp [Register.act, hsome]
    rw [hgiven, List.length_append, List.length_singleton, List.range_succ, List.map_append, List.map_append, h.ids]
    refine ⟨by simp [hid, hlast], hnext.trans ?_⟩
    rw [hlast, Int.natCast_add]
    rfl

/-- An action keeps the ledger numbered: what it adds has the next id, and what it publishes was numbered in the draft. -/
theorem ledger_act (h : r.InOrder) (hr : Registered rules r) (a : Action) :
    (r.act a).book.traffic.ledger.tables.Numbered (r.act a).book.traffic.ledger.lastId (r.act a).given := by
  have hsub : r.given ⊆ (r.act a).given := List.subset_append_left _ _
  simp only [Register.act, Logbook.act] at hsub ⊢
  rcases r.book.traffic.act_tables_cases a with hsame | ⟨g, hg, hput⟩ | ⟨k, x, l, hx, hl, hcommit⟩
  · rw [hsame]
    exact h.ledger.mono (r.book.traffic.lastId_le_act a) hsub
  · rcases r.book.traffic.given?_cases a with ⟨hnone, -⟩ | ⟨g', hsome, hid, hnext⟩
    · cases hnone.symm.trans hg
    · cases hsome.symm.trans hg
      rw [hput, hnext]
      exact (h.ledger.mono (Int.le_refl _) hsub).put (List.mem_append_right _ (by simp [hg])) hid
  · -- A commit gives out no id: what it publishes was on the list when it was inserted.
    have hcom := hr.recorded.reachable.sound.committing hx hl
    rw [hcommit]
    exact (hcom.numbered h.ledger (h.draft hr hx)).mono (Int.le_refl _) hsub

/-- Every action keeps a register in order. -/
theorem act (h : r.InOrder) (hr : Registered rules r) (a : Action) : (r.act a).InOrder := by
  have hsub : r.given ⊆ (r.act a).given := List.subset_append_left _ _
  obtain ⟨hids, hlast⟩ := h.ids_act a
  refine ⟨hids, hlast, fun k => ?_, h.ledger_act hr a, fun k x hx => ?_⟩
  · refine List.Subset.trans (r.book.insertions_page a k) (List.append_subset.2 ⟨List.Subset.trans (h.pages k) hsub, ?_⟩)
    exact List.subset_append_right _ _
  · rcases r.book.act_turns a hx with ⟨rfl, -⟩ | ⟨y, ds, hy, hturns, -⟩
    · exact h.ledger.mono (Int.le_refl _) hsub
    · rw [hturns.base.1]
      exact (h.bases k y hy).mono (Int.le_refl _) hsub

/-- A commit that goes through publishes inserted rows where there are none, and spares the rows of others. -/
theorem spares (h : r.InOrder) (hr : Registered rules r) {k : Nat} {x : Transaction} {l : Ledger}
    (hx : r.book.traffic.opened k = some x) (hl : r.book.traffic.ledger.commit x.draft = .ok l) :
    x.Spares (Deed.insertions (r.book.pages k)) r.book.traffic.ledger.tables l.tables := by
  have hcom := hr.recorded.reachable.sound.committing hx hl
  obtain ⟨n, -, hdid⟩ := hr.recorded.did hx
  refine ⟨fun g hg => ⟨fun kind => ?_, ?_⟩, fun kind id row hrow => ?_⟩
  · obtain ⟨hnew, hw⟩ := hdid.inserted hg
    refine Option.eq_none_iff_forall_ne_some.2 fun row hrow => ?_
    -- The id was given out once, so a row under it would be of the kind that was inserted.
    obtain ⟨-, -, g', hg', rfl, hid⟩ := h.ledger kind g.id row hrow
    obtain rfl := h.eq_of_id_eq hg' (h.pages k hg) hid
    have hle := hcom.le_of_written hw hrow
    omega
  · obtain ⟨-, hw⟩ := hdid.inserted hg
    obtain ⟨row, hrow⟩ := hcom.stands.exists_row hw
    exact ⟨row, hrow, by rw [hcom.row?, if_pos hw, hrow]⟩
  · rw [hcom.row?]
    split
    · rename_i hw
      exact .inr ⟨hcom.stands.exists_base_row hw (hcom.le_of_written hw hrow), rfl⟩
    · exact .inl hrow

end Register.InOrder

/-- Every register is in order. -/
theorem Registered.inOrder {rules : Rules} {r : Register} (h : Registered rules r) : r.InOrder := by
  induction h with
  | start t _ => exact .start t
  | act a h _ ih => exact ih.act h a

/-- Ids are never shared. Those given out are 1, 2, 3 and so on, each to one row, whichever transaction the row is of and
whatever becomes of that, and the counter tells how many there were. Every row of the ledger, and of the draft of an open
transaction, is under the id that it carries, none beyond the counter, and that id was given to a row of its kind. A commit
puts the rows that its transaction inserted where the ledger has no row of any kind, and changes no row that was not there
when the transaction began. -/
theorem ids_never_shared {rules : Rules} {r : Register} (h : Registered rules r) :
    (r.given.map AnyRow.id).Nodup ∧
    r.given.map AnyRow.id = (List.range r.given.length).map (fun i : Nat => (i : Int) + 1) ∧
    r.book.traffic.ledger.lastId = r.given.length ∧
    r.book.traffic.ledger.tables.Numbered r.book.traffic.ledger.lastId r.given ∧
    ∀ k x, r.book.traffic.opened k = some x →
      x.draft.tables.Numbered r.book.traffic.ledger.lastId r.given ∧
      Deed.insertions (r.book.pages k) ⊆ r.given ∧
      ∀ l, r.book.traffic.ledger.commit x.draft = .ok l →
        x.Spares (Deed.insertions (r.book.pages k)) r.book.traffic.ledger.tables l.tables :=
  have ho := h.inOrder
  ⟨ho.ids_nodup, ho.ids, ho.lastId, ho.ledger, fun k _ hx => ⟨ho.draft h hx, ho.pages k, fun _ hl => ho.spares h hx hl⟩⟩

/-- Has a desk carry out some actions and keeps the register. -/
def Register.acts (r : Register) (as : List Action) : Register :=
  as.foldl act r

/-- Any action is permitted where transactions may ask for anything. -/
theorem Rules.anything_permits (s : Traffic) (a : Action) : Rules.anything.Permits s a := by
  cases a with
  | setClock t => exact ⟨trivial, False.elim⟩
  | call k p => exact fun _ _ => ⟨trivial, False.elim⟩
  | commit k => exact fun _ _ => False.elim
  | _ => trivial

/-- Actions within no rules at all keep the register. -/
theorem Registered.acts {r : Register} (h : Registered Rules.anything r) (as : List Action) :
    Registered Rules.anything (r.acts as) := by
  induction as generalizing r with
  | nil => exact h
  | cons a as ih => exact ih (h.act a (Rules.anything_permits _ a))

/-- A transaction is put to a request and takes the two steps of it. -/
def Action.put (k : Nat) (q : Request) : List Action :=
  [.call k q.alone, .advance k, .advance k]

/-- A desk with four transactions at work at once. Two of them held the one copy there is, and the second was refused; one was
dropped; and one, which is still open, lent the copy. -/
def fourAtOnce : Register :=
  let r : Register := { book := { traffic := { clock := .epoch } } }
  let r := (r.acts [.addBook "Emma", .addUser "ann", .addUser "ben", .begin 0]).acts (Action.put 0 (.insertCopy 1 .epoch))
  let r := r.acts [.commit 0, .begin 0, .begin 1, .begin 2, .begin 3]
  let r := r.acts (Action.put 0 (.insertReservation ⟨4, 1, 2, .epoch, .epoch⟩))
  let r := r.acts (Action.put 1 (.insertReservation ⟨4, 1, 3, .epoch, .epoch⟩))
  let r := r.acts (Action.put 2 (.insertLoan ⟨4, 1, 3, .epoch, .epoch⟩))
  let r := r.acts (Action.put 3 (.insertLoan ⟨4, 1, 2, .epoch, .epoch⟩))
  r.acts [.rollback 2, .commit 0, .commit 1, .addUser "eve"]

theorem fourAtOnce_registered : Registered Rules.anything fourAtOnce := by
  have start : Registered Rules.anything { book := { traffic := { clock := .epoch } } } := .start .epoch trivial
  exact (((((((start.acts _).acts _).acts _).acts _).acts _).acts _).acts _).acts _

/-- Nine ids were given out there, two of them to the hold that was refused and the loan that was dropped, none of them twice.
The loan that is still open has the eighth, and may be committed, to where the ledger has nothing. -/
theorem fourAtOnce_numbered : fourAtOnce.given.map AnyRow.kind =
      [.book, .user, .user, .copy, .reservation, .reservation, .loan, .loan, .user] ∧
    (fourAtOnce.given.map AnyRow.id).Nodup ∧ fourAtOnce.book.traffic.ledger.lastId = 9 ∧
    ∃ x l, fourAtOnce.book.traffic.opened 3 = some x ∧ fourAtOnce.book.traffic.ledger.commit x.draft = .ok l ∧
      (∀ kind, fourAtOnce.book.traffic.ledger.tables.row? kind 8 = none) ∧
      ∃ row, x.draft.tables.row? .loan 8 = some row ∧ l.tables.row? .loan 8 = some row := by
  obtain ⟨nodup, -, last, -, opened⟩ := ids_never_shared fourAtOnce_registered
  have kinds : fourAtOnce.given.map AnyRow.kind =
    [.book, .user, .user, .copy, .reservation, .reservation, .loan, .loan, .user] := by decide +kernel
  have hx : fourAtOnce.book.traffic.opened 3 = some ((fourAtOnce.book.traffic.opened 3).get (by decide +kernel)) :=
    (Option.some_get _).symm
  have clear : fourAtOnce.book.traffic.ledger.clash?
    ((fourAtOnce.book.traffic.opened 3).get (by decide +kernel)).draft = none := by decide +kernel
  have hl := Ledger.commit_eq_ok_iff.2 ⟨Ledger.clash?_eq_none_iff.1 clear, rfl⟩
  have lent : .loan (NewLoan.toRow ⟨4, 1, 2, .epoch, .epoch⟩ 8) ∈ Deed.insertions (fourAtOnce.book.pages 3) := by
    decide +kernel
  obtain ⟨free, row⟩ := ((opened 3 _ hx).2.2 _ hl).inserted _ lent
  refine ⟨kinds, nodup, last.trans ?_, _, _, hx, hl, free, row⟩
  rw [← List.length_map (f := AnyRow.kind), kinds]
  rfl

end Circulation
