import Circulation.Proofs.Conflicts
import Circulation.Proofs.Logbook

/-!
# The order of commits

Two transactions at rest, since neither of which began anything was committed, both commit exactly when neither stands
against itself and they do not interfere (`Abreast.both_commit_iff`). Interference has no direction, so it does not matter
which of them is committed first; and since what they wrote does not overlap, the ledger is the same after both
(`commit_order_irrelevant`).
-/

namespace Circulation

/-- Interference is mutual. -/
theorem Transaction.Interferes.symm {x y : Transaction} (h : x.Interferes y) : y.Interferes x := by
  rcases h with ⟨id, hx, hy⟩ | ⟨id, hx, hy⟩ | ⟨i, j, r, s, hi, hr, hrp, hj, hs, hcol⟩
  · exact .inl ⟨id, hy, hx⟩
  · exact .inr (.inl ⟨id, hy, hx⟩)
  · obtain ⟨hne, hsp, heq⟩ := Ledger.collides_iff.1 hcol
    refine .inr (.inr ⟨j, i, s, r, hj, hs, hsp, hi, hr, Ledger.collides_iff.2 ⟨hne.symm, hrp, ?_⟩⟩)
    exact heq.imp Eq.symm fun h => ⟨h.1.symm, h.2.symm⟩

/-! ## Publications -/

/-- Two drafts may be published in any order if what they both wrote is the same. -/
theorem Table.Follows.publish_comm {α : Type} [Lasting α] {base base' t t' l : Table α} {written written' : IdSet}
    {first first' last last' : Int} (h : base.Follows first t written last)
    (h' : base'.Follows first' t' written' last')
    (hboth : ∀ id, written.contains id = true → written'.contains id = true → t.get? id = t'.get? id) :
    Ledger.publish written t (Ledger.publish written' t' l) = Ledger.publish written' t' (Ledger.publish written t l) := by
  ext1 id
  simp only [h.get?_publish, h'.get?_publish]
  cases hw : written.contains id with
  | false => simp
  | true =>
    cases hw' : written'.contains id with
    | false => simp
    | true => simp [hboth id hw hw']

/-- Versions may be moved on in any order. -/
theorem Ledger.bump_comm {cs ds : List Int} (hcs : cs.Nodup) (hds : ds.Nodup) (v : Table Nat) :
    bump (bump v cs) ds = bump (bump v ds) cs := by
  ext1 id
  simp only [get?_bump hcs, get?_bump hds]
  by_cases hc : id ∈ cs <;> by_cases hd : id ∈ ds <;> simp [hc, hd]

/-! ## Two transactions side by side -/

/-- Two transactions at rest, since neither of which began anything was committed. -/
structure Traffic.Abreast (s : Traffic) (j k : Nat) (x y : Transaction) : Prop where
  ne : j ≠ k
  left : s.opened j = some x
  right : s.opened k = some y
  leftRest : x.doing = none
  rightRest : y.doing = none
  leftBegan : x.began = s.journal.length
  rightBegan : y.began = s.journal.length

namespace Traffic.Abreast

variable {policy : Policy} {s : Traffic} {j k : Nat} {x y : Transaction} {l l' : Ledger}

theorem symm (h : s.Abreast j k x y) : s.Abreast k j y x :=
  ⟨h.ne.symm, h.right, h.left, h.rightRest, h.leftRest, h.rightBegan, h.leftBegan⟩

/-- Nothing was committed since the first of them began. -/
theorem asking (h : s.Abreast j k x y) (hs : Reachable (Rules.desk policy) s) : Asking s.ledger x [] := by
  have hasking := Asking.of_reachable hs h.left h.leftRest
  rwa [h.leftBegan, List.drop_length] at hasking

/-- When the first of them has committed, that is all that was committed since the second began. -/
theorem after (h : s.Abreast j k x y) (hs : Reachable (Rules.desk policy) s) (hl : s.ledger.commit x.draft = .ok l) :
    Asking l y [x] ∧ ∀ l', l.commit y.draft = .ok l' → Committing l y [x] l' := by
  have hact : s.act (.commit j) = { s.drop j with ledger := l, journal := s.journal ++ [x] } := by
    rw [act_commit h.left h.leftRest, Traffic.commit, hl]
  have hs' := hs.commit j False.elim
  rw [hact] at hs'
  have hy : ({ s.drop j with ledger := l, journal := s.journal ++ [x] } : Traffic).opened k = some y := by
    simpa [h.ne.symm] using h.right
  have hdrop : (s.journal ++ [x]).drop y.began = [x] := by rw [h.rightBegan, List.drop_left]
  refine ⟨?_, fun l' hl' => ?_⟩
  · exact hdrop ▸ Asking.of_reachable hs' hy h.rightRest
  · exact hdrop ▸ hs'.sound.committing hy hl'

/-- One that interferes and commits first gets in the way. -/
theorem not_interferes (h : s.Abreast j k x y) (hs : Reachable (Rules.desk policy) s)
    (hl : s.ledger.commit x.draft = .ok l) (hl' : l.commit y.draft = .ok l') : ¬x.Interferes y := by
  have hx := hs.sound.committing h.left hl
  have hy := (h.after hs hl).2 l' hl'
  rintro (⟨id, hxl, hyl⟩ | ⟨id, hxs, hys⟩ | ⟨i, j, r, r', hi, hr, hrp, hj, hr', hcol⟩)
  · have hnot := hy.not_locked hyl x (List.mem_singleton_self x)
    simp [hxl] at hnot
  · have hw := (hx.stands.settled id hxs).1
    obtain ⟨f, hf⟩ := Table.contains_iff.1 (hx.stands.fines.held id hw)
    have hrow : l.tables.fines.get? id = some f := by rw [hx.fines, if_pos hw, hf]
    have hopen := hy.clear.settled id f hys hrow
    simp [hs.settled_rows h.left id f hxs hf] at hopen
  · have hrow : l.tables.reservations.get? j = some r' := by rw [hx.reservations, if_pos hj, hr']
    have hclear := hy.clear.pending i r j r' hi hr hrp hrow
    simp [hcol] at hclear

/-- Both commit exactly when neither stands against itself and they do not interfere. -/
theorem both_commit_iff (h : s.Abreast j k x y) (hs : Reachable (Rules.desk policy) s) :
    (∃ l l', s.ledger.commit x.draft = .ok l ∧ l.commit y.draft = .ok l') ↔
      ¬x.CollidesWithOwn ∧ ¬y.CollidesWithOwn ∧ ¬x.Interferes y := by
  have hx := h.asking hs
  constructor
  · rintro ⟨l, l', hl, hl'⟩
    refine ⟨fun hown => hx.not_clear hown (Ledger.commit_eq_ok_iff.1 hl).1, fun hown => ?_, h.not_interferes hs hl hl'⟩
    exact (h.after hs hl).1.not_clear hown (Ledger.commit_eq_ok_iff.1 hl').1
  · rintro ⟨hxown, hyown, hfree⟩
    have hclear := hx.clear (fun e he => nomatch he) hxown
    have hl : s.ledger.commit x.draft = .ok _ := Ledger.commit_eq_ok_iff.2 ⟨hclear, rfl⟩
    have hclear' := (h.after hs hl).1.clear (fun e he => List.mem_singleton.1 he ▸ hfree) hyown
    exact ⟨_, _, hl, Ledger.commit_eq_ok_iff.2 ⟨hclear', rfl⟩⟩

/-! ## What they wrote -/

/-- A row that both wrote and that is new to neither was there before, and its lasting part is the same in both. -/
theorem shared {α : Type} [Lasting α] {base base' t t' l : Table α} {written written' : IdSet}
    {first first' last last' : Int} (h : base.Follows first t written last)
    (h' : base'.Follows first' t' written' last') (hl : base.Kept l) (hl' : base'.Kept l) {id : Int}
    (hw : written.contains id = true) (hw' : written'.contains id = true)
    (hold : t.contains id = true → t'.contains id = true → id ≤ first ∧ id ≤ first') :
    ∃ a b, t.get? id = some a ∧ t'.get? id = some b ∧ Lasting.lasting a = Lasting.lasting b ∧
      base.contains id = true ∧ base'.contains id = true := by
  obtain ⟨a, ha⟩ := Table.contains_iff.1 (h.held id hw)
  obtain ⟨b, hb⟩ := Table.contains_iff.1 (h'.held id hw')
  obtain ⟨hid, hid'⟩ := hold (h.held id hw) (h'.held id hw')
  obtain ⟨c, hc, hac⟩ := h.exists_base ha hid
  obtain ⟨e, he, hbe⟩ := h'.exists_base hb hid'
  obtain ⟨f, hf, hfc⟩ := hl id c hc
  obtain ⟨g, hg, hge⟩ := hl' id e he
  cases hf.symm.trans hg
  exact ⟨a, b, ha, hb, hac.trans (hfc.symm.trans (hge.trans hbe.symm)), Table.contains_of_get? hc,
    Table.contains_of_get? he⟩

/-- Without interference what they both wrote is the same: they wrote none of the same copies, loans, reservations and
fines, and entries do not change. -/
theorem publishAll_comm (h : s.Abreast j k x y) (hs : Reachable (Rules.desk policy) s) (hfree : ¬x.Interferes y)
    (t : Tables) : Ledger.publishAll (Ledger.publishAll t y.draft) x.draft =
      Ledger.publishAll (Ledger.publishAll t x.draft) y.draft := by
  have hx := h.asking hs
  have hy := h.symm.asking hs
  have hfree' : ∀ c, x.draft.locked.contains c = true → ¬y.draft.locked.contains c = true :=
    fun c hxc hyc => hfree (.inl ⟨c, hxc, hyc⟩)
  -- What both hold is a new row of neither.
  have hold : ∀ id, x.draft.tables.Holds id → y.draft.tables.Holds id → id ≤ x.base.lastId ∧ id ≤ y.base.lastId :=
    fun id hxh hyh => ⟨(hs.sound.apart j k x y h.ne h.left h.right).old hxh hyh,
      (hs.sound.apart k j y x h.ne.symm h.right h.left).old hyh hxh⟩
  simp only [Ledger.publishAll, Tables.mk.injEq, true_and]
  refine ⟨hx.stands.copies.publish_comm hy.stands.copies fun id hxw hyw => ?_,
    hx.stands.loans.publish_comm hy.stands.loans fun id hxw hyw => ?_,
    hx.stands.entries.publish_comm hy.stands.entries fun id hxw hyw => ?_,
    hx.stands.reservations.publish_comm hy.stands.reservations fun id hxw hyw => ?_,
    hx.stands.fines.publish_comm hy.stands.fines fun id hxw hyw => ?_⟩
  · have hle := hold id (.inl (hx.stands.copies.held id hxw)) (.inl (hy.stands.copies.held id hyw))
    have hxc := (hx.covered.copies id hxw).resolve_right (by omega)
    exact absurd ((hy.covered.copies id hyw).resolve_right (by omega)) (hfree' id hxc)
  · obtain ⟨a, b, ha, hb, hlast, -⟩ := shared hx.stands.loans hy.stands.loans hx.since.loans hy.since.loans hxw hyw
      fun ht ht' => hold id (.inr (.inl ht)) (.inr (.inl ht'))
    have hxc := (Loan.of_lasting hlast).1 ▸ hx.covered.loans id a hxw ha
    exact absurd (hy.covered.loans id b hyw hb) (hfree' _ hxc)
  · obtain ⟨a, b, ha, hb, hlast, -⟩ := shared hx.stands.entries hy.stands.entries hx.since.entries hy.since.entries hxw
      hyw fun ht ht' => hold id (.inr (.inr (.inl ht))) (.inr (.inr (.inl ht')))
    have hab : a = b := hlast
    rw [ha, hb, hab]
  · obtain ⟨a, b, ha, hb, hlast, -⟩ := shared hx.stands.reservations hy.stands.reservations hx.since.reservations
      hy.since.reservations hxw hyw fun ht ht' => hold id (.inr (.inr (.inr (.inl ht)))) (.inr (.inr (.inr (.inl ht'))))
    have hxc := (Reservation.of_lasting hlast).1 ▸ hx.covered.reservations id a hxw ha
    exact absurd (hy.covered.reservations id b hyw hb) (hfree' _ hxc)
  · obtain ⟨-, -, -, -, -, hbase, hbase'⟩ := shared hx.stands.fines hy.stands.fines hx.since.fines hy.since.fines hxw hyw
      fun ht ht' => hold id (.inr (.inr (.inr (.inr ht)))) (.inr (.inr (.inr (.inr ht'))))
    exact absurd (.inr (.inl ⟨id, hx.stands.unsettled id hxw hbase, hy.stands.unsettled id hyw hbase'⟩)) hfree

/-- What the two lead to in one order they lead to in the other. -/
theorem commits_swap (h : s.Abreast j k x y) (hs : Reachable (Rules.desk policy) s)
    (hl : s.ledger.commit x.draft = .ok l) (hl' : l.commit y.draft = .ok l') :
    ∃ l₁, s.ledger.commit y.draft = .ok l₁ ∧ l₁.commit x.draft = .ok l' := by
  obtain ⟨hxown, hyown, hfree⟩ := (h.both_commit_iff hs).1 ⟨l, l', hl, hl'⟩
  obtain ⟨l₁, l₂, hl₁, hl₂⟩ := (h.symm.both_commit_iff hs).2 ⟨hyown, hxown, fun hi => hfree hi.symm⟩
  refine ⟨l₁, hl₁, ?_⟩
  obtain ⟨-, rfl⟩ := Ledger.commit_eq_ok_iff.1 hl
  obtain ⟨-, rfl⟩ := Ledger.commit_eq_ok_iff.1 hl'
  obtain ⟨-, rfl⟩ := Ledger.commit_eq_ok_iff.1 hl₁
  obtain ⟨-, hl₂'⟩ := Ledger.commit_eq_ok_iff.1 hl₂
  rw [hl₂, hl₂']
  congr 2
  · exact h.publishAll_comm hs hfree s.ledger.tables
  · exact Ledger.bump_comm y.draft.locked.ids_nodup x.draft.locked.ids_nodup s.ledger.versions

end Traffic.Abreast

/-- Of two transactions since neither of which began anything was committed it does not matter which is committed first: both
commits go through in the one order when they do in the other, and lead to the same tables and versions. -/
theorem commit_order_irrelevant {policy : Policy} {s : Traffic} {j k : Nat} {x y : Transaction}
    (hs : Reachable (Rules.desk policy) s) (h : s.Abreast j k x y) (l' : Ledger) :
    (∃ l, s.ledger.commit x.draft = .ok l ∧ l.commit y.draft = .ok l') ↔
      ∃ l, s.ledger.commit y.draft = .ok l ∧ l.commit x.draft = .ok l' :=
  ⟨fun ⟨_, hl, hl'⟩ => h.commits_swap hs hl hl', fun ⟨_, hl, hl'⟩ => h.symm.commits_swap hs hl hl'⟩

/-- A desk where two transactions have begun on the same ledger: one lent a copy to one user, the other held another copy
for another. -/
def sideBySide : Traffic :=
  let s : Traffic := { clock := .epoch }
  let s := ((s.act (.addBook "Emma")).act (.addUser "ann")).act (.addUser "ben")
  let s := ((s.act (.begin 0)).serve 0 (Operation.procedure {} (.addCopies 1 2))).act (.commit 0)
  let s := (s.act (.begin 0)).act (.begin 1)
  (s.serve 0 (Operation.procedure {} (.borrow 4 2))).serve 1 (Operation.procedure {} (.reserve 5 3))

theorem sideBySide_reachable : Reachable (Rules.desk {}) sideBySide := by
  have start : Reachable (Rules.desk {}) { clock := .epoch } := .start .epoch trivial
  have users := ((start.act (.addBook "Emma") trivial).act (.addUser "ann") trivial).act (.addUser "ben") trivial
  have copies := ((users.act (.begin 0) trivial).perform 0 (.addCopies 1 2) False.elim).commit 0 False.elim
  have begun := (copies.act (.begin 0) trivial).act (.begin 1) trivial
  exact (begun.perform 0 (.borrow 4 2) False.elim).perform 1 (.reserve 5 3) False.elim

/-- The transaction that lent a copy. -/
def lending : Transaction :=
  (sideBySide.opened 0).get (by decide +kernel)

/-- The transaction that held one. -/
def holding : Transaction :=
  (sideBySide.opened 1).get (by decide +kernel)

/-- The two may be committed in either order, with the same outcome. -/
theorem sideBySide_swap : sideBySide.Abreast 0 1 lending holding ∧ ∃ l',
    (∃ l, sideBySide.ledger.commit lending.draft = .ok l ∧ l.commit holding.draft = .ok l') ∧
    ∃ l, sideBySide.ledger.commit holding.draft = .ok l ∧ l.commit lending.draft = .ok l' := by
  have abreast : sideBySide.Abreast 0 1 lending holding :=
    ⟨by decide, (Option.some_get _).symm, (Option.some_get _).symm, Option.isNone_iff_eq_none.1 (by decide +kernel),
      Option.isNone_iff_eq_none.1 (by decide +kernel), by decide +kernel, by decide +kernel⟩
  have hok : ((sideBySide.ledger.commit lending.draft).bind (·.commit holding.draft)).isOk = true := by decide +kernel
  cases hl : sideBySide.ledger.commit lending.draft with
  | error why => simp [hl, Except.bind, Except.isOk, Except.toBool] at hok
  | ok l =>
    cases hl' : l.commit holding.draft with
    | error why => simp [hl, hl', Except.bind, Except.isOk, Except.toBool] at hok
    | ok l' =>
      have both : ∃ l, sideBySide.ledger.commit lending.draft = .ok l ∧ l.commit holding.draft = .ok l' := ⟨l, hl, hl'⟩
      exact ⟨abreast, l', hl ▸ both, (commit_order_irrelevant sideBySide_reachable abreast l').1 both⟩

end Circulation
