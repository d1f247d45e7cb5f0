import Circulation.Proofs.Amid
import Circulation.Proofs.Agreement
import Circulation.Proofs.Logbook

/-!
# Refusals

An operation that is refused leaves no trace. Its transaction has the rows, the notes of what it wrote, changed and settled,
and the last id that it had before, whatever the others did meanwhile; one more copy may be locked. So what is committed in
the end is what would have been committed if the operation had never been called (`refusal_leaves_no_trace`). The first part is
what the operations ensure; that no id was taken follows from it, since a row under a new id would still be there. The last
part compares two runs, step by step: drafts that differ in locks alone are answered alike, and the fewer locks the less can
stand against a commit.
-/

namespace Circulation

/-! ## Drafts that differ in locks -/

/-- Whether a draft is another one with some more copies locked, all at the version that was seen. -/
def Draft.MoreLocked (d d' : Draft) : Prop :=
  ∃ locked : Table Nat, d' = { d with locked := locked } ∧ (∀ i v, d.locked.get? i = some v → locked.get? i = some v) ∧
    ∀ i v, locked.get? i = some v → d.locked.get? i = none → v = (d.versions.get? i).getD 0

namespace Draft.MoreLocked

variable {d d' : Draft}

theorem refl (d : Draft) : d.MoreLocked d :=
  ⟨d.locked, rfl, fun _ _ h => h, fun _ _ h h' => nomatch h.symm.trans h'⟩

/-- A lock makes one more copy locked. -/
theorem of_lock (d : Draft) (c : Int) : d.MoreLocked (d.lock c) := by
  refine ⟨_, rfl, fun i v h => ?_, fun i v h h' => ?_⟩
  · rw [Table.get?_insertNew_getD]
    split
    · rename_i hi
      rw [← hi, h]
      rfl
    · exact h
  · rw [Table.get?_insertNew_getD] at h
    split at h
    · rename_i hi
      rw [← hi, h'] at h
      exact (Option.some.inj h).symm
    · cases h.symm.trans h'

/-- A copy that both lock is locked at one version. -/
theorem lock (h : d.MoreLocked d') (c : Int) : (d.lock c).MoreLocked (d'.lock c) := by
  obtain ⟨locked, rfl, hkept, hseen⟩ := h
  refine ⟨locked.insertNew c ((d.versions.get? c).getD 0), rfl, fun i v hv => ?_, fun i v hv hnone => ?_⟩
  · simp only [Draft.lock, Table.get?_insertNew_getD] at hv ⊢
    split
    · rename_i hi
      rw [if_pos hi] at hv
      cases hd : d.locked.get? c with
      | some u =>
        rw [hkept c u hd]
        rw [hd] at hv
        exact hv
      | none =>
        rw [hd] at hv
        cases hl : locked.get? c with
        | none => exact hv
        | some u =>
          rw [hseen c u hl hd]
          exact hv
    · rename_i hi
      rw [if_neg hi] at hv
      exact hkept i v hv
  · simp only [Draft.lock, Table.get?_insertNew_getD] at hv hnone
    split at hnone
    · cases hnone
    · rename_i hi
      rw [if_neg hi] at hv
      exact hseen i v hv hnone

/-- Drafts that differ in locks are answered alike, and differ in locks then. -/
theorem answer (h : d.MoreLocked d') (q : Request) (n : Int) :
    (Work.answer q ⟨d', n, 0⟩).1 = (Work.answer q ⟨d, n, 0⟩).1 ∧
      (Work.answer q ⟨d', n, 0⟩).2.lastId = (Work.answer q ⟨d, n, 0⟩).2.lastId ∧
      (Work.answer q ⟨d, n, 0⟩).2.draft.MoreLocked (Work.answer q ⟨d', n, 0⟩).2.draft := by
  have hlock := h.lock
  obtain ⟨locked, rfl, hkept, hseen⟩ := h
  have same (w : Draft) (hw : w.locked = d.locked) (hv : w.versions = d.versions) :
      w.MoreLocked { w with locked := locked } :=
    ⟨locked, rfl, hw ▸ hkept, by rw [hw, hv]; exact hseen⟩
  cases q with
  | lockCopy id =>
    simp only [Work.answer, liveCopy?]
    split
    · exact ⟨rfl, rfl, hlock id⟩
    · exact ⟨rfl, rfl, same d rfl rfl⟩
  | insertCopy | outstandingTotal =>
    simp only [Work.answer]
    split
    · exact ⟨rfl, rfl, same _ rfl rfl⟩
    · exact ⟨rfl, rfl, same _ rfl rfl⟩
  | moveCopy | withdrawCopy | updateLoan | moveReservation | settleFine =>
    simp only [Work.answer, Work.write, moveCopy, withdrawCopy, changeCopy, updateLoan, moveReservation, settleFine]
    split
    · split
      · exact ⟨rfl, trivial, same _ rfl rfl⟩
      · exact ⟨rfl, trivial, same _ rfl rfl⟩
    · exact ⟨rfl, trivial, same _ rfl rfl⟩
  | _ => exact ⟨rfl, rfl, same _ rfl rfl⟩

/-- What may be committed with more copies locked may be committed with fewer, and publishes the same rows. -/
theorem commit (h : d.MoreLocked d') {l l' : Ledger} (hc : l.commit d' = .ok l') :
    ∃ l₀, l.commit d = .ok l₀ ∧ l₀.tables = l'.tables := by
  obtain ⟨locked, rfl, hkept, -⟩ := h
  obtain ⟨hclear, rfl⟩ := Ledger.commit_eq_ok_iff.1 hc
  have hclear' : l.Clear d := ⟨fun i v hv => hclear.locked i v (hkept i v hv), hclear.guards, hclear.settled, hclear.pending⟩
  exact ⟨_, Ledger.commit_eq_ok_iff.2 ⟨hclear', rfl⟩, rfl⟩

end Draft.MoreLocked

/-! ## Two runs -/

/-- Whether a transaction is at the same procedure as another one, on its draft with some more copies locked. -/
structure Transaction.MoreLocked (x y : Transaction) : Prop where
  doing : y.doing = x.doing
  draft : x.draft.MoreLocked y.draft

/-- Whether a state is another one but for the transaction under a number, which has some more copies locked. -/
def Traffic.Beside (k : Nat) (s t : Traffic) : Prop :=
  ∃ o, t = s.place k o ∧ Option.Rel Transaction.MoreLocked (s.opened k) o

namespace Traffic.Beside

variable {s t : Traffic} {k : Nat} {x y : Transaction} {o o' : Option Transaction}

/-- States are beside one another that keep a transaction and one with some more copies locked. -/
theorem keep (s : Traffic) (h : x.MoreLocked y) : (s.keep k x).Beside k ((s.place k o).keep k y) := by
  refine ⟨some y, (place_place o (some y)).trans (place_place (some x) (some y)).symm, ?_⟩
  rw [keep_self]
  exact .some h

/-- States that drop the transaction are beside one another. -/
theorem drop (s : Traffic) (k : Nat) : (s.drop k).Beside k ((s.place k o).drop k) := by
  refine ⟨none, (place_place o none).trans (place_place none none).symm, ?_⟩
  rw [drop_opened, if_pos rfl]
  exact .none

/-- One step of each of two transactions at the same procedure. -/
theorem advance (hx : s.opened k = some x) (h : x.MoreLocked y) :
    (s.advance k x).Beside k ((s.place k (some y)).advance k y) := by
  unfold Traffic.advance
  rw [h.doing]
  cases x.doing with
  | none => exact ⟨some y, rfl, by rw [hx]; exact .some h⟩
  | some p =>
    cases p with
    | done loans => exact keep s ⟨rfl, h.draft⟩
    | clock next => exact keep s ⟨rfl, h.draft⟩
    | stop why =>
      cases why with
      | refused why => exact keep s ⟨rfl, h.draft⟩
      | overflowed what => exact drop s k
    | ask q next =>
      obtain ⟨hresult, hlast, hmore⟩ := h.draft.answer q s.ledger.lastId
      simp only [place_ledger]
      generalize Work.answer q ⟨y.draft, s.ledger.lastId, 0⟩ = answered at *
      obtain ⟨result, w⟩ := answered
      generalize Work.answer q ⟨x.draft, s.ledger.lastId, 0⟩ = answered at *
      obtain ⟨result', w'⟩ := answered
      simp only at hresult hlast hmore
      subst hresult
      cases result with
      | ok a =>
        simp only [hlast]
        exact keep (s.taking w'.lastId) ⟨rfl, hmore⟩
      | error why =>
        simp only [hlast]
        exact keep (s.taking w'.lastId) ⟨rfl, hmore⟩

/-- An action that does nothing where no transaction is open is looked at where one is open in both. -/
theorem of_opened (hown : Option.Rel Transaction.MoreLocked (s.opened k) o) {a : Action}
    (hnone : ∀ r : Traffic, r.opened k = none → r.act a = r)
    (hsome : ∀ x y, s.opened k = some x → x.MoreLocked y → (s.act a).Beside k ((s.place k (some y)).act a)) :
    (s.act a).Beside k ((s.place k o).act a) := by
  cases hx : s.opened k with
  | none =>
    rw [hx] at hown
    cases hown
    rw [hnone s hx, hnone (s.place k none) (place_opened none)]
    exact ⟨none, rfl, by rw [hx]; exact .none⟩
  | some x =>
    rw [hx] at hown
    cases hown with
    | some h => exact hsome x _ hx h

/-- Two states that are beside each other stay so, whatever is done in both, until the transaction is to be committed. -/
theorem act (h : s.Beside k t) {a : Action} (ha : a ≠ .commit k) : (s.act a).Beside k (t.act a) := by
  obtain ⟨o, rfl, hown⟩ := h
  by_cases hk : a.number? = some k
  · cases a with
    | addBook | addUser | setClock => nomatch hk
    | begin j =>
      cases hk
      exact keep s ⟨rfl, .refl _⟩
    | call j p =>
      cases hk
      refine of_opened hown (fun r hr => by simp only [Traffic.act, hr]) ?_
      intro x y hx h
      simp only [Traffic.act, place_opened, hx, h.doing]
      split
      · exact keep s ⟨rfl, h.draft⟩
      · exact ⟨some y, rfl, by rw [hx]; exact .some h⟩
    | advance j =>
      cases hk
      refine of_opened hown (fun r hr => by simp only [Traffic.act, hr]) ?_
      intro x y hx h
      simp only [Traffic.act, place_opened, hx]
      exact advance hx h
    | commit j => exact absurd (congrArg Action.commit (Option.some.inj hk)) ha
    | rollback j =>
      cases hk
      exact drop s k
  · rw [act_place hk]
    exact ⟨o, rfl, by rwa [act_opened hk]⟩

/-- Actions keep states beside one another, unless the transaction is committed. -/
theorem acts (h : s.Beside k t) {as : List Action} (has : ∀ a ∈ as, a ≠ .commit k) :
    (as.foldl Traffic.act s).Beside k (as.foldl Traffic.act t) := by
  induction as generalizing s t with
  | nil => exact h
  | cons a as ih => exact ih (h.act (has a List.mem_cons_self)) fun b hb => has b (List.mem_cons_of_mem a hb)

end Traffic.Beside

/-! ## A transaction at one procedure -/

/-- The refusal that a transaction is about to end its procedure with. -/
def Transaction.refusal? (x : Transaction) : Option Refusal :=
  match x.doing with
  | some (.stop (.refused why)) => some why
  | _ => none

/-- A transaction is about to be refused when a refusal is all that is left of its procedure. -/
theorem Transaction.refusal?_eq_some_iff {x : Transaction} {why : Refusal} :
    x.refusal? = some why ↔ x.doing = some (.stop (.refused why)) := by
  unfold refusal?
  split
  · rename_i why' hd
    simp [hd]
  · rename_i hd
    simp only [reduceCtorEq, false_iff]
    exact hd why

namespace Traffic

variable {s t : Traffic} {k : Nat} {x x' : Transaction} {as : List Action}

/-- What holds of a transaction, and is kept by its own steps and by what others do, holds after any number of these. -/
theorem foldl_keeps {P : Traffic → Transaction → Prop}
    (own : ∀ s x x', s.Sound → s.opened k = some x → (s.act (.advance k)).opened k = some x' → P s x →
      P (s.act (.advance k)) x')
    (other : ∀ s a x, a.number? ≠ some k → P s x → P (s.act a) x)
    (hown : ∀ a ∈ as, a.number? = some k → a = .advance k) (hs : s.Sound) (h : ∀ x, s.opened k = some x → P s x)
    (hx' : (as.foldl act s).opened k = some x') : P (as.foldl act s) x' := by
  induction as generalizing s with
  | nil => exact h x' hx'
  | cons a as ih =>
    refine ih (fun b hb => hown b (List.mem_cons_of_mem a hb)) (hs.act a) (fun y hy => ?_) hx'
    by_cases hk : a.number? = some k
    · obtain rfl := hown a List.mem_cons_self hk
      cases hx : s.opened k with
      | none =>
        simp only [act, hx] at hy
        cases hy
      | some x => exact own s x y hs hx hy (h x hx)
    · rw [act_opened hk] at hy
      exact other s a y hk (h y hy)

/-- A draft grows by the steps of its transaction. -/
theorem grows_foldl (hown : ∀ a ∈ as, a.number? = some k → a = .advance k) (hs : s.Sound) (hx : s.opened k = some x)
    (hx' : (as.foldl act s).opened k = some x') : x.draft.Grows x'.draft := by
  refine foldl_keeps (P := fun _ y => x.draft.Grows y.draft) (fun s y y' hs hy hy' h => ?_) (fun _ _ _ _ h => h) hown hs
    (fun y hy => ?_) hx'
  · obtain ⟨-, n, -, hdid⟩ := (turns_advance hy hy').did (Int.le_refl _)
    exact h.trans (hdid.grows (hs.opened k y hy).stands)
  · cases hx.symm.trans hy
    exact .refl _

end Traffic

/-- Within no rules a moment is later when no id was taken back. -/
theorem Rules.later_anything {m m' : Moment} (h : m.lastId ≤ m'.lastId) : Rules.anything.Later m m' :=
  ⟨h, trivial, False.elim⟩

/-- Whether what is left of the procedure that a transaction is at leaves a draft as a condition says if it is refused. -/
def Transaction.Leaves (R : Draft → Prop) (s : Traffic) (x : Transaction) : Prop :=
  ∀ p, x.doing = some p → ∃ m : Moment, m.lastId ≤ s.ledger.lastId ∧
    p.Ensures Rules.anything (fun _ _ _ => True) (fun d _ => R d) x.draft m

namespace Transaction.Leaves

variable {R : Draft → Prop} {s : Traffic} {k : Nat} {x x' : Transaction}

/-- A step of a transaction leads to what is left of its procedure then. -/
theorem advance (hx : s.opened k = some x) (hx' : (s.act (.advance k)).opened k = some x') (h : x.Leaves R s) :
    x'.Leaves R (s.act (.advance k)) := by
  have hle := s.lastId_le_act (.advance k)
  have hturns := Traffic.turns_advance hx hx'
  generalize (x.next? s).toList = ds at hturns
  intro p hp
  cases hturns with
  | kept =>
    obtain ⟨m, hm, hensures⟩ := h p hp
    exact ⟨m, Int.le_trans hm hle, hensures⟩
  | called ha => nomatch ha
  | ended | refused => nomatch hp
  | read hd =>
    cases hp
    obtain ⟨m, hm, hensures⟩ := h _ hd
    exact ⟨s.moment, hle, hensures s.moment (Rules.later_anything hm)⟩
  | answered hd hw hlast =>
    cases hp
    obtain ⟨m, hm, hensures⟩ := h _ hd
    have hnext := hensures s.moment (Rules.later_anything hm)
    simp only [Traffic.moment, hw] at hnext
    exact ⟨_, hlast, hnext⟩
  | unanswered hd hw hlast =>
    cases hp
    obtain ⟨m, hm, hensures⟩ := h _ hd
    have hnext := hensures s.moment (Rules.later_anything hm)
    simp only [Traffic.moment, hw] at hnext
    exact ⟨_, hlast, hnext⟩

/-- A transaction that is about to be refused has the draft that its procedure leaves. -/
theorem refused (h : x.Leaves R s) {why : Refusal} (hwhy : x.refusal? = some why) : R x.draft := by
  obtain ⟨m, -, hensures⟩ := h _ (refusal?_eq_some_iff.1 hwhy)
  exact hensures

end Transaction.Leaves

/-! ## An operation that is refused -/

/-- Whether a draft is as another one, but for one more copy that is locked at most. -/
structure Draft.Spared (d d' : Draft) : Prop where
  tables : d'.tables = d.tables
  written : d'.written = d.written
  guards : d'.guards = d.guards
  settled : d'.settled = d.settled
  versions : d'.versions = d.versions
  locked : d'.locked = d.locked ∨ ∃ c, d'.locked = (d.lock c).locked

namespace Draft.Spared

variable {d d' : Draft}

theorem refl (d : Draft) : d.Spared d :=
  ⟨rfl, rfl, rfl, rfl, rfl, .inl rfl⟩

/-- A draft is spared but for the lock on a copy. -/
theorem lock (d : Draft) (c : Int) : d.Spared (d.lock c) :=
  ⟨rfl, rfl, rfl, rfl, rfl, .inr ⟨c, rfl⟩⟩

/-- A draft that is spared has at most more copies locked. -/
theorem moreLocked (h : d.Spared d') : d.MoreLocked d' := by
  have hd : d' = { d with locked := d'.locked } := by
    cases d'
    simp only [mk.injEq, true_and]
    exact ⟨h.tables, h.versions, h.guards, h.settled, h.written⟩
  rcases h.locked with hl | ⟨c, hl⟩
  · rw [hd, hl]
    exact .refl d
  · rw [hd, hl]
    exact .of_lock d c

end Draft.Spared

/-- A change that takes an id leaves a row under it. -/
theorem Draft.Change.holds_new {d d' : Draft} {n n' : Int} (h : d.Change n d' n') : n' = n ∨ d'.tables.Holds n' := by
  cases h with
  | newCopy | newLoan | newEntry | newReservation | newFine =>
    right
    simp [Tables.Holds, putCopy, putLoan, putEntry, putReservation, putFine]
  | _ => exact .inl rfl

namespace Traffic

variable {s t : Traffic} {k : Nat} {x x' : Transaction} {as : List Action}

/-- A step takes no id when no row is left under a new one. -/
theorem ledger_act_advance
    (hnone : ∀ x', (s.act (.advance k)).opened k = some x' → ∀ i, s.ledger.lastId < i → ¬x'.draft.tables.Holds i) :
    (s.act (.advance k)).ledger = s.ledger := by
  cases hx : s.opened k with
  | none => simp only [act, hx]
  | some x =>
    have hact : s.act (.advance k) = s.advance k x := by simp only [act, hx]
    rw [hact] at hnone ⊢
    rcases s.advance_cases k x with he | he | ⟨y, n, -, -, hc, he⟩
    · rw [he]
    · rw [he]
      rfl
    · rw [he] at hnone ⊢
      by_cases hn : n = s.ledger.lastId
      · subst hn
        rfl
      · have hlt : s.ledger.lastId < n := Int.lt_iff_le_and_ne.2 ⟨hc.le, Ne.symm hn⟩
        exact absurd (hc.holds_new.resolve_left hn) (hnone y (keep_self _ k y) n hlt)

/-- A step that takes no id touches nothing but the transaction under the number. -/
theorem act_advance_place (h : (s.act (.advance k)).ledger = s.ledger) : ∃ o, s.act (.advance k) = s.place k o := by
  cases hx : s.opened k with
  | none => exact ⟨none, by simp only [act, hx, place_self hx]⟩
  | some x =>
    have hact : s.act (.advance k) = s.advance k x := by simp only [act, hx]
    rw [hact] at h ⊢
    rcases s.advance_cases k x with he | he | ⟨y, n, -, -, -, he⟩
    · exact ⟨some x, by rw [he, ← hx, place_same]⟩
    · exact ⟨none, he⟩
    · rw [he] at h ⊢
      have htaking : s.taking n = s := congrArg (fun l => { s with ledger := l }) h
      exact ⟨some y, by rw [htaking]; rfl⟩

/-- While the steps of a transaction take no ids, the others do as if it took none. -/
theorem foldl_place (hown : ∀ a ∈ as, a.number? = some k → a = .advance k) {o : Option Transaction} (ht : t = s.place k o)
    (hledger : ∀ before after, as = before ++ .advance k :: after →
      ((before.foldl act t).act (.advance k)).ledger = (before.foldl act t).ledger) :
    ∃ o', as.foldl act t = ((as.filter (·.number? ≠ some k)).foldl act s).place k o' := by
  induction as generalizing s t o with
  | nil => exact ⟨o, ht⟩
  | cons a as ih =>
    have hown' : ∀ b ∈ as, b.number? = some k → b = .advance k := fun b hb => hown b (List.mem_cons_of_mem a hb)
    have hledger' : ∀ before after, as = before ++ .advance k :: after →
        ((before.foldl act (t.act a)).act (.advance k)).ledger = (before.foldl act (t.act a)).ledger :=
      fun before after has => hledger (a :: before) after (congrArg (List.cons a) has)
    by_cases hk : a.number? = some k
    · obtain rfl := hown a List.mem_cons_self hk
      obtain ⟨o', ho'⟩ := act_advance_place (hledger [] as rfl)
      rw [List.filter_cons_of_neg (by simp [hk])]
      subst ht
      exact ih hown' (ho'.trans (place_place o o')) hledger'
    · rw [List.filter_cons_of_pos (by simpa using hk)]
      subst ht
      exact ih hown' (act_place hk o) hledger'

end Traffic

/-- Actions that are not about a transaction leave it as it is. -/
theorem Traffic.opened_foldl {s : Traffic} {k : Nat} {as : List Action} (h : ∀ a ∈ as, a.number? ≠ some k) :
    (as.foldl act s).opened k = s.opened k := by
  induction as generalizing s with
  | nil => rfl
  | cons a as ih =>
    have ha := act_opened (s := s) (h a List.mem_cons_self)
    exact (ih fun b hb => h b (List.mem_cons_of_mem a hb)).trans ha

/-- What actions lead to after a transaction is put to a procedure. -/
def Traffic.calling (s : Traffic) (k : Nat) (p : Procedure (List Loan)) (as : List Action) : Traffic :=
  as.foldl Traffic.act (s.act (.call k p))

section

variable {rules : Rules} {policy : Policy} {s : Traffic} {k : Nat} {x x' : Transaction} {as : List Action} {o : Operation}
  {why : Refusal}

/-- A transaction whose operation is about to be refused has the draft it had before, with one more copy locked at most. -/
theorem Reachable.spared (h : Reachable rules s) (hx : s.opened k = some x) (hrest : x.doing = none)
    (hown : ∀ a ∈ as, a.number? = some k → a = .advance k)
    (hx' : (s.calling k (o.procedure policy) as).opened k = some x') (hwhy : x'.refusal? = some why) :
    x.draft.Spared x'.draft := by
  have hcall : s.act (.call k (o.procedure policy)) = s.keep k { x with doing := some (o.procedure policy) } := by
    simp only [Traffic.act, hx, hrest, Option.isNone_none, if_true]
  have hgoes : (o.procedure policy).Ensures Rules.anything
      (fun loans d m => loans = [] ∧ Moves Rules.anything policy x.draft s.moment d m) (fun d _ => x.draft.Spared d) x.draft
      s.moment :=
    o.goes (h.sound.opened k x hx).stands ⟨.refl _, fun _ _ => .refl _, fun c _ _ _ => .lock _ c.id⟩
  have hleaves : x'.Leaves x.draft.Spared (s.calling k (o.procedure policy) as) := by
    refine Traffic.foldl_keeps (P := fun s x => x.Leaves _ s) (fun s x x' _ hx hx' h => h.advance hx hx')
      (fun s a x _ h p hp => ?_) hown (h.sound.act _) (fun y hy p hp => ?_) hx'
    · obtain ⟨m, hm, hensures⟩ := h p hp
      exact ⟨m, Int.le_trans hm (s.lastId_le_act a), hensures⟩
    · rw [hcall, Traffic.keep_self] at hy
      cases hy
      cases hp
      exact ⟨s.moment, s.lastId_le_act _, hgoes.mono (fun _ _ _ _ => trivial) fun _ _ h => h⟩
  exact hleaves.refused hwhy

/-- No step of an operation that is refused takes an id. -/
theorem Reachable.ledger_of_refused (h : Reachable rules s) (hx : s.opened k = some x) (hrest : x.doing = none)
    (hown : ∀ a ∈ as, a.number? = some k → a = .advance k)
    (hx' : (s.calling k (o.procedure policy) as).opened k = some x') (hwhy : x'.refusal? = some why)
    {before after : List Action} (has : as = before ++ .advance k :: after) :
    ((s.calling k (o.procedure policy) before).act (.advance k)).ledger =
      (s.calling k (o.procedure policy) before).ledger := by
  have hspared := h.spared hx hrest hown hx' hwhy
  refine Traffic.ledger_act_advance fun y hy i hi hholds => ?_
  -- A row under a new id would still be there in the end, but the transaction then has the rows it had before.
  have hsound : ((s.calling k (o.procedure policy) before).act (.advance k)).Sound := ((h.sound.act _).acts before).act _
  have hrun : s.calling k (o.procedure policy) as =
      after.foldl Traffic.act ((s.calling k (o.procedure policy) before).act (.advance k)) := by
    rw [has, Traffic.calling, List.foldl_append, List.foldl_cons]
    rfl
  have hafter : ∀ a ∈ after, a.number? = some k → a = .advance k := by
    intro a ha
    exact hown a (by rw [has]; exact List.mem_append_right _ (List.mem_cons_of_mem _ ha))
  have hgrows := Traffic.grows_foldl hafter hsound hy (hrun ▸ hx')
  have hle : i ≤ s.ledger.lastId := by
    refine (h.sound.opened k x hx).stands.le_of_holds ?_
    rw [← hspared.tables]
    exact hgrows.holds i hholds
  have hlast : s.ledger.lastId ≤ (s.calling k (o.procedure policy) before).ledger.lastId :=
    Int.le_trans (s.lastId_le_act _) (Traffic.lastId_le_acts _ before)
  omega

/-- After an operation that is refused, the traffic is as if it had not been called, but for one more copy that is locked. -/
theorem Reachable.beside_of_refused (h : Reachable rules s) (hx : s.opened k = some x) (hrest : x.doing = none)
    (hown : ∀ a ∈ as, a.number? = some k → a = .advance k)
    (hx' : (s.calling k (o.procedure policy) as).opened k = some x') (hwhy : x'.refusal? = some why) :
    ((as.filter (·.number? ≠ some k)).foldl Traffic.act s).Beside k
      ((s.calling k (o.procedure policy) as).act (.advance k)) := by
  have hcall : s.act (.call k (o.procedure policy)) = s.place k (some { x with doing := some (o.procedure policy) }) := by
    simp only [Traffic.act, hx, hrest, Option.isNone_none, if_true]
    rfl
  obtain ⟨o', ho'⟩ := Traffic.foldl_place hown hcall fun before after has => h.ledger_of_refused hx hrest hown hx' hwhy has
  have hx₀ : ((as.filter (·.number? ≠ some k)).foldl Traffic.act s).opened k = some x := by
    rw [Traffic.opened_foldl fun a ha => by simpa using (List.mem_filter.1 ha).2, hx]
  have hstop := Transaction.refusal?_eq_some_iff.1 hwhy
  have hend : (s.calling k (o.procedure policy) as).act (.advance k) =
      (s.calling k (o.procedure policy) as).keep k { x' with doing := none, refused := true } := by
    simp only [Traffic.act, hx', Traffic.advance, hstop]
  refine ⟨some { x' with doing := none, refused := true }, ?_, ?_⟩
  · rw [hend, Traffic.calling, ho']
    exact Traffic.place_place o' _
  · rw [hx₀]
    exact .some ⟨hrest.symm, (h.spared hx hrest hown hx' hwhy).moreLocked⟩

/-- A desk operation that is refused leaves no trace in its transaction, whatever the others do meanwhile. The rows of the
transaction, its notes of what it wrote and settled and its loan guards are as they were, no step of the operation took an id,
and one more copy is locked at most. Whatever is done from then on, a commit of the transaction that goes through publishes what
it publishes in the traffic where the operation was never called and all the rest was done. -/
theorem refusal_leaves_no_trace (h : Reachable rules s) (hx : s.opened k = some x) (hrest : x.doing = none)
    (hown : ∀ a ∈ as, a.number? = some k → a = .advance k)
    (hx' : (s.calling k (o.procedure policy) as).opened k = some x') (hwhy : x'.refusal? = some why) :
    x.draft.Spared x'.draft ∧
      (∀ before after, as = before ++ .advance k :: after →
        ((s.calling k (o.procedure policy) before).act (.advance k)).ledger =
          (s.calling k (o.procedure policy) before).ledger) ∧
      ∀ (bs : List Action) (y : Transaction) (l : Ledger), (∀ b ∈ bs, b ≠ .commit k) →
        let refused := bs.foldl Traffic.act ((s.calling k (o.procedure policy) as).act (.advance k))
        let uncalled := bs.foldl Traffic.act ((as.filter (·.number? ≠ some k)).foldl Traffic.act s)
        refused.opened k = some y → y.doing = none → refused.ledger.commit y.draft = .ok l →
          ∃ z l₀, uncalled.opened k = some z ∧ z.doing = none ∧ uncalled.ledger.commit z.draft = .ok l₀ ∧
            l₀.tables = l.tables := by
  refine ⟨h.spared hx hrest hown hx' hwhy, fun before after has => h.ledger_of_refused hx hrest hown hx' hwhy has, ?_⟩
  intro bs y l hbs refused uncalled hy hd hc
  obtain ⟨o', ho', hrel⟩ : uncalled.Beside k refused := (h.beside_of_refused hx hrest hown hx' hwhy).acts hbs
  rw [ho', Traffic.place_opened] at hy
  rw [ho', Traffic.place_ledger] at hc
  subst hy
  generalize uncalled.opened k = found at hrel ⊢
  cases hrel with
  | some hmore =>
    obtain ⟨l₀, hl₀, htables⟩ := hmore.draft.commit hc
    exact ⟨_, l₀, rfl, hmore.doing.symm.trans hd, hl₀, htables⟩

end

/-- What happens while a transaction is refused a copy that is out: it takes its three steps, a title is added and another
transaction begins. -/
def amidRefusal : List Action :=
  [.advance 1, .addBook "Persuasion", .advance 1, .begin 2, .advance 1]

/-- The desk where a copy that is out was asked for, and the refusal is about to be reported. -/
def refusing : Traffic :=
  lentAndHeld.calling 1 ((Operation.borrow 4 3).procedure {}) amidRefusal

/-- The desk where the same was done by the others. -/
def notAsked : Traffic :=
  ([.addBook "Persuasion", .begin 2] : List Action).foldl Traffic.act lentAndHeld

/-- The refused transaction keeps its draft but for one lock, and commits what it commits without the call. -/
theorem refusing_traceless : ∃ x x' y z l l₀, lentAndHeld.opened 1 = some x ∧ refusing.opened 1 = some x' ∧
    x'.refusal? = some (.invalidState .alreadyOnLoan) ∧ x.draft.locked.ids = [5] ∧ x'.draft.locked.ids = [4, 5] ∧
    x.draft.Spared x'.draft ∧ (refusing.act (.advance 1)).opened 1 = some y ∧
    (refusing.act (.advance 1)).ledger.commit y.draft = .ok l ∧ notAsked.opened 1 = some z ∧
    notAsked.ledger.commit z.draft = .ok l₀ ∧ l₀.tables = l.tables := by
  obtain ⟨x, hx⟩ := Option.isSome_iff_exists.1 (show (lentAndHeld.opened 1).isSome = true by decide +kernel)
  have hrest : (lentAndHeld.opened 1).all (·.doing.isNone) = true := by decide +kernel
  have hlocked : (lentAndHeld.opened 1).map (·.draft.locked.ids) = some [5] := by decide +kernel
  have hasked : (refusing.opened 1).bind (·.refusal?) = some (.invalidState .alreadyOnLoan) := by decide +kernel
  have hasked' : (refusing.opened 1).map (·.draft.locked.ids) = some [4, 5] := by decide +kernel
  obtain ⟨x', hx', hwhy⟩ := Option.bind_eq_some_iff.1 hasked
  obtain ⟨y, hy⟩ :=
    Option.isSome_iff_exists.1 (show ((refusing.act (.advance 1)).opened 1).isSome = true by decide +kernel)
  have hrest' : ((refusing.act (.advance 1)).opened 1).all (·.doing.isNone) = true := by decide +kernel
  have hcommit : ((refusing.act (.advance 1)).opened 1).all
      (fun y => ((refusing.act (.advance 1)).ledger.commit y.draft).isOk) = true := by decide +kernel
  simp only [hx, Option.all_some, Option.map_some, Option.isNone_iff_eq_none, Option.some.injEq] at hrest hlocked
  simp only [hx', Option.map_some, Option.some.injEq] at hasked'
  simp only [hy, Option.all_some, Option.isNone_iff_eq_none] at hrest' hcommit
  cases hl : (refusing.act (.advance 1)).ledger.commit y.draft with
  | error why => simp [hl, Except.isOk, Except.toBool] at hcommit
  | ok l =>
    have hown : ∀ a ∈ amidRefusal, a.number? = some 1 → a = .advance 1 := by simp [amidRefusal, Action.number?]
    have traceless := refusal_leaves_no_trace lentAndHeld_reachable (k := 1) (o := .borrow 4 3) hx hrest hown hx' hwhy
    have hothers : amidRefusal.filter (·.number? ≠ some 1) = [.addBook "Persuasion", .begin 2] := rfl
    have published := traceless.2.2 [] y l (fun b hb => nomatch hb)
    simp only [hothers, List.foldl_nil, ← notAsked.eq_def] at published
    obtain ⟨z, l₀, hz, -, hl₀, htables⟩ := published hy hrest' hl
    exact ⟨x, x', y, z, l, l₀, hx, hx', hwhy, hlocked, hasked', traceless.1, hy, hl, hz, hl₀, htables⟩

end Circulation
