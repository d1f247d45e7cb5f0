import Circulation.Proofs.Traffic
import Circulation.Session
import Mathlib.Logic.Equiv.List

/-!
# Sessions are traffic

A session carries out whole procedures, in transactions that it keeps under names or in ones of their own. Statements are
about traffic, where transactions have numbers and take single steps. When no failure is rehearsed, what a session does is
an action or a run of actions of traffic (`Session.RunsAs`), and every session of desk operations has the ledger of traffic
that they lead to (`Session.Unrehearsed.exists_traffic`).
-/

namespace Circulation

/-! ## Nothing rehearsed -/

/-- A procedure runs on a store rehearsed with an empty plan as it runs on the store. -/
theorem Rehearsal.run_store_nil {α σ : Type} (inner : Store σ) (p : Procedure α) (s : σ) (counts : Rehearsal.Counts) :
    ∃ after, p.run (Rehearsal.store [] inner) (s, counts) = ((p.run inner s).1, ((p.run inner s).2, after)) := by
  induction p generalizing s counts with
  | done a => exact ⟨counts, rfl⟩
  | stop why => exact ⟨counts, rfl⟩
  | clock next ih => exact ih _ _ counts
  | ask q next ih =>
    have hanswer : (Rehearsal.store [] inner).answer q (s, counts) =
        ((inner.answer q s).1, ((inner.answer q s).2, counts.add q.name)) := rfl
    simp only [Procedure.run, hanswer]
    cases inner.answer q s with
    | mk r s =>
      cases r with
      | ok a => exact ih a s _
      | error why => exact ⟨_, rfl⟩

namespace Session

variable {α : Type} {s : Session} {t : Traffic} {number : String → Nat} {name : String} {w : OpenWork}

/-- What a procedure does in an open transaction of which no failure is rehearsed. -/
theorem work_eq (hw : w.plan = []) (p : Procedure α) :
    ∃ counts, s.work w p =
      ((p.run (Work.store fun _ => s.clock) ⟨w.draft, s.ledger.lastId, 0⟩).1,
        ({ w with draft := (p.run (Work.store fun _ => s.clock) ⟨w.draft, s.ledger.lastId, 0⟩).2.draft, counts := counts },
          { s with ledger := { s.ledger with
            lastId := (p.run (Work.store fun _ => s.clock) ⟨w.draft, s.ledger.lastId, 0⟩).2.lastId } })) := by
  obtain ⟨counts, hrun⟩ := Rehearsal.run_store_nil (Work.store fun _ => s.clock) p ⟨w.draft, s.ledger.lastId, 0⟩ w.counts
  refine ⟨counts, ?_⟩
  simp only [work, store, hw, hrun]

/-! ## Open transactions by name -/

/-- The first under a name is found, and under any other name what follows. -/
theorem lookup_cons_eq (name other : String) (w : OpenWork) (rest : List (String × OpenWork)) :
    ((name, w) :: rest).lookup other = if other = name then some w else rest.lookup other := by
  by_cases h : other = name
  · simp [h]
  · have hne : (other == name) = false := by simpa using h
    simp [List.lookup_cons, hne, h]

/-- A name that is filtered out is not found, and every other as before. -/
theorem lookup_filter_ne (opened : List (String × OpenWork)) (name other : String) :
    (opened.filter (·.1 ≠ name)).lookup other = if other = name then none else opened.lookup other := by
  induction opened with
  | nil => simp
  | cons e rest ih =>
    obtain ⟨n, w⟩ := e
    rw [List.filter_cons, lookup_cons_eq]
    by_cases hn : n = name
    · subst hn
      simp only [ne_eq, not_true_eq_false, decide_false, Bool.false_eq_true, if_false, ih]
      split
      · rfl
      · rfl
    · simp only [ne_eq, hn, not_false_eq_true, decide_true, if_true, lookup_cons_eq]
      split
      · rename_i ho
        rw [if_neg (ho ▸ hn)]
      · exact ih

/-- A transaction that is dropped is not open, and every other is as before. -/
theorem opened?_drop (s : Session) (name other : String) :
    (s.drop name).opened? other = if other = name then none else s.opened? other :=
  lookup_filter_ne s.opened name other

/-- A transaction that is kept is open under its name, and every other is as before. -/
theorem opened?_keep (s : Session) (name other : String) (w : OpenWork) :
    (s.keep name w).opened? other = if other = name then some w else s.opened? other := by
  rw [opened?, keep, lookup_cons_eq, lookup_filter_ne]
  split
  · rfl
  · rfl

/-- Moving the clock on changes the clock only. -/
theorem advance_eq (s : Session) (d : Span) : (s.advance d).2 = { s with clock := (s.advance d).2.clock } := by
  unfold advance
  split
  · rfl
  · rfl

/-! ## Steps -/

/-- Whether a session runs as traffic that has its ledger and its clock, with its open transactions at rest under their
numbers. -/
structure RunsAs (number : String → Nat) (s : Session) (t : Traffic) : Prop where
  ledger : t.ledger = s.ledger
  clock : t.clock = s.clock
  opened : ∀ name w, s.opened? name = some w → w.plan = [] ∧
    ∃ x, t.opened (number name) = some x ∧ x.draft = w.draft ∧ x.doing = none

namespace RunsAs

theorem start (number : String → Nat) (clock : Instant) :
    RunsAs number { clock := clock } { clock := clock } :=
  ⟨rfl, rfl, fun _ _ h => nomatch h⟩

/-- A title is added by one action. -/
theorem addBook (h : RunsAs number s t) (title : String) :
    RunsAs number (s.addBook title).2 (t.act (.addBook title)) :=
  ⟨by rw [Traffic.act, h.ledger]; rfl, h.clock, h.opened⟩

/-- A user is added by one action. -/
theorem addUser (h : RunsAs number s t) (username : String) :
    RunsAs number (s.addUser username).2 (t.act (.addUser username)) :=
  ⟨by rw [Traffic.act, h.ledger]; rfl, h.clock, h.opened⟩

/-- The clock is set by one action. -/
theorem setClock (h : RunsAs number s t) (clock : Instant) :
    RunsAs number { s with clock := clock } (t.act (.setClock clock)) :=
  ⟨h.ledger, rfl, h.opened⟩

/-- Dropping a transaction is one action, under its number. -/
theorem drop (h : RunsAs number s t) (hinj : number.Injective) (name : String) :
    RunsAs number (s.drop name) (t.act (.rollback (number name))) := by
  refine ⟨h.ledger, h.clock, fun other w hw => ?_⟩
  rw [opened?_drop] at hw
  split at hw
  · cases hw
  · rename_i hne
    simp only [Traffic.act, Traffic.drop_opened, if_neg fun hc => hne (hinj hc)]
    exact h.opened other w hw

/-- Transactions on one draft are kept under a name and its number. -/
theorem keep (h : RunsAs number s t) (hinj : number.Injective) {x : Transaction} (hplan : w.plan = [])
    (hdraft : x.draft = w.draft) (hd : x.doing = none) (name : String) :
    RunsAs number (s.keep name w) (t.keep (number name) x) := by
  refine ⟨h.ledger, h.clock, fun other w' hw => ?_⟩
  rw [opened?_keep] at hw
  split at hw
  · rename_i heq
    cases hw
    exact ⟨hplan, x, by rw [heq, Traffic.keep_self], hdraft, hd⟩
  · rename_i hne
    rw [Traffic.keep_opened, if_neg fun hc => hne (hinj hc)]
    exact h.opened other w' hw

theorem taking (h : RunsAs number s t) (n : Int) :
    RunsAs number { s with ledger := { s.ledger with lastId := n } } (t.taking n) :=
  ⟨by rw [Traffic.taking, h.ledger], h.clock, h.opened⟩

/-- A transaction begins by one action, under its number. -/
theorem begin (h : RunsAs number s t) (hinj : number.Injective) (name : String) :
    RunsAs number (s.keep name (s.begin [])) (t.act (.begin (number name))) :=
  h.keep hinj rfl (congrArg Ledger.draft h.ledger) rfl name

/-- A procedure carried out in an open transaction. -/
theorem workIn (h : RunsAs number s t) (hinj : number.Injective) (hw : s.opened? name = some w)
    (p : Procedure α) : RunsAs number (s.workIn name w p).2 (t.serve (number name) p.quietly) := by
  obtain ⟨hplan, x, hx, hdraft, hd⟩ := h.opened name w hw
  obtain ⟨counts, hwork⟩ := work_eq (s := s) hplan p
  have hserve := Traffic.serve_eq_run p.quietly hx hd
  rw [Procedure.quietly, Procedure.run_bind, hdraft, h.ledger, h.clock] at hserve
  rw [Procedure.quietly, hserve, Session.workIn, hwork]
  cases p.run (Work.store fun _ => s.clock) ⟨w.draft, s.ledger.lastId, 0⟩ with
  | mk r done =>
    cases r with
    | ok a =>
      exact (h.taking done.lastId).keep hinj (w := { w with draft := done.draft, counts := counts })
        (x := { x with draft := done.draft, doing := none, inHand := [] ++ x.inHand }) hplan rfl rfl name
    | error why =>
      cases why with
      | refused why =>
        exact (h.taking done.lastId).keep hinj (w := { w with draft := done.draft, counts := counts })
          (x := { x with draft := done.draft, doing := none, refused := true }) hplan rfl rfl name
      | overflowed what => exact (h.taking done.lastId).drop hinj name

/-- Under a number that no name has, a transaction is none of the session's. -/
theorem beside (h : RunsAs number s t) {k : Nat} (hk : ∀ name, number name ≠ k) {t' : Traffic} {l : Ledger}
    (hl : t'.ledger = l) (hc : t'.clock = t.clock) (ho : ∀ j, j ≠ k → t'.opened j = t.opened j) :
    RunsAs number { s with ledger := l } t' :=
  ⟨hl, hc.trans h.clock, fun name w hw => by rw [ho _ (hk name)]; exact h.opened name w hw⟩

/-- An open transaction that asks to be committed. -/
theorem commit (h : RunsAs number s t) (hinj : number.Injective) (hw : s.opened? name = some w) :
    RunsAs number ((s.commit w).2.drop name) (t.act (.commit (number name))) := by
  obtain ⟨-, x, hx, hdraft, hd⟩ := h.opened name w hw
  have hdrop := h.drop hinj name
  rw [Traffic.act_commit hx hd, Traffic.commit, Session.commit, hdraft, h.ledger]
  cases s.ledger.commit w.draft with
  | ok l => exact ⟨rfl, hdrop.clock, hdrop.opened⟩
  | error why => exact hdrop

/-- A transaction of none of the names that asks to be committed. -/
theorem commit_beside (h : RunsAs number s t) {k : Nat} (hk : ∀ name, number name ≠ k) {x : Transaction}
    (hx : t.opened k = some x) (hd : x.doing = none) (hdraft : x.draft = w.draft) :
    RunsAs number (s.commit w).2 (t.act (.commit k)) := by
  rw [Traffic.act_commit hx hd, Traffic.commit, Session.commit, hdraft, h.ledger]
  cases s.ledger.commit w.draft with
  | ok l => exact h.beside hk rfl rfl fun j hj => if_neg hj
  | error why => exact h.beside hk h.ledger rfl fun j hj => if_neg hj

/-- A procedure carried out in a transaction of its own, which takes a number that no name has. -/
theorem transact (h : RunsAs number s t) {k : Nat} (hk : ∀ name, number name ≠ k) (p : Procedure α) :
    ∃ a, (a = .commit k ∨ a = .rollback k) ∧
      RunsAs number (s.transact [] p).2 (((t.act (.begin k)).serve k p.quietly).act a) := by
  let x : Transaction := { base := t.ledger, began := t.journal.length, draft := t.ledger.draft }
  have hbegin : RunsAs number s (t.keep k x) := h.beside hk h.ledger rfl fun j hj => if_neg hj
  obtain ⟨counts, hwork⟩ := work_eq (s := s) (w := s.begin []) rfl p
  have hserve := Traffic.serve_eq_run p.quietly (Traffic.keep_self t k x) rfl
  have hdraft : x.draft = (s.begin []).draft := congrArg Ledger.draft h.ledger
  rw [Procedure.quietly, Procedure.run_bind, hbegin.clock, hbegin.ledger, hdraft] at hserve
  rw [Session.transact, hwork, show t.act (.begin k) = t.keep k x from rfl, Procedure.quietly, hserve]
  cases p.run (Work.store fun _ => s.clock) ⟨(s.begin []).draft, s.ledger.lastId, 0⟩ with
  | mk r done =>
    have htaking := hbegin.taking done.lastId
    cases r with
    | ok a =>
      let y : Transaction := { x with draft := done.draft, inHand := [] ++ x.inHand }
      have hended : RunsAs number { s with ledger := { s.ledger with lastId := done.lastId } }
          (((t.keep k x).taking done.lastId).keep k y) :=
        htaking.beside hk htaking.ledger rfl fun j hj => if_neg hj
      refine ⟨.commit k, .inl rfl, ?_⟩
      have hcommit := hended.commit_beside hk (w := { draft := done.draft, counts := counts }) (Traffic.keep_self _ k y)
        rfl rfl
      cases hwritten : Session.commit { s with ledger := { s.ledger with lastId := done.lastId } }
          { draft := done.draft, counts := counts } with
      | mk r after =>
        rw [hwritten] at hcommit
        simp only [show (s.begin []).plan = [] from rfl, hwritten]
        cases r with
        | ok u => exact hcommit
        | error why => exact hcommit
    | error why =>
      refine ⟨.rollback k, .inr rfl, ?_⟩
      cases why with
      | refused why => exact htaking.beside hk htaking.ledger rfl fun j hj => (if_neg hj).trans (if_neg hj)
      | overflowed what => exact htaking.beside hk htaking.ledger rfl fun j hj => (if_neg hj).trans (if_neg hj)

/-- A desk operation carried out in a transaction of its own leads where transactions of desk operations lead. -/
theorem exists_transact {policy : Policy} (h : RunsAs number s t) (ht : Reachable (Rules.desk policy) t)
    (hk : ∀ name, number name ≠ 0) {p : Procedure α} {o : Operation} (hp : p.quietly = o.procedure policy) :
    ∃ t', Reachable (Rules.desk policy) t' ∧ RunsAs number (s.transact [] p).2 t' := by
  obtain ⟨a, ha, hruns⟩ := h.transact hk p
  rw [hp] at hruns
  have hserve := (ht.act (.begin 0) trivial).perform 0 o False.elim
  refine ⟨_, ?_, hruns⟩
  rcases ha with rfl | rfl
  · exact hserve.commit 0 False.elim
  · exact hserve.act (.rollback 0) trivial

end RunsAs

/-! ## Whole sessions -/

/-- The sessions that desk operations lead to when no failure is rehearsed. -/
inductive Unrehearsed (policy : Policy) : Session → Prop where
  | start (clock : Instant) : Unrehearsed policy { clock := clock }
  | addBook {s : Session} (title : String) : Unrehearsed policy s → Unrehearsed policy (s.addBook title).2
  | addUser {s : Session} (username : String) : Unrehearsed policy s → Unrehearsed policy (s.addUser username).2
  | setClock {s : Session} (clock : Instant) : Unrehearsed policy s → Unrehearsed policy { s with clock := clock }
  | advance {s : Session} (d : Span) : Unrehearsed policy s → Unrehearsed policy (s.advance d).2
  | begin {s : Session} (name : String) : Unrehearsed policy s → Unrehearsed policy (s.keep name (s.begin []))
  | workIn {s : Session} {name : String} {w : OpenWork} {α : Type} (p : Procedure α) (o : Operation) :
      Unrehearsed policy s → s.opened? name = some w → p.quietly = o.procedure policy →
      Unrehearsed policy (s.workIn name w p).2
  | transact {s : Session} {α : Type} (p : Procedure α) (o : Operation) :
      Unrehearsed policy s → p.quietly = o.procedure policy → Unrehearsed policy (s.transact [] p).2
  | commit {s : Session} {name : String} {w : OpenWork} :
      Unrehearsed policy s → s.opened? name = some w → Unrehearsed policy ((s.commit w).2.drop name)
  | rollback {s : Session} (name : String) : Unrehearsed policy s → Unrehearsed policy (s.drop name)

/-- Names can be numbered from one. -/
theorem exists_numbering : ∃ number : String → Nat, number.Injective ∧ ∀ name, number name ≠ 0 := by
  refine ⟨fun name => Encodable.encode (name.toList.map Char.toNat) + 1, fun a b h => ?_, fun _ => Nat.succ_ne_zero _⟩
  have hcodes : a.toList.map Char.toNat = b.toList.map Char.toNat := Encodable.encode_injective (Nat.succ.inj h)
  exact String.toList_injective (List.map_injective_iff.mpr (fun _ _ => Char.toNat_inj.mp) hcodes)

/-- Every session of desk operations runs as traffic that desk operations lead to. -/
theorem Unrehearsed.reachable {policy : Policy} (h : Unrehearsed policy s) (hinj : number.Injective)
    (hk : ∀ name, number name ≠ 0) : ∃ t, Reachable (Rules.desk policy) t ∧ RunsAs number s t := by
  induction h with
  | start clock => exact ⟨_, .start clock trivial, .start number clock⟩
  | addBook title _ ih =>
    obtain ⟨t, ht, h⟩ := ih
    exact ⟨_, ht.act (.addBook title) trivial, h.addBook title⟩
  | addUser username _ ih =>
    obtain ⟨t, ht, h⟩ := ih
    exact ⟨_, ht.act (.addUser username) trivial, h.addUser username⟩
  | setClock clock _ ih =>
    obtain ⟨t, ht, h⟩ := ih
    exact ⟨_, ht.act (.setClock clock) ⟨trivial, False.elim⟩, h.setClock clock⟩
  | @advance s d _ ih =>
    obtain ⟨t, ht, h⟩ := ih
    rw [advance_eq]
    exact ⟨_, ht.act (.setClock (s.advance d).2.clock) ⟨trivial, False.elim⟩, h.setClock _⟩
  | begin name _ ih =>
    obtain ⟨t, ht, h⟩ := ih
    exact ⟨_, ht.act (.begin (number name)) trivial, h.begin hinj name⟩
  | workIn p o _ hw hp ih =>
    obtain ⟨t, ht, h⟩ := ih
    refine ⟨_, ?_, h.workIn hinj hw p⟩
    rw [hp]
    exact ht.perform _ o False.elim
  | transact p o _ hp ih =>
    obtain ⟨t, ht, h⟩ := ih
    exact h.exists_transact ht hk hp
  | commit _ hw ih =>
    obtain ⟨t, ht, h⟩ := ih
    exact ⟨_, ht.commit _ False.elim, h.commit hinj hw⟩
  | rollback name _ ih =>
    obtain ⟨t, ht, h⟩ := ih
    exact ⟨_, ht.act (.rollback (number name)) trivial, h.drop hinj name⟩

/-- What committed rows are like in all traffic of desk operations, they are like in every session of them. -/
theorem Unrehearsed.exists_traffic {policy : Policy} (h : Unrehearsed policy s) :
    ∃ t, Reachable (Rules.desk policy) t ∧ t.ledger = s.ledger := by
  obtain ⟨number, hinj, hk⟩ := exists_numbering
  obtain ⟨t, ht, hruns⟩ := h.reachable hinj hk
  exact ⟨t, ht, hruns.ledger⟩

end Session

end Circulation
