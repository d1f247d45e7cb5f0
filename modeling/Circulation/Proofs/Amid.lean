import Circulation.Proofs.Bookkeeping
import Circulation.Proofs.Ensures
import Circulation.Source

/-!
# A source amid others

Work that manages its own transactions is seldom alone. `Amid.source` is a ledger as a source of transactions while others
are at theirs: before each clock reading, each beginning, each request and each commit of its own, the others carry out
any actions. It notes which commits were its own and which ledgers they met and left. Its own transaction is none of those
the others see, but to them it is one like any other: under a number that they do not use, every step of it is an action
(`Amid.Led`), so a procedure that is put to it ends as it does in traffic (`Amid.run_led`).
-/

namespace Circulation

/-! ## Actions of others -/

/-- The number of the transaction that an action is about. -/
def Action.number? : Action → Option Nat
  | .begin k | .call k _ | .advance k | .commit k | .rollback k => some k
  | .addBook _ | .addUser _ | .setClock _ => none

namespace Traffic

/-- Has a transaction, or none, under a number. -/
def place (s : Traffic) (k : Nat) (o : Option Transaction) : Traffic :=
  { s with opened := fun j => if j = k then o else s.opened j }

variable {s : Traffic} {j k : Nat}

/-- Having a transaction under a number leaves the ledger as it is. -/
theorem place_ledger (o : Option Transaction) : (s.place k o).ledger = s.ledger := rfl

/-- The transaction is found under its number. -/
theorem place_opened (o : Option Transaction) : (s.place k o).opened k = o :=
  if_pos rfl

/-- Other numbers have what they had. -/
theorem place_opened_ne (h : j ≠ k) (o : Option Transaction) : (s.place k o).opened j = s.opened j :=
  if_neg h

/-- Of two transactions put under a number the last is there. -/
theorem place_place (o o' : Option Transaction) : (s.place k o).place k o' = s.place k o' := by
  simp only [place, mk.injEq, true_and, and_true]
  funext i
  split <;> rfl

/-- Under different numbers it does not matter which is put first. -/
theorem place_comm (h : j ≠ k) (o o' : Option Transaction) : (s.place k o).place j o' = (s.place j o').place k o := by
  simp only [place, mk.injEq, true_and, and_true]
  funext i
  by_cases hi : i = j
  · subst hi
    simp [h]
  · simp [hi]

/-- Putting a transaction where it is changes nothing. -/
theorem place_same (s : Traffic) (k : Nat) : s.place k (s.opened k) = s := by
  cases s
  simp only [place, mk.injEq, true_and, and_true]
  funext i
  split
  · rename_i hi
    rw [hi]
  · rfl

/-- Putting none where there is none changes nothing. -/
theorem place_self (h : s.opened k = none) : s.place k none = s :=
  h ▸ s.place_same k

/-- What is under another number does not matter to a commit. -/
theorem commit_place (h : j ≠ k) (o : Option Transaction) (x : Transaction) :
    (s.place k o).commit j x = (s.commit j x).place k o := by
  have hdrop : (s.place k o).drop j = (s.drop j).place k o := place_comm h o none
  simp only [commit, place_ledger, hdrop]
  cases s.ledger.commit x.draft with
  | ok l => rfl
  | error why => rfl

/-- What is under another number does not matter to a step of a transaction. -/
theorem advance_place (h : j ≠ k) (o : Option Transaction) (x : Transaction) :
    (s.place k o).advance j x = (s.advance j x).place k o := by
  have hkeep (n : Int) (y : Transaction) : ((s.place k o).taking n).keep j y = ((s.taking n).keep j y).place k o :=
    place_comm (s := s.taking n) h o (some y)
  have hdrop : (s.place k o).drop j = (s.drop j).place k o := place_comm h o none
  unfold advance
  cases x.doing with
  | none => rfl
  | some p =>
    cases p with
    | done loans => exact hkeep s.ledger.lastId _
    | clock next => exact hkeep s.ledger.lastId _
    | stop why =>
      cases why with
      | refused why => exact hkeep s.ledger.lastId _
      | overflowed what => exact hdrop
    | ask q next =>
      simp only [place_ledger]
      cases Work.answer q ⟨x.draft, s.ledger.lastId, 0⟩ with
      | mk result w =>
        cases result with
        | ok a => exact hkeep w.lastId _
        | error why => exact hkeep w.lastId _

/-- An action that is not about a transaction takes no notice of it. -/
theorem act_place {a : Action} (h : a.number? ≠ some k) (o : Option Transaction) :
    (s.place k o).act a = (s.act a).place k o := by
  cases a with
  | addBook | addUser | setClock => rfl
  | begin j | rollback j => exact place_comm (fun hj => h (congrArg some hj)) o _
  | call j p =>
    have hj : j ≠ k := fun hj => h (congrArg some hj)
    simp only [act, place_opened_ne hj]
    split
    · split
      · exact place_comm hj o _
      · rfl
    · rfl
  | advance j =>
    have hj : j ≠ k := fun hj => h (congrArg some hj)
    simp only [act, place_opened_ne hj]
    split
    · exact advance_place hj o _
    · rfl
  | commit j =>
    have hj : j ≠ k := fun hj => h (congrArg some hj)
    simp only [act, place_opened_ne hj]
    split
    · split
      · exact commit_place hj o _
      · rfl
    · rfl

/-- An action that is not about a transaction leaves it as it is. -/
theorem act_opened {a : Action} (h : a.number? ≠ some k) : (s.act a).opened k = s.opened k := by
  have hact := act_place (s := s) h (s.opened k)
  rw [place_same] at hact
  rw [hact, place_opened]

/-- Whatever is done, no id is taken back. -/
theorem lastId_le_acts (s : Traffic) (as : List Action) : s.ledger.lastId ≤ (as.foldl act s).ledger.lastId := by
  induction as generalizing s with
  | nil => exact Int.le_refl _
  | cons a as ih => exact Int.le_trans (s.lastId_le_act a) (ih (s.act a))

end Traffic

/-- Whether an action is one of others, who do not use a number, and who put their transactions to desk operations. -/
def Action.OfOthers (policy : Policy) (k : Nat) : Action → Prop
  | .addBook _ | .addUser _ | .setClock _ => True
  | .begin j | .advance j | .commit j | .rollback j => j ≠ k
  | .call j p => j ≠ k ∧ ∃ o : Operation, p = o.procedure policy

namespace Action.OfOthers

variable {policy : Policy} {s : Traffic} {k : Nat} {a : Action}

/-- What others do keeps the rules of desk operations. -/
theorem permits (h : a.OfOthers policy k) : (Rules.desk policy).Permits s a := by
  cases a with
  | setClock t => exact ⟨trivial, False.elim⟩
  | call j p => exact fun _ _ => ⟨h.2, False.elim⟩
  | commit j => exact fun _ _ => False.elim
  | addBook | addUser | begin | advance | rollback => exact trivial

/-- What others do is not about the number left to the source. -/
theorem number_ne (h : a.OfOthers policy k) : a.number? ≠ some k := by
  cases a with
  | addBook | addUser | setClock => exact fun hk => nomatch hk
  | call j p => exact fun hk => h.1 (Option.some.inj hk)
  | begin j | advance j | commit j | rollback j => exact fun hk => h (Option.some.inj hk)

/-- The number that others do not use stays free. -/
theorem free (h : a.OfOthers policy k) (hk : s.opened k = none) : (s.act a).opened k = none := by
  rw [Traffic.act_opened h.number_ne, hk]

/-- Whatever others do, the number stays free and the transaction under it stays as it is. -/
theorem leads {as : List Action} (h : ∀ a ∈ as, a.OfOthers policy k) {t : Traffic} {o : Option Transaction}
    (hk : s.opened k = none) (hl : Leads (Rules.desk policy) t (s.place k o)) :
    (as.foldl Traffic.act s).opened k = none ∧ Leads (Rules.desk policy) t ((as.foldl Traffic.act s).place k o) := by
  induction as generalizing s with
  | nil => exact ⟨hk, hl⟩
  | cons a as ih =>
    have ha := h a List.mem_cons_self
    refine ih (fun b hb => h b (List.mem_cons_of_mem a hb)) (ha.free hk) ?_
    rw [← Traffic.act_place ha.number_ne]
    exact hl.act a ha.permits

end Action.OfOthers

/-! ## The source -/

/-- A commit of the source's own: how many transactions had been committed before it, and the ledgers it met and left. -/
structure OwnCommit where
  position : Nat
  met : Ledger
  left : Ledger

/-- Traffic of others, with what they do before each step of the source, the steps it has taken and the commits that were
its own. -/
structure Amid where
  traffic : Traffic
  others : Nat → List Action
  steps : Nat := 0
  own : List OwnCommit := []

namespace Amid

/-- Lets the others do what they do before the next step. -/
def pass (s : Amid) : Amid :=
  { s with traffic := (s.others s.steps).foldl Traffic.act s.traffic, steps := s.steps + 1 }

/-- A transaction that begins now. -/
def begun (s : Amid) : Transaction where
  base := s.traffic.ledger
  began := s.traffic.journal.length
  draft := s.traffic.ledger.draft

/-- The state with a new last id. -/
def taking (s : Amid) (n : Int) : Amid :=
  { s with traffic := s.traffic.taking n }

/-- The state after a commit of the source's own that left a ledger. -/
def committed (s : Amid) (x : Transaction) (l : Ledger) : Amid :=
  { s with
    traffic := { s.traffic with ledger := l, journal := s.traffic.journal ++ [x] }
    own := s.own ++ [⟨s.traffic.journal.length, s.traffic.ledger, l⟩] }

/-- A ledger as a source of transactions, amid what others do. -/
def source : Source Amid Transaction where
  now s := (s.pass.traffic.clock, s.pass)
  begin s := (.ok s.pass.begun, s.pass)
  answer q x :=
    let (a, w) := Work.answer q ⟨x.1.draft, x.2.pass.traffic.ledger.lastId, 0⟩
    (a, ({ x.1 with draft := w.draft }, x.2.pass.taking w.lastId))
  commit x s :=
    match s.pass.traffic.ledger.commit x.draft with
    | .ok l => (.ok (), s.pass.committed x l)
    | .error why => (.error (.refused why), s.pass)
  drop _ s := s
  leave _ s := s

/-! ## The source in traffic -/

/-- Whether the others keep to desk operations and none has a transaction under a number, which is left to the source. -/
structure Ready (policy : Policy) (k : Nat) (s : Amid) : Prop where
  others : ∀ n, ∀ a ∈ s.others n, a.OfOthers policy k
  free : s.traffic.opened k = none

/-- Whether some traffic leads to that of a source, with the source's own transaction, if any, under its number. -/
structure Led (policy : Policy) (k : Nat) (t : Traffic) (s : Amid) (o : Option Transaction) : Prop
    extends Ready policy k s where
  leads : Leads (Rules.desk policy) t (s.traffic.place k o)

variable {policy : Policy} {k : Nat} {t : Traffic} {s : Amid} {x : Transaction} {o : Option Transaction}

/-- A source that is ready is led by its own traffic. -/
theorem Ready.led (h : s.Ready policy k) : s.Led policy k s.traffic none :=
  { h with leads := by rw [Traffic.place_self h.free]; exact .refl }

namespace Led

/-- With no transaction of its own the traffic of a source is led to. -/
theorem leads_traffic (h : s.Led policy k t none) : Leads (Rules.desk policy) t s.traffic :=
  Traffic.place_self h.free ▸ h.leads

/-- An action of the source's own transaction. -/
theorem act {s' : Amid} {a : Action} (h : s.Led policy k t o) (o' : Option Transaction)
    (ha : (Rules.desk policy).Permits (s.traffic.place k o) a) (hact : (s.traffic.place k o).act a = s'.traffic.place k o')
    (hothers : s'.others = s.others) (hopened : s'.traffic.opened = s.traffic.opened) : s'.Led policy k t o' where
  others := hothers ▸ h.others
  free := hopened ▸ h.free
  leads := hact ▸ h.leads.act a ha

/-- What others do before a step leads on. -/
theorem pass (h : s.Led policy k t o) : s.pass.Led policy k t o :=
  have hothers := Action.OfOthers.leads (h.others s.steps) h.free h.leads
  { others := h.others, free := hothers.1, leads := hothers.2 }

/-- A step of the source's own transaction that goes on. -/
theorem advance {n : Int} (h : s.Led policy k t (some x)) (x' : Transaction)
    (hact : (s.traffic.place k (some x)).act (.advance k) = ((s.traffic.place k (some x)).taking n).keep k x') :
    (s.taking n).Led policy k t (some x') :=
  h.act (a := .advance k) _ trivial (hact.trans (Traffic.place_place (s := s.traffic.taking n) _ _)) rfl rfl

/-- The source's own transaction is dropped. -/
theorem rollback (h : s.Led policy k t o) : s.Led policy k t none :=
  h.act (a := .rollback k) none trivial (Traffic.place_place _ none) rfl rfl

/-- The source's own transaction begins and is put to an operation. -/
theorem begin (h : s.Led policy k t none) (o : Operation) :
    s.Led policy k t (some { s.begun with doing := some (o.procedure policy) }) := by
  have hbegun : s.Led policy k t (some s.begun) :=
    h.act (a := .begin k) _ trivial (Traffic.place_place none _) rfl rfl
  refine hbegun.act (a := .call k (o.procedure policy)) _ (fun _ _ => ⟨⟨o, rfl⟩, False.elim⟩) ?_ rfl rfl
  simp only [Traffic.act, Traffic.place_opened]
  exact Traffic.place_place _ _

/-- The source's own transaction comes to rest. -/
theorem rest (hd : x.doing = none) (h : s.Led policy k t (some { x with doing := some (.done []) })) :
    s.Led policy k t (some x) := by
  refine h.advance (n := s.traffic.ledger.lastId) x ?_
  obtain ⟨base, began, draft, inHand, refused, doing⟩ := x
  cases hd
  simp only [Traffic.act, Traffic.place_opened]
  rfl

/-- The source's own transaction is committed. -/
theorem committed (h : s.Led policy k t (some x)) (hd : x.doing = none) {l : Ledger}
    (hl : s.traffic.ledger.commit x.draft = .ok l) : (s.committed x l).Led policy k t none := by
  have hact := Traffic.act_commit (s.traffic.place_opened (k := k) (some x)) hd
  refine h.act (a := .commit k) none (fun _ _ => False.elim) (hact.trans ?_) rfl rfl
  simp only [Traffic.commit, Traffic.place_ledger, hl]
  exact Traffic.place_place (s := (s.committed x l).traffic) (some x) none

end Led

/-- The moment after others have done what they do is a later one. -/
theorem later_pass (s : Amid) : (Rules.desk policy).Later s.traffic.moment s.pass.traffic.moment :=
  ⟨s.traffic.lastId_le_acts (s.others s.steps), trivial, False.elim⟩

/-- A procedure that is put to the source's own transaction ends, amid what others do, as it may end in traffic. -/
theorem run_led {α : Type} {p : Procedure α} {f : α → Procedure (List Loan)} {Q : α → Draft → Moment → Prop}
    (h : s.Led policy k t (some { x with doing := some (p.bind f) }))
    (hp : p.Ensures (Rules.desk policy) Q (fun _ _ => True) x.draft s.traffic.moment) :
    ∃ result d s', p.run source.store (x, s) = (result, ({ x with draft := d }, s')) ∧ s'.own = s.own ∧
      (∀ a, result = .ok a → Q a d s'.traffic.moment ∧
        s'.Led policy k t (some { x with draft := d, doing := some (f a) })) ∧
      ∀ why, result = .error why → s'.Led policy k t none := by
  induction p generalizing x s with
  | done a =>
    refine ⟨.ok a, x.draft, s, rfl, rfl, fun b hb => ?_, fun why hwhy => nomatch hwhy⟩
    cases hb
    exact ⟨hp, h⟩
  | stop why => exact ⟨.error why, x.draft, s, rfl, rfl, fun b hb => (nomatch hb), fun _ _ => h.rollback⟩
  | clock next ih =>
    have hnext : s.pass.Led policy k t (some { x with doing := some ((next s.pass.traffic.clock).bind f) }) := by
      refine h.pass.advance (n := s.pass.traffic.ledger.lastId) _ ?_
      simp only [Traffic.act, Traffic.place_opened]
      rfl
    exact ih _ hnext (hp s.pass.traffic.moment s.later_pass)
  | ask q next ih =>
    have hanswer := hp s.pass.traffic.moment s.later_pass
    have hopened := s.pass.traffic.place_opened (k := k) (some { x with doing := some ((Procedure.ask q next).bind f) })
    cases hw : Work.answer q ⟨x.draft, s.pass.traffic.ledger.lastId, 0⟩ with
    | mk result w =>
      simp only [Traffic.moment, hw] at hanswer
      cases result with
      | ok a =>
        have hnext := h.pass.advance _ (Traffic.act_advance_ok hopened hw)
        obtain ⟨result, d, s', hrun, hrest⟩ := ih a (x := { x with draft := w.draft }) hnext hanswer
        exact ⟨result, d, s', by simpa only [Procedure.run, source, Source.store, hw] using hrun, hrest⟩
      | error why =>
        have hstopped := h.pass.advance _ (Traffic.act_advance_error hopened hw)
        refine ⟨.error why, w.draft, s.pass.taking w.lastId, ?_, rfl, fun b hb => (nomatch hb), fun _ _ => hstopped.rollback⟩
        simp only [Procedure.run, source, Source.store, hw]

end Amid

end Circulation
