import Circulation.Proofs.Account

/-!
# Conduct

What a procedure does is known without the store that it runs on, up to the answers: the deeds it may do and the end it comes
to with them (`Procedure.Does`). What a run on any store was told, in order, are such deeds (`Procedure.does_of_run`), and to
note them does not disturb the run (`Procedure.run_noting`). A procedure that keeps to some requests puts no others, and where
the condition of a write did not hold it refuses to go on (`Procedure.KeepsTo`); an error and a write that was not done are the
last of its deeds (`Procedure.KeepsTo.last`).
-/

namespace Circulation

namespace Request

/-- Whether it is a write. -/
def writes : Request → Bool
  | .insertCopy _ _ | .moveCopy _ _ _ _ | .withdrawCopy _ _ | .insertLoan _ | .updateLoan _ _ | .insertEntry _ => true
  | .insertReservation _ | .moveReservation _ _ _ _ | .insertFine _ | .settleFine _ _ => true
  | _ => false

/-- Whether it is a request for a lock. -/
def locks : Request → Bool
  | .lockCopy _ => true
  | _ => false

/-- Whether an answer says that it was done. A conditional write is answered that it was not when its condition did not hold. -/
def accepted : (q : Request) → q.Answer → Bool
  | .moveCopy _ _ _ _, written => written
  | .withdrawCopy _ _, written => written
  | .updateLoan _ _, written => written
  | .moveReservation _ _ _ _, written => written
  | .settleFine _ _, written => written
  | _, _ => true

end Request

namespace Deed

/-- The request that was put. -/
def request? : Deed → Option Request
  | .asked q _ => some q
  | _ => none

/-- The loan that was read. -/
def loan? : Deed → Option Loan
  | .asked (.getLoan _) (.ok found) => found
  | .asked (.activeLoan _) (.ok found) => found
  | _ => none

end Deed

/-! ## Runs -/

/-- The store that notes, beside its state, what it told: each reading of the clock and each answer. -/
def Store.noting {σ : Type} (store : Store σ) : Store (σ × List Deed) where
  now s := ((store.now s.1).1, (store.now s.1).2, s.2 ++ [.read (store.now s.1).1])
  answer q s := ((store.answer q s.1).1, (store.answer q s.1).2, s.2 ++ [.asked q (store.answer q s.1).1])

namespace Procedure

variable {α β σ : Type} {ds : List Deed}

/-- A store is not disturbed by noting what it told. -/
theorem run_noting (store : Store σ) (p : Procedure α) (s : σ) (ds : List Deed) :
    (p.run store.noting (s, ds)).1 = (p.run store s).1 ∧ (p.run store.noting (s, ds)).2.1 = (p.run store s).2 := by
  induction p generalizing s ds with
  | done a => exact ⟨rfl, rfl⟩
  | stop why => exact ⟨rfl, rfl⟩
  | clock next ih => exact ih _ _ _
  | ask q next ih =>
    simp only [run, Store.noting]
    rcases store.answer q s with ⟨why | a, s'⟩
    · exact ⟨rfl, rfl⟩
    · exact ih a s' _

/-- Whether a procedure may do some deeds and end so with them. -/
def Does : Procedure α → List Deed → Except Stop α → Prop
  | .done b, ds, r => ds = [] ∧ r = .ok b
  | .stop why, ds, r => ds = [] ∧ r = .error why
  | .clock next, ds, r => ∃ t ds', ds = .read t :: ds' ∧ (next t).Does ds' r
  | .ask q next, ds, r =>
    (∃ answer ds', ds = .asked q (.ok answer) :: ds' ∧ (next answer).Does ds' r) ∨
      ∃ why, ds = [.asked q (.error why)] ∧ r = .error why

/-- What a store told in the course of a procedure are the deeds of the procedure. -/
theorem does_of_run {store : Store σ} {p : Procedure α} {s s' : σ} {es : List Deed} {r : Except Stop α}
    (h : p.run store.noting (s, es) = (r, s', ds)) : ∃ fs, ds = es ++ fs ∧ p.Does fs r := by
  induction p generalizing s es with
  | done a =>
    cases h
    exact ⟨[], (List.append_nil _).symm, rfl, rfl⟩
  | stop why =>
    cases h
    exact ⟨[], (List.append_nil _).symm, rfl, rfl⟩
  | clock next ih =>
    obtain ⟨fs, rfl, hfs⟩ := ih _ h
    exact ⟨_ :: fs, List.append_assoc .., _, fs, rfl, hfs⟩
  | ask q next ih =>
    simp only [run, Store.noting] at h
    rcases hanswer : store.answer q s with ⟨why | a, s₁⟩
    · rw [hanswer] at h
      cases h
      exact ⟨[.asked q (.error why)], rfl, .inr ⟨why, rfl, rfl⟩⟩
    · rw [hanswer] at h
      obtain ⟨fs, rfl, hfs⟩ := ih a h
      exact ⟨.asked q (.ok a) :: fs, List.append_assoc .., .inl ⟨a, fs, rfl, hfs⟩⟩

/-- The deeds that lead to a result are those that tell of it. -/
theorem does_ok_iff {p : Procedure α} {a : α} : p.Does ds (.ok a) ↔ p.Tells ds a := by
  induction p generalizing ds with
  | done b => simp only [Does, Tells, Except.ok.injEq, eq_comm]
  | stop why => simp only [Does, Tells, reduceCtorEq, and_false]
  | clock next ih => simp only [Does, Tells, ih]
  | ask q next ih => simp only [Does, Tells, ih, reduceCtorEq, and_false, exists_false, or_false]

/-- What one procedure after another does: the one ends with a result and the other goes on from it, or the one stops. -/
theorem Does.of_bind {p : Procedure α} {f : α → Procedure β} {r : Except Stop β} (h : (p.bind f).Does ds r) :
    (∃ es fs a, ds = es ++ fs ∧ p.Does es (.ok a) ∧ (f a).Does fs r) ∨ ∃ why, p.Does ds (.error why) := by
  induction p generalizing ds with
  | done a => exact .inl ⟨[], ds, a, rfl, ⟨rfl, rfl⟩, h⟩
  | stop why => exact .inr ⟨why, h.1, rfl⟩
  | clock next ih =>
    obtain ⟨t, ds', rfl, h⟩ := h
    rcases ih t h with ⟨es, fs, a, rfl, ha, hf⟩ | ⟨why, hwhy⟩
    · exact .inl ⟨.read t :: es, fs, a, rfl, ⟨t, es, rfl, ha⟩, hf⟩
    · exact .inr ⟨why, t, ds', rfl, hwhy⟩
  | ask q next ih =>
    rcases h with ⟨answer, ds', rfl, h⟩ | ⟨why, rfl, -⟩
    · rcases ih answer h with ⟨es, fs, a, rfl, ha, hf⟩ | ⟨why, hwhy⟩
      · exact .inl ⟨.asked q (.ok answer) :: es, fs, a, rfl, .inl ⟨answer, es, rfl, ha⟩, hf⟩
      · exact .inr ⟨why, .inl ⟨answer, ds', rfl, hwhy⟩⟩
    · exact .inr ⟨why, .inr ⟨why, rfl, rfl⟩⟩

/-! ## Keeping to some requests -/

/-- Whether a procedure puts no requests but some, and refuses to go on where one was answered that it was not done. -/
def KeepsTo (R : Request → Prop) : Procedure α → Prop
  | .done _ => True
  | .stop _ => True
  | .clock next => ∀ t, (next t).KeepsTo R
  | .ask q next => R q ∧ ∀ a, (next a).KeepsTo R ∧ (q.accepted a = false → ∃ why, next a = refuse why)

variable {R R' : Request → Prop}

theorem KeepsTo.mono {p : Procedure α} (h : p.KeepsTo R) (hR : ∀ q, R q → R' q) : p.KeepsTo R' := by
  induction p with
  | done a => trivial
  | stop why => trivial
  | clock next ih => exact fun t => ih t (h t)
  | ask q next ih => exact ⟨hR q h.1, fun a => ⟨ih a (h.2 a).1, (h.2 a).2⟩⟩

/-- A procedure and what follows on its result keep to the same requests. -/
theorem keepsTo_bind {p : Procedure α} {f : α → Procedure β} (hp : p.KeepsTo R) (hf : ∀ a, (f a).KeepsTo R) :
    (p.bind f).KeepsTo R := by
  induction p with
  | done a => exact hf a
  | stop why => trivial
  | clock next ih => exact fun t => ih t (hp t)
  | ask q next ih =>
    refine ⟨hp.1, fun a => ⟨ih a (hp.2 a).1, fun hnot => ?_⟩⟩
    obtain ⟨why, hwhy⟩ := (hp.2 a).2 hnot
    exact ⟨why, by simp only [hwhy]; rfl⟩

/-- A reading of the clock puts no request. -/
theorem keepsTo_now : now.KeepsTo R :=
  fun _ => trivial

/-- A request that is always done when it is answered. -/
theorem keepsTo_request {q : Request} (h : R q) (hdone : ∀ a, q.accepted a = true) : (request q).KeepsTo R := by
  refine ⟨h, fun a => ⟨trivial, fun hnot => ?_⟩⟩
  rw [hdone a] at hnot
  nomatch hnot

/-- Arithmetic puts no request. -/
theorem keepsTo_checked (e : Except Overflow α) : (checked e).KeepsTo R := by
  cases e with
  | ok a => trivial
  | error what => trivial

/-- Requiring something puts no request. -/
theorem keepsTo_require (o : Option α) (why : Refusal) : (require o why).KeepsTo R := by
  cases o with
  | none => trivial
  | some a => trivial

/-- Ensuring something puts no request. -/
theorem keepsTo_ensure (condition : Bool) (why : Refusal) : (ensure condition why).KeepsTo R := by
  cases condition with
  | false => trivial
  | true => trivial

/-- A request that answers what is there, if it is there. -/
theorem keepsTo_found {q : Request} {found : q.Answer → Option α} {why : Refusal} (h : R q)
    (hdone : ∀ a, q.accepted a = true) : ((request q).bind fun o => require (found o) why).KeepsTo R :=
  keepsTo_bind (keepsTo_request h hdone) fun _ => keepsTo_require _ _

/-- A request that a procedure goes on after only if it was done. -/
theorem keepsTo_written {q : Request} {held : q.Answer → Bool} {why : Refusal} (h : R q)
    (hheld : ∀ a, q.accepted a = false → held a = false) :
    ((request q).bind fun a => ensure (held a) why).KeepsTo R := by
  refine ⟨h, fun a => ⟨keepsTo_ensure _ _, fun hnot => ⟨why, ?_⟩⟩⟩
  simp only [bind, ensure, hheld a hnot, Bool.false_eq_true, if_false]

/-- The requests of a procedure are those that it keeps to. -/
theorem KeepsTo.request {p : Procedure α} {r : Except Stop α} (h : p.KeepsTo R) (hp : p.Does ds r) :
    ∀ e ∈ ds, ∀ q ∈ e.request?, R q := by
  induction p generalizing ds with
  | done a =>
    obtain ⟨rfl, -⟩ := hp
    intro e he
    nomatch he
  | stop why =>
    obtain ⟨rfl, -⟩ := hp
    intro e he
    nomatch he
  | clock next ih =>
    obtain ⟨t, ds', rfl, hp⟩ := hp
    exact List.forall_mem_cons.2 ⟨fun q hq => (nomatch hq), ih t (h t) hp⟩
  | ask q next ih =>
    have hfirst (a : Except Stop q.Answer) : ∀ q' ∈ (Deed.asked q a).request?, R q' := by
      rintro _ ⟨⟩
      exact h.1
    rcases hp with ⟨a, ds', rfl, hp⟩ | ⟨why, rfl, -⟩
    · exact List.forall_mem_cons.2 ⟨hfirst _, ih a (h.2 a).1 hp⟩
    · exact List.forall_mem_cons.2 ⟨hfirst _, fun e he => (nomatch he)⟩

/-- How a procedure ends once something fails: with the error that a request was answered, or with a refusal when it was
answered that it was not done; and nothing is done after it. -/
theorem KeepsTo.last {p : Procedure α} {r : Except Stop α} (h : p.KeepsTo R) (hp : p.Does ds r) {before after : List Deed}
    {q : Request} {a : Except Stop q.Answer} (hds : ds = before ++ .asked q a :: after) :
    (∀ why, a = .error why → after = [] ∧ r = .error why) ∧
      ∀ answer, a = .ok answer → q.accepted answer = false → after = [] ∧ ∃ why, r = .error (.refused why) := by
  subst hds
  -- By induction on the tree: what failed is the first deed, or it is among those that follow.
  induction p generalizing before with
  | done b => nomatch List.append_ne_nil_of_right_ne_nil _ (List.cons_ne_nil _ _) hp.1
  | stop why => nomatch List.append_ne_nil_of_right_ne_nil _ (List.cons_ne_nil _ _) hp.1
  | clock next ih =>
    obtain ⟨t, ds', hds, hp⟩ := hp
    cases before with
    | nil => nomatch hds
    | cons e before =>
      cases hds
      exact ih t (h t) hp
  | ask q' next ih =>
    rcases hp with ⟨b, ds', hds, hp⟩ | ⟨why', hds, hr⟩
    · cases before with
      | nil =>
        cases hds
        refine ⟨fun why hwhy => (nomatch hwhy), fun answer hanswer hnot => ?_⟩
        cases hanswer
        obtain ⟨why, hwhy⟩ := (h.2 b).2 hnot
        rw [hwhy] at hp
        exact ⟨hp.1, why, hp.2⟩
      | cons e before =>
        cases hds
        exact ih b (h.2 b).1 hp
    · cases before with
      | nil =>
        cases hds
        refine ⟨fun why hwhy => ?_, fun answer hanswer => nomatch hanswer⟩
        cases hwhy
        exact ⟨rfl, hr⟩
      | cons e before =>
        simp only [List.cons_append, List.cons.injEq] at hds
        nomatch List.append_ne_nil_of_right_ne_nil _ (List.cons_ne_nil _ _) hds.2

/-- Every request of a procedure that ended with a result was answered that it was done. -/
theorem KeepsTo.accepted {p : Procedure α} {a : α} (h : p.KeepsTo R) (hp : p.Does ds (.ok a)) {q : Request}
    {b : Except Stop q.Answer} (hq : .asked q b ∈ ds) : ∃ answer, b = .ok answer ∧ q.accepted answer = true := by
  obtain ⟨before, after, hds⟩ := List.append_of_mem hq
  obtain ⟨herror, hnot⟩ := h.last hp hds
  cases b with
  | error why => nomatch (herror why rfl).2
  | ok answer =>
    refine ⟨answer, rfl, ?_⟩
    cases haccepted : q.accepted answer with
    | true => rfl
    | false =>
      obtain ⟨-, why, hr⟩ := hnot answer rfl haccepted
      nomatch hr

end Procedure

end Circulation
