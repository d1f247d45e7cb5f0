import Circulation.Proofs.Logbook

/-!
# Accounts

A procedure that ends with a result accounts for it by its deeds: what the clock read, and how its requests were answered
(`Procedure.Tells`). The same deeds done on another store lead to the same result (`run_of_tells`). The page of a transaction
that was refused nothing is the account of the operations it was put to, one after the other, each with its outcome
(`Recorded.performed`).
-/

namespace Circulation

namespace Procedure

variable {α β : Type} {ds : List Deed}

/-- Whether a procedure that does some deeds ends with a result. -/
def Tells : Procedure α → List Deed → α → Prop
  | .done b, ds, a => ds = [] ∧ b = a
  | .stop _, _, _ => False
  | .clock next, ds, a => ∃ t ds', ds = .read t :: ds' ∧ (next t).Tells ds' a
  | .ask q next, ds, a => ∃ answer ds', ds = .asked q (.ok answer) :: ds' ∧ (next answer).Tells ds' a

/-- The deeds of one procedure after another are those of the one and then those of the other. -/
theorem tells_bind {p : Procedure α} {f : α → Procedure β} {b : β} :
    (p.bind f).Tells ds b ↔ ∃ es fs a, ds = es ++ fs ∧ p.Tells es a ∧ (f a).Tells fs b := by
  induction p generalizing ds with
  | done a =>
    refine ⟨fun h => ⟨[], ds, a, rfl, ⟨rfl, rfl⟩, h⟩, ?_⟩
    rintro ⟨es, fs, c, rfl, ⟨rfl, rfl⟩, h⟩
    exact h
  | stop why => exact ⟨False.elim, fun ⟨_, _, _, _, h, _⟩ => h⟩
  | clock next ih =>
    constructor
    · rintro ⟨t, ds', rfl, h⟩
      obtain ⟨es, fs, a, rfl, hp, hf⟩ := (ih t).1 h
      exact ⟨.read t :: es, fs, a, rfl, ⟨t, es, rfl, hp⟩, hf⟩
    · rintro ⟨es, fs, a, rfl, ⟨t, es', rfl, hp⟩, hf⟩
      exact ⟨t, es' ++ fs, rfl, (ih t).2 ⟨es', fs, a, rfl, hp, hf⟩⟩
  | ask q next ih =>
    constructor
    · rintro ⟨answer, ds', rfl, h⟩
      obtain ⟨es, fs, a, rfl, hp, hf⟩ := (ih answer).1 h
      exact ⟨.asked q (.ok answer) :: es, fs, a, rfl, ⟨answer, es, rfl, hp⟩, hf⟩
    · rintro ⟨es, fs, a, rfl, ⟨answer, es', rfl, hp⟩, hf⟩
      exact ⟨answer, es' ++ fs, rfl, (ih answer).2 ⟨es', fs, a, rfl, hp, hf⟩⟩

/-- A reading of the clock tells of one deed, the reading. -/
theorem tells_now {t : Instant} : now.Tells ds t ↔ ds = [.read t] := by
  constructor
  · rintro ⟨t, ds', rfl, rfl, rfl⟩
    rfl
  · rintro rfl
    exact ⟨t, [], rfl, rfl, rfl⟩

/-- A single request tells of one deed, the answer to it. -/
theorem tells_request {q : Request} {a : q.Answer} : (request q).Tells ds a ↔ ds = [.asked q (.ok a)] := by
  constructor
  · rintro ⟨answer, ds', rfl, rfl, rfl⟩
    rfl
  · rintro rfl
    exact ⟨a, [], rfl, rfl, rfl⟩

/-- Arithmetic tells of no deed, and has a result when it stays in range. -/
theorem tells_checked {e : Except Overflow α} {a : α} : (checked e).Tells ds a ↔ ds = [] ∧ e = .ok a := by
  cases e with
  | ok b => simp [checked, Tells]
  | error what => simp [checked, Tells]

/-- What is required tells of no deed, and is there. -/
theorem tells_require {o : Option α} {why : Refusal} {a : α} : (require o why).Tells ds a ↔ ds = [] ∧ o = some a := by
  cases o with
  | none => simp [require, refuse, Tells]
  | some b => simp [require, Tells]

/-- What is ensured tells of no deed, and is so. -/
theorem tells_ensure {condition : Bool} {why : Refusal} {u : Unit} :
    (ensure condition why).Tells ds u ↔ ds = [] ∧ condition = true := by
  cases condition with
  | false => simp [ensure, refuse, Tells]
  | true => simp [ensure, Tells]

/-- A request after which nothing is done but to look at its answer. -/
theorem tells_asked {q : Request} {f : q.Answer → Procedure α} {P : q.Answer → α → Prop}
    (h : ∀ o ds a, (f o).Tells ds a ↔ ds = [] ∧ P o a) {a : α} :
    ((request q).bind f).Tells ds a ↔ ∃ o, ds = [.asked q (.ok o)] ∧ P o a := by
  simp only [tells_bind, tells_request, h]
  constructor
  · rintro ⟨_, _, o, rfl, rfl, rfl, ho⟩
    exact ⟨o, rfl, ho⟩
  · rintro ⟨o, rfl, ho⟩
    exact ⟨_, [], o, rfl, rfl, rfl, ho⟩

/-- A request that answered what is there. -/
theorem tells_found {q : Request} {found : q.Answer → Option α} {why : Refusal} {a : α} :
    ((request q).bind fun o => require (found o) why).Tells ds a ↔ ∃ o, ds = [.asked q (.ok o)] ∧ found o = some a :=
  tells_asked fun _ _ _ => tells_require

/-- A request that was put and done. -/
theorem tells_written {q : Request} {held : q.Answer → Bool} {why : Refusal} {u : Unit} :
    ((request q).bind fun a => ensure (held a) why).Tells ds u ↔ ∃ a, ds = [.asked q (.ok a)] ∧ held a = true :=
  tells_asked fun _ _ _ => tells_ensure

/-- A request that answered what there was, by which answer. -/
theorem tells_got {q : Request} {found : q.Answer → Option α} {put : α → q.Answer} {why : Refusal}
    (h : ∀ o a, found o = some a ↔ o = put a) {a : α} :
    ((request q).bind fun o => require (found o) why).Tells ds a ↔ ds = [.asked q (.ok (put a))] := by
  refine tells_found.trans ⟨?_, fun hds => ⟨put a, hds, (h _ a).2 rfl⟩⟩
  rintro ⟨o, rfl, ho⟩
  rw [(h o a).1 ho]

/-- A procedure whose result is put in another form. -/
theorem tells_bind_done {p : Procedure α} {g : α → β} {b : β} :
    (p.bind fun a => .done (g a)).Tells ds b ↔ ∃ a, p.Tells ds a ∧ g a = b := by
  rw [tells_bind]
  constructor
  · rintro ⟨es, _, a, rfl, ha, rfl, hb⟩
    rw [List.append_nil]
    exact ⟨a, ha, hb⟩
  · rintro ⟨a, ha, hb⟩
    exact ⟨ds, [], a, (List.append_nil ds).symm, ha, rfl, hb⟩

end Procedure

/-- A loan that was got was asked for and found. -/
theorem Lending.get_tells {id : Int} {ds : List Deed} {l : Loan} :
    (get id).Tells ds l ↔ ds = [.asked (.getLoan id) (.ok (some l))] :=
  Procedure.tells_got fun _ _ => Iff.rfl

/-- A reservation that was got was asked for and found. -/
theorem Holds.get_tells {id : Int} {ds : List Deed} {r : Reservation} :
    (get id).Tells ds r ↔ ds = [.asked (.getReservation id) (.ok (some r))] :=
  Procedure.tells_got fun _ _ => Iff.rfl

/-- A fine that was got was asked for and found. -/
theorem Charges.get_tells {id : Int} {ds : List Deed} {f : Fine} :
    (get id).Tells ds f ↔ ds = [.asked (.getFine id) (.ok (some f))] :=
  Procedure.tells_got fun _ _ => Iff.rfl

/-- A copy that was locked was asked for and found. -/
theorem Desk.lockCopy_tells {id : Int} {ds : List Deed} {c : Copy} :
    (lockCopy id).Tells ds c ↔ ds = [.asked (.lockCopy id) (.ok (some c))] :=
  Procedure.tells_got fun _ _ => Iff.rfl

/-! ## Deeds done again -/

namespace Deed

/-- Whether it was the beginning of a call. -/
def isCall : Deed → Bool
  | .called _ => true
  | _ => false

end Deed

/-- Whether deeds are what happens on a draft whose clock has given readings of a timeline. -/
inductive Work.Does (timeline : Nat → Instant) : Work → List Deed → Work → Prop where
  | nil {w : Work} : Does timeline w [] w
  | read {w w' : Work} {ds : List Deed} : Does timeline { w with readings := w.readings + 1 } ds w' →
    Does timeline w (.read (timeline w.readings) :: ds) w'
  | asked {w w₁ w' : Work} {ds : List Deed} {q : Request} {a : q.Answer} : Work.answer q w = (.ok a, w₁) →
    Does timeline w₁ ds w' → Does timeline w (.asked q (.ok a) :: ds) w'

/-- What a draft owes its base it owes it after any deeds. -/
theorem Work.Does.stands {timeline : Nat → Instant} {base : Ledger} {w w' : Work} {ds : List Deed}
    (h : Work.Does timeline w ds w') (hs : w.draft.Stands base w.lastId) : w'.draft.Stands base w'.lastId := by
  induction h with
  | nil => exact hs
  | read _ ih => exact ih hs
  | asked hw _ ih => exact ih (hs.change (Draft.change_of_answered hw))

/-- A procedure whose deeds are done again ends with the result they told of. -/
theorem Procedure.run_of_tells {α : Type} {timeline : Nat → Instant} {p : Procedure α} {ds : List Deed} {a : α} {w w' : Work}
    (hp : p.Tells ds a) (h : Work.Does timeline w ds w') : p.run (Work.store timeline) w = (.ok a, w') := by
  induction p generalizing ds w with
  | done b =>
    obtain ⟨rfl, rfl⟩ := hp
    cases h
    rfl
  | stop why => exact hp.elim
  | clock next ih =>
    obtain ⟨t, ds', rfl, hp⟩ := hp
    cases h with
    | read h => exact ih _ hp h
  | ask q next ih =>
    obtain ⟨answer, ds', rfl, hp⟩ := hp
    cases h with
    | asked hw h =>
      simp only [run, Work.store, hw]
      exact ih answer hp h

/-! ## Operations one after the other -/

/-- What an operation of the desk answers. -/
inductive Outcome where
  | loan (l : Loan)
  | reservation (r : Reservation)
  | copy (c : Copy)
  | copies (cs : List Copy)
  | fine (f : Fine)
  deriving DecidableEq

namespace Operation

/-- The procedure of an operation, with its outcome. -/
def carryOut (policy : Policy) : Operation → Procedure Outcome
  | .borrow copyId userId => (Desk.borrow policy copyId userId).bind fun l => .done (.loan l)
  | .returnLoan loanId => (Desk.returnLoan policy loanId).bind fun l => .done (.loan l)
  | .returnCopy copyId => (Desk.returnCopy policy copyId).bind fun l => .done (.loan l)
  | .renew loanId => (Desk.renew policy loanId).bind fun l => .done (.loan l)
  | .reserve copyId userId => (Desk.reserve policy copyId userId).bind fun r => .done (.reservation r)
  | .cancelReservation reservationId => (Desk.cancelReservation reservationId).bind fun r => .done (.reservation r)
  | .addCopy bookId => (Desk.addCopy bookId).bind fun c => .done (.copy c)
  | .addCopies bookId count => (Desk.addCopies bookId count).bind fun cs => .done (.copies cs)
  | .removeCopy copyId => (Desk.removeCopy copyId).bind fun c => .done (.copy c)
  | .settleFine fineId => (Desk.settleFine fineId).bind fun f => .done (.fine f)

/-- What a transaction is put to is the operation, of which it keeps no loan in hand. -/
theorem procedure_eq (policy : Policy) (o : Operation) : o.procedure policy = (o.carryOut policy).quietly := by
  cases o <;> simp only [procedure, carryOut, Procedure.quietly, Procedure.bind_assoc] <;> rfl

/-- Operations carried out one after the other, with their outcomes. -/
def all (policy : Policy) : List Operation → Procedure (List Outcome)
  | [] => .done []
  | o :: os => (o.carryOut policy).bind fun a => (all policy os).bind fun as => .done (a :: as)

end Operation

/-- Whether a page is the account of some operations with some outcomes: each was called and, from the deeds that follow, ended
with its outcome. -/
inductive Performed (policy : Policy) : List Operation → List Outcome → List Deed → Prop where
  | nil : Performed policy [] [] []
  | cons {o : Operation} {os : List Operation} {a : Outcome} {as : List Outcome} {ds page : List Deed} :
    (o.carryOut policy).Tells ds a → Performed policy os as page →
    Performed policy (o :: os) (a :: as) (.called (o.procedure policy) :: (ds ++ page))

namespace Performed

variable {policy : Policy} {os os' : List Operation} {as as' : List Outcome} {page page' : List Deed}

theorem append (h : Performed policy os as page) (h' : Performed policy os' as' page') :
    Performed policy (os ++ os') (as ++ as') (page ++ page') := by
  induction h with
  | nil => exact h'
  | cons ho _ ih =>
    rw [List.cons_append, List.cons_append, List.cons_append, List.append_assoc]
    exact .cons ho ih

end Performed

/-- Nothing is called in the course of a procedure. -/
theorem Procedure.Tells.not_isCall {α : Type} {p : Procedure α} {ds : List Deed} {a : α} (h : p.Tells ds a) :
    ∀ e ∈ ds, e.isCall = false := by
  induction p generalizing ds with
  | done b =>
    obtain ⟨rfl, -⟩ := h
    exact fun e he => nomatch he
  | stop why => exact h.elim
  | clock next ih =>
    obtain ⟨t, ds', rfl, h⟩ := h
    exact List.forall_mem_cons.2 ⟨rfl, ih t h⟩
  | ask q next ih =>
    obtain ⟨answer, ds', rfl, h⟩ := h
    exact List.forall_mem_cons.2 ⟨rfl, ih answer h⟩

/-- An account of operations is told by the procedure that carries out all of them. -/
theorem Performed.tells {policy : Policy} {os : List Operation} {as : List Outcome} {page : List Deed}
    (h : Performed policy os as page) : (Operation.all policy os).Tells (page.filter (!·.isCall)) as := by
  induction h with
  | nil => exact ⟨rfl, rfl⟩
  | @cons o os a as ds page ho _ ih =>
    have hds : ds.filter (!·.isCall) = ds := List.filter_eq_self.2 fun e he => by rw [ho.not_isCall e he, Bool.not_false]
    rw [List.filter_cons_of_neg (by simp [Deed.isCall]), List.filter_append, hds]
    refine Procedure.tells_bind.2 ⟨_, _, a, rfl, ho, ?_⟩
    exact Procedure.tells_bind.2 ⟨_, [], as, (List.append_nil _).symm, ih, rfl, rfl⟩

/-! ## The page of a transaction that was refused nothing -/

/-- Whether a page accounts for a transaction that was refused nothing: it is the account of some operations, and then of the
part that is done of one that the transaction is in the middle of. -/
def Transaction.Accounts (policy : Policy) (x : Transaction) (page : List Deed) : Prop :=
  ∃ os as ds es, page = ds ++ es ∧ Performed policy os as ds ∧ (x.doing = none → es = []) ∧
    ∀ p, x.doing = some p → ∃ (o : Operation) (fs : List Deed), es = .called (o.procedure policy) :: fs ∧
      ∀ gs loans, p.Tells gs loans → (o.procedure policy).Tells (fs ++ gs) loans

namespace Transaction.Accounts

variable {policy : Policy} {x : Transaction} {page : List Deed}

/-- A transaction goes on with a procedure of which the next deed is told. -/
theorem go (h : x.Accounts policy page) {p p' : Procedure (List Loan)} (hp : x.doing = some p) {e : Deed}
    (hnext : ∀ gs loans, p'.Tells gs loans → p.Tells (e :: gs) loans) (d : Draft) :
    ({ x with draft := d, doing := some p' } : Transaction).Accounts policy (page ++ [e]) := by
  obtain ⟨os, as, ds, es, rfl, hdone, -, hbusy⟩ := h
  obtain ⟨o, fs, rfl, htells⟩ := hbusy p hp
  refine ⟨os, as, ds, .called (o.procedure policy) :: (fs ++ [e]), by simp, hdone, fun hd => (nomatch hd),
    fun q hq => ⟨o, fs ++ [e], rfl, fun gs loans hg => ?_⟩⟩
  cases hq
  rw [List.append_assoc]
  exact htells _ _ (hnext gs loans hg)

end Transaction.Accounts

/-- The page of an open transaction that was refused nothing accounts for it. -/
theorem Recorded.accounts {policy : Policy} {strict : Prop} {b : Logbook} (h : Recorded (Rules.desk policy strict) b)
    {k : Nat} {x : Transaction} (hx : b.traffic.opened k = some x) (hr : x.refused = false) :
    x.Accounts policy (b.pages k) := by
  induction h generalizing x with
  | start t _ => cases hx
  | @act b a _ ha ih =>
    rcases b.act_turns a hx with ⟨rfl, hpage⟩ | ⟨y, ds, hy, hturns, hpage⟩
    · rw [hpage]
      exact ⟨[], [], [], [], rfl, .nil, fun _ => rfl, fun p hp => nomatch hp⟩
    · rw [hpage]
      cases hturns with
      | kept =>
        rw [List.append_nil]
        exact ih hy hr
      | @called p hcall hrest =>
        subst hcall
        obtain ⟨⟨o, rfl⟩, -⟩ := ha y hy
        obtain ⟨os, as, ds, es, hes, hdone, hnone, -⟩ := ih hy hr
        rw [hnone hrest, List.append_nil] at hes
        refine ⟨os, as, ds, [.called (o.procedure policy)], by rw [hes], hdone, fun hd => (nomatch hd), fun q hq => ?_⟩
        cases hq
        exact ⟨o, [], rfl, fun gs loans hg => hg⟩
      | ended hdoing =>
        obtain ⟨os, as, ds, es, hes, hdone, -, hbusy⟩ := ih hy hr
        obtain ⟨o, fs, rfl, htells⟩ := hbusy _ hdoing
        have htold := htells [] _ ⟨rfl, rfl⟩
        rw [List.append_nil, Operation.procedure_eq] at htold
        obtain ⟨gs, hs, a, rfl, ho, rfl, -⟩ := Procedure.tells_bind.1 htold
        rw [List.append_nil, hes, List.append_nil]
        have hone := Performed.cons ho .nil
        rw [List.append_nil] at hone
        exact ⟨os ++ [o], as ++ [a], _, [], (List.append_nil _).symm, hdone.append hone, fun _ => rfl,
          fun p hp => nomatch hp⟩
      | refused => cases hr
      | read hdoing => exact (ih hy hr).go hdoing (fun gs loans hg => ⟨_, gs, rfl, hg⟩) y.draft
      | answered hdoing => exact (ih hy hr).go hdoing (fun gs loans hg => ⟨_, gs, rfl, hg⟩) _
      | unanswered hdoing =>
        refine (ih hy hr).go hdoing ?_ _
        exact fun gs loans hg => False.elim hg

/-- A transaction at rest that was refused nothing performed the operations it was put to, with their outcomes. -/
theorem Recorded.performed {policy : Policy} {strict : Prop} {b : Logbook} (h : Recorded (Rules.desk policy strict) b)
    {k : Nat} {x : Transaction} (hx : b.traffic.opened k = some x) (hd : x.doing = none) (hr : x.refused = false) :
    ∃ os as, Performed policy os as (b.pages k) := by
  obtain ⟨os, as, ds, es, hes, hdone, hnone, -⟩ := h.accounts hx hr
  rw [hnone hd, List.append_nil] at hes
  exact ⟨os, as, hes ▸ hdone⟩

end Circulation
