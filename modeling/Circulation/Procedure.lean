import Circulation.Request

/-!
# Procedures

What the desk does is a procedure: a tree of clock readings and requests, each followed by what is done with its
answer. A procedure says nothing about the store that answers. `Procedure.run` carries it out on any `Store`, and a
stop, its own or the store's, ends it.
-/

namespace Circulation

/-- Something the desk does inside one transaction, with a result of type `α`. -/
inductive Procedure (α : Type) where
  /-- Ends with a result. -/
  | done (a : α)
  /-- Ends without one. -/
  | stop (why : Stop)
  /-- Reads the clock. -/
  | clock (next : Instant → Procedure α)
  /-- Puts a request to the transaction. -/
  | ask (q : Request) (next : q.Answer → Procedure α)

namespace Procedure

variable {α β : Type}

/-- One procedure after another, the second made from the result of the first. -/
def bind : Procedure α → (α → Procedure β) → Procedure β
  | .done a, f => f a
  | .stop why, _ => .stop why
  | .clock next, f => .clock fun t => (next t).bind f
  | .ask q next, f => .ask q fun a => (next a).bind f

instance : Monad Procedure where
  pure := .done
  bind := bind

/-- Going on with nothing changes nothing. -/
theorem bind_done (p : Procedure α) : p.bind .done = p := by
  induction p with
  | done a => rfl
  | stop why => rfl
  | clock next ih => exact congrArg clock (funext ih)
  | ask q next ih => exact congrArg (ask q) (funext ih)

/-- Of three procedures one after another it does not matter which two are put together first. -/
theorem bind_assoc {γ : Type} (p : Procedure α) (f : α → Procedure β) (g : β → Procedure γ) :
    (p.bind f).bind g = p.bind fun a => (f a).bind g := by
  induction p with
  | done a => rfl
  | stop why => rfl
  | clock next ih => exact congrArg clock (funext ih)
  | ask q next ih => exact congrArg (ask q) (funext ih)

instance : LawfulMonad Procedure :=
  LawfulMonad.mk' Procedure bind_done (fun _ _ => rfl) bind_assoc

/-- Reads the clock. -/
def now : Procedure Instant :=
  .clock .done

/-- Puts a request and gives its answer. -/
def request (q : Request) : Procedure q.Answer :=
  .ask q .done

/-- Refuses to go on. -/
def refuse (why : Refusal) : Procedure α :=
  .stop (.refused why)

/-- Takes the result of arithmetic, if it is in range. -/
def checked : Except Overflow α → Procedure α
  | .ok a => .done a
  | .error what => .stop (.overflowed what)

/-- Takes what is there, or refuses for want of it. -/
def require (a : Option α) (why : Refusal) : Procedure α :=
  match a with
  | some a => .done a
  | none => refuse why

/-- Goes on only if a condition holds. -/
def ensure (condition : Bool) (why : Refusal) : Procedure Unit :=
  if condition then .done () else refuse why

/-- Goes on with a result only if it can be written. -/
def writable (ok : α → Bool) (a : α) : Procedure α :=
  if ok a then .done a else .stop (.overflowed .text)

end Procedure

/-- What procedures run on: it tells the time and answers requests, and both may change its state. -/
structure Store (σ : Type) where
  now : σ → Instant × σ
  answer : (q : Request) → σ → Except Stop q.Answer × σ

namespace Procedure

variable {α β σ : Type}

/-- Carries out a procedure on a store. -/
def run (store : Store σ) : Procedure α → σ → Except Stop α × σ
  | .done a, s => (.ok a, s)
  | .stop why, s => (.error why, s)
  | .clock next, s =>
    let (t, s) := store.now s
    (next t).run store s
  | .ask q next, s =>
    match store.answer q s with
    | (.ok a, s) => (next a).run store s
    | (.error why, s) => (.error why, s)

@[simp]
theorem pure_eq (a : α) : (pure a : Procedure α) = .done a := rfl

@[simp]
theorem bind_eq (p : Procedure α) (f : α → Procedure β) : p >>= f = p.bind f := rfl

@[simp]
theorem run_done (store : Store σ) (a : α) (s : σ) : (Procedure.done a).run store s = (.ok a, s) := rfl

@[simp]
theorem run_stop (store : Store σ) (why : Stop) (s : σ) :
    (Procedure.stop why : Procedure α).run store s = (.error why, s) := rfl

/-- A single request is answered by the store. -/
theorem run_request (store : Store σ) (q : Request) (s : σ) : (request q).run store s = store.answer q s := by
  simp only [request, run]
  split
  · rename_i h
    exact h.symm
  · rename_i h
    exact h.symm

/-- A procedure followed by another runs as the one and then, if it had a result, as the other. -/
theorem run_bind (store : Store σ) (p : Procedure α) (f : α → Procedure β) (s : σ) :
    (p.bind f).run store s =
      match p.run store s with
      | (.ok a, s) => (f a).run store s
      | (.error why, s) => (.error why, s) := by
  induction p generalizing s with
  | done a => rfl
  | stop why => rfl
  | clock next ih => exact ih _ _
  | ask q next ih =>
    simp only [bind, run]
    split
    · exact ih _ _
    · rfl

end Procedure

end Circulation
