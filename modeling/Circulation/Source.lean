import Circulation.Procedure

/-!
# Sources of transactions

Work that manages its own transactions takes them from a `Source`: a ledger, a database, or either of them rehearsed.
`Source.perform` is the whole life of one: a procedure is carried out, and the transaction is committed if the
procedure has a result, dropped if it was refused, and left behind if it overflowed.
-/

namespace Circulation

/-- What transactions come from: a clock, and the beginning, the requests and the end of transactions. All of them may
change the state of the source. -/
structure Source (σ τ : Type) where
  now : σ → Instant × σ
  begin : σ → Except Stop τ × σ
  answer : (q : Request) → τ × σ → Except Stop q.Answer × (τ × σ)
  commit : τ → σ → Except Stop Unit × σ
  drop : τ → σ → σ
  leave : τ → σ → σ

namespace Source

variable {σ τ α : Type}

/-- The store that an open transaction of a source is. -/
def store (source : Source σ τ) : Store (τ × σ) where
  now s :=
    let (t, rest) := source.now s.2
    (t, (s.1, rest))
  answer := source.answer

/-- Carries out a procedure in a transaction of its own. -/
def perform (source : Source σ τ) (p : Procedure α) (s : σ) : Except Stop α × σ :=
  match source.begin s with
  | (.error why, s) => (.error why, s)
  | (.ok t, s) =>
    match p.run source.store (t, s) with
    | (.error (.refused why), (t, s)) => (.error (.refused why), source.drop t s)
    | (.error (.overflowed what), (t, s)) => (.error (.overflowed what), source.leave t s)
    | (.ok a, (t, s)) =>
      match source.commit t s with
      | (.ok (), s) => (.ok a, s)
      | (.error why, s) => (.error why, s)

end Source

end Circulation
