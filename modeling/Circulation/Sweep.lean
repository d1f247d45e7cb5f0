import Circulation.Desk
import Circulation.Source

/-!
# The sweep of expired holds

A hold that has expired stands until it is swept. One sweep reads a batch of expired holds in a transaction of its own
and cancels each of them in a further one. A hold that someone else closed in the meantime is skipped, one whose
cancellation fails otherwise is counted as failed, and the sweep goes on. It runs on any `Source` of transactions.
-/

namespace Circulation

/-- What became of the holds of one sweep. -/
structure SweepReport where
  expired : Nat := 0
  cancelled : Nat := 0
  skipped : Nat := 0
  failed : Nat := 0
  deriving DecidableEq, Repr, Inhabited

/-- What became of one hold. -/
inductive Fate where
  | cancelled
  | skipped
  | failed
  deriving DecidableEq, Repr

/-- A hold is skipped when it turns out to be closed or gone; any other refusal is a failure. -/
def Fate.ofRefusal : Refusal → Fate
  | .invalidState _ => .skipped
  | .conflict _ => .skipped
  | .notFound _ => .skipped
  | _ => .failed

/-- The report with one more hold. -/
def SweepReport.count (r : SweepReport) : Fate → SweepReport
  | .cancelled => { r with cancelled := r.cancelled + 1 }
  | .skipped => { r with skipped := r.skipped + 1 }
  | .failed => { r with failed := r.failed + 1 }

namespace Sweep

variable {σ τ : Type}

/-- The fate of a hold whose cancellation or commit ended so; an overflow ends the sweep. -/
def fateOf {α : Type} : Except Stop α → Except Stop Fate
  | .ok _ => .ok .cancelled
  | .error (.refused why) => .ok (.ofRefusal why)
  | .error (.overflowed what) => .error (.overflowed what)

/-- Cancels one hold in a transaction of its own, which is committed only if the cancellation went through. -/
def cancelOne (source : Source σ τ) (reservationId : Int) (s : σ) : Except Stop Fate × σ :=
  match source.begin s with
  | (.error why, s) => (.error why, s)
  | (.ok t, s) =>
    match (Desk.cancelReservation reservationId).run source.store (t, s) with
    | (.ok _, (t, s)) =>
      let (ended, s) := source.commit t s
      (fateOf ended, s)
    | (.error why, (t, s)) => (fateOf (.error why : Except Stop Unit), source.drop t s)

/-- Cancels some holds one after the other. -/
def cancelAll (source : Source σ τ) : List Reservation → SweepReport → σ → Except Stop SweepReport × σ
  | [], report, s => (.ok report, s)
  | hold :: holds, report, s =>
    match cancelOne source hold.id s with
    | (.ok fate, s) => cancelAll source holds (report.count fate) s
    | (.error why, s) => (.error why, s)

/-- Reads the holds that have expired, a batch at most. The transaction it reads in is dropped. -/
def scan (source : Source σ τ) (batch : Int) (s : σ) : Except Stop (List Reservation) × σ :=
  let (now, s) := source.now s
  match source.begin s with
  | (.error why, s) => (.error why, s)
  | (.ok t, s) =>
    let (found, (t, s)) := (Holds.expired now batch).run source.store (t, s)
    (found, source.drop t s)

/-- Sweeps once. -/
def once (source : Source σ τ) (batch : Int) (s : σ) : Except Stop SweepReport × σ :=
  match scan source batch s with
  | (.error why, s) => (.error why, s)
  | (.ok holds, s) => cancelAll source holds { expired := holds.length } s

end Sweep

end Circulation
