import Circulation.Session
import Mathlib

/-!
# The course of a sweep

What a sweep makes of any source of transactions, whatever the source answers. `Handles` is how one hold fares: it is
cancelled, or some refusal on the way, at a request or at the commit, makes it skipped or failed; `HandlesAll` is how all of
them fare in turn. A sweep has a result exactly if all the holds it read were handled, and is refused exactly if the scan
was, or if a transaction for one of the holds could not begin (`sweep_goes_on`). In that case the holds after it are not
attempted, and nothing is reported of those before it (`sweep_stops_at_begin`).
-/

namespace Circulation

variable {σ τ : Type}

/-- How one hold is handled on a source, with its fate. -/
inductive Handles (source : Source σ τ) (id : Int) (s : σ) : Fate → σ → Prop where
  | cancelled {t t' : τ} {s₁ s₂ s₃ : σ} {r : Reservation} : source.begin s = (.ok t, s₁) →
    (Desk.cancelReservation id).run source.store (t, s₁) = (.ok r, (t', s₂)) →
    source.commit t' s₂ = (.ok (), s₃) → Handles source id s .cancelled s₃
  | uncommitted {t t' : τ} {s₁ s₂ s₃ : σ} {r : Reservation} {why : Refusal} : source.begin s = (.ok t, s₁) →
    (Desk.cancelReservation id).run source.store (t, s₁) = (.ok r, (t', s₂)) →
    source.commit t' s₂ = (.error (.refused why), s₃) → Handles source id s (.ofRefusal why) s₃
  | refused {t t' : τ} {s₁ s₂ : σ} {why : Refusal} : source.begin s = (.ok t, s₁) →
    (Desk.cancelReservation id).run source.store (t, s₁) = (.error (.refused why), (t', s₂)) →
    Handles source id s (.ofRefusal why) (source.drop t' s₂)

/-- How some holds are handled one after the other, with their fates. -/
inductive HandlesAll (source : Source σ τ) : List Reservation → σ → List Fate → σ → Prop where
  | nil (s : σ) : HandlesAll source [] s [] s
  | cons {hold : Reservation} {holds : List Reservation} {fate : Fate} {fates : List Fate} {s s₁ s₂ : σ} :
    Handles source hold.id s fate s₁ → HandlesAll source holds s₁ fates s₂ →
    HandlesAll source (hold :: holds) s (fate :: fates) s₂

/-- How the scan is refused: its transaction does not begin, or its query is refused. -/
inductive ScanRefused (source : Source σ τ) (batch : Int) (s : σ) (why : Refusal) : σ → Prop where
  | begin {s' : σ} : source.begin (source.now s).2 = (.error (.refused why), s') → ScanRefused source batch s why s'
  | query {t t' : τ} {s₁ s₂ : σ} : source.begin (source.now s).2 = (.ok t, s₁) →
    (Holds.expired (source.now s).1 batch).run source.store (t, s₁) = (.error (.refused why), (t', s₂)) →
    ScanRefused source batch s why (source.drop t' s₂)

variable {source : Source σ τ} {id batch : Int} {s s' : σ} {why : Refusal}

/-! ## One hold -/

/-- A hold that is handled has the fate that the attempt to cancel it comes to. -/
theorem Handles.cancelOne {fate : Fate} (h : Handles source id s fate s') :
    Sweep.cancelOne source id s = (.ok fate, s') := by
  cases h with
  | cancelled hbegin hrun hcommit => simp only [Sweep.cancelOne, hbegin, hrun, hcommit, Sweep.fateOf]
  | uncommitted hbegin hrun hcommit => simp only [Sweep.cancelOne, hbegin, hrun, hcommit, Sweep.fateOf]
  | refused hbegin hrun => simp only [Sweep.cancelOne, hbegin, hrun, Sweep.fateOf]

/-- The transaction for a hold does not begin, or the hold is handled, or something overflows. -/
theorem cancelOne_cases (source : Source σ τ) (id : Int) (s : σ) :
    (∃ stop s', source.begin s = (.error stop, s') ∧ Sweep.cancelOne source id s = (.error stop, s')) ∨
      (∃ fate s', Handles source id s fate s') ∨ ∃ what s', Sweep.cancelOne source id s = (.error (.overflowed what), s') := by
  cases hbegin : source.begin s with
  | mk begun s₁ =>
    cases begun with
    | error stop => exact .inl ⟨stop, s₁, rfl, by simp only [Sweep.cancelOne, hbegin]⟩
    | ok t =>
      -- Once the transaction has begun, every refusal is a fate.
      right
      cases hrun : (Desk.cancelReservation id).run source.store (t, s₁) with
      | mk result rest =>
        obtain ⟨t', s₂⟩ := rest
        rcases result with (why | what) | r
        · exact .inl ⟨.ofRefusal why, source.drop t' s₂, .refused hbegin hrun⟩
        · exact .inr ⟨what, source.drop t' s₂, by simp only [Sweep.cancelOne, hbegin, hrun, Sweep.fateOf]⟩
        · cases hcommit : source.commit t' s₂ with
          | mk ended s₃ =>
            rcases ended with (why | what) | ⟨⟩
            · exact .inl ⟨.ofRefusal why, s₃, .uncommitted hbegin hrun hcommit⟩
            · exact .inr ⟨what, s₃, by simp only [Sweep.cancelOne, hbegin, hrun, hcommit, Sweep.fateOf]⟩
            · exact .inl ⟨.cancelled, s₃, .cancelled hbegin hrun hcommit⟩

/-- A hold has a fate exactly if it is handled. -/
theorem cancelOne_ok_iff {fate : Fate} : Sweep.cancelOne source id s = (.ok fate, s') ↔ Handles source id s fate s' := by
  constructor
  · intro h
    rcases cancelOne_cases source id s with ⟨stop, s₁, -, heq⟩ | ⟨fate', s₁, hone⟩ | ⟨what, s₁, heq⟩
    · cases h.symm.trans heq
    · cases h.symm.trans hone.cancelOne
      exact hone
    · cases h.symm.trans heq
  · exact Handles.cancelOne

/-- Only the beginning of its transaction refuses to handle a hold. -/
theorem cancelOne_refused_iff :
    Sweep.cancelOne source id s = (.error (.refused why), s') ↔ source.begin s = (.error (.refused why), s') := by
  constructor
  · intro h
    rcases cancelOne_cases source id s with ⟨stop, s₁, hbegin, heq⟩ | ⟨fate, s₁, hone⟩ | ⟨what, s₁, heq⟩
    · cases h.symm.trans heq
      exact hbegin
    · cases h.symm.trans hone.cancelOne
    · cases h.symm.trans heq
  · intro h
    simp only [Sweep.cancelOne, h]

/-! ## All of them -/

/-- The report with the holds of some fates. -/
def SweepReport.counting (report : SweepReport) (fates : List Fate) : SweepReport :=
  fates.foldl SweepReport.count report

/-- A report counts the holds of each fate. -/
theorem SweepReport.counting_eq (report : SweepReport) (fates : List Fate) : report.counting fates =
    ⟨report.expired, report.cancelled + fates.count .cancelled, report.skipped + fates.count .skipped,
      report.failed + fates.count .failed⟩ := by
  induction fates generalizing report with
  | nil => rfl
  | cons fate fates ih =>
    rw [counting, List.foldl_cons, ← counting, ih]
    cases fate <;> simp [count] <;> omega

/-- A report comes out exactly if all holds are handled. -/
theorem cancelAll_ok_iff {holds : List Reservation} {report report' : SweepReport} :
    Sweep.cancelAll source holds report s = (.ok report', s') ↔
      ∃ fates, HandlesAll source holds s fates s' ∧ report' = report.counting fates := by
  induction holds generalizing report s with
  | nil =>
    constructor
    · intro h
      cases h
      exact ⟨[], .nil _, rfl⟩
    · rintro ⟨fates, h, rfl⟩
      cases h
      rfl
  | cons hold holds ih =>
    constructor
    · intro h
      unfold Sweep.cancelAll at h
      split at h
      · rename_i fate s₁ hone
        obtain ⟨fates, hall, rfl⟩ := ih.1 h
        exact ⟨fate :: fates, .cons (cancelOne_ok_iff.1 hone) hall, rfl⟩
      · cases h
    · rintro ⟨fates, h, rfl⟩
      cases h with
      | cons hone hall =>
        simp only [Sweep.cancelAll, cancelOne_ok_iff.2 hone]
        exact ih.2 ⟨_, hall, rfl⟩

/-- The holds are refused exactly if some are handled and the transaction for the next does not begin. -/
theorem cancelAll_refused_iff {holds : List Reservation} {report : SweepReport} :
    Sweep.cancelAll source holds report s = (.error (.refused why), s') ↔
      ∃ before hold after fates s₁, holds = before ++ hold :: after ∧ HandlesAll source before s fates s₁ ∧
        source.begin s₁ = (.error (.refused why), s') := by
  induction holds generalizing report s with
  | nil =>
    constructor
    · intro h
      cases h
    · rintro ⟨before, hold, after, fates, s₁, h, -⟩
      simp at h
  | cons hold holds ih =>
    constructor
    · intro h
      unfold Sweep.cancelAll at h
      split at h
      · rename_i fate s₁ hone
        obtain ⟨before, next, after, fates, s₂, rfl, hall, hbegin⟩ := ih.1 h
        exact ⟨hold :: before, next, after, fate :: fates, s₂, rfl, .cons (cancelOne_ok_iff.1 hone) hall, hbegin⟩
      · rename_i stop s₁ hone
        cases h
        exact ⟨[], hold, holds, [], s, rfl, .nil s, cancelOne_refused_iff.1 hone⟩
    · rintro ⟨before, next, after, fates, s₁, heq, hall, hbegin⟩
      cases hall with
      | nil =>
        cases heq
        simp only [Sweep.cancelAll, cancelOne_refused_iff.2 hbegin]
      | cons hone hall =>
        cases heq
        simp only [Sweep.cancelAll, cancelOne_ok_iff.2 hone]
        exact ih.2 ⟨_, next, after, _, s₁, rfl, hall, hbegin⟩

/-! ## The scan -/

/-- A scan is refused when its transaction does not begin or its query is refused. -/
theorem scan_refused_iff :
    Sweep.scan source batch s = (.error (.refused why), s') ↔ ScanRefused source batch s why s' := by
  constructor
  · intro h
    simp only [Sweep.scan] at h
    split at h
    · rename_i hbegin
      cases h
      exact .begin hbegin
    · rename_i t s₁ hbegin
      cases hrun : (Holds.expired (source.now s).1 batch).run source.store (t, s₁) with
      | mk found rest =>
        obtain ⟨t', s₂⟩ := rest
        rw [hrun] at h
        cases h
        exact .query hbegin hrun
  · intro h
    cases h with
    | begin hbegin => simp only [Sweep.scan, hbegin]
    | query hbegin hrun => simp only [Sweep.scan, hbegin, hrun]

/-! ## The sweep -/

/-- On any source, a sweep has a result exactly if every hold that was read is handled: whatever is refused once its
transaction has begun makes the hold skipped or failed, and the sweep goes on to the next. It is refused exactly if the
scan is, or if after some of the holds the transaction for the next one does not begin. -/
theorem sweep_goes_on (source : Source σ τ) (batch : Int) (s s' : σ) :
    (∀ report, Sweep.once source batch s = (.ok report, s') ↔
      ∃ holds fates s₁, Sweep.scan source batch s = (.ok holds, s₁) ∧ HandlesAll source holds s₁ fates s' ∧
        report = ⟨holds.length, fates.count .cancelled, fates.count .skipped, fates.count .failed⟩) ∧
      ∀ why, Sweep.once source batch s = (.error (.refused why), s') ↔
        ScanRefused source batch s why s' ∨
          ∃ before hold after fates s₁ s₂, Sweep.scan source batch s = (.ok (before ++ hold :: after), s₁) ∧
            HandlesAll source before s₁ fates s₂ ∧ source.begin s₂ = (.error (.refused why), s') := by
  unfold Sweep.once
  cases hscan : Sweep.scan source batch s with
  | mk found s₁ =>
    cases found with
    | ok holds =>
      refine ⟨fun report => ?_, fun why => ?_⟩
      · simp only [cancelAll_ok_iff, SweepReport.counting_eq, Nat.zero_add]
        constructor
        · rintro ⟨fates, hall, rfl⟩
          exact ⟨holds, fates, s₁, rfl, hall, rfl⟩
        · rintro ⟨holds', fates, s₁', heq, hall, rfl⟩
          cases heq
          exact ⟨fates, hall, rfl⟩
      · simp only [cancelAll_refused_iff]
        constructor
        · rintro ⟨before, hold, after, fates, s₂, rfl, hall, hbegin⟩
          exact .inr ⟨before, hold, after, fates, s₁, s₂, rfl, hall, hbegin⟩
        · rintro (hrefused | ⟨before, hold, after, fates, s₁', s₂, heq, hall, hbegin⟩)
          · rw [scan_refused_iff.2 hrefused] at hscan
            cases hscan
          · cases heq
            exact ⟨before, hold, after, fates, s₂, rfl, hall, hbegin⟩
    | error stop =>
      refine ⟨fun report => ?_, fun why => ?_⟩
      · constructor
        · intro h
          cases h
        · rintro ⟨holds, fates, s₁', heq, -⟩
          cases heq
      · rw [← scan_refused_iff, hscan]
        constructor
        · intro h
          cases h
          exact .inl rfl
        · rintro (h | ⟨before, hold, after, fates, s₁', s₂, heq, -⟩)
          · cases h
            rfl
          · cases heq

/-- A desk a month after two copies were held. -/
def bothExpired : Session :=
  let s : Session := { clock := .epoch }
  let s := (((s.addBook "Emma").2.addUser "ann").2.addUser "ben").2
  let s := (s.transact [] (Desk.addCopies 1 2)).2
  let s := ((s.transact [] (Desk.reserve {} 4 2)).2.transact [] (Desk.reserve {} 5 3)).2
  { s with clock := (Instant.epoch.add? ⟨30 * Span.day⟩).getD .epoch }

/-- A sweep in which the second transaction, the one for the first hold, does not begin. -/
def secondFails : Rehearsal.SweepPlan Unit where
  before _ s := ([], s)
  failBegin n := if n = 2 then some (.database .poolTimedOut) else none
  failCommit _ := none
  plan _ := []

/-- The failure to begin is the answer of the sweep, and the hold after it is still pending. -/
theorem sweep_stops_at_begin :
    (Sweep.once (Rehearsal.source secondFails) 10 ⟨bothExpired, 0, []⟩).1 = .error (.refused (.database .poolTimedOut)) ∧
      ((Sweep.once (Rehearsal.source secondFails) 10 ⟨bothExpired, 0, []⟩).2.session.ledger.tables.reservations.get? 7).map
        (·.isPending) = some true :=
  ⟨by cbv, by cbv⟩

end Circulation
