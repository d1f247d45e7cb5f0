import Circulation.Proofs.Conduct
import Circulation.Proofs.Sweeping

/-!
# What a sweep accounts for

The report of a sweep is all that is seen of it. `Source.noting` is any source with a log of what it was told: the transactions
that began, numbered from zero, the deeds in them, and how each was ended. To keep the log does not disturb the sweep, and the
report of a sweep is what its log tells (`sweep_tallies`): one transaction for the scan, which is dropped, and one for each hold
that was read, which is committed exactly if the cancellation in it had a result.
-/

namespace Circulation

variable {σ τ : Type}

/-- Something that a source was told. -/
inductive SourceEvent where
  | began (n : Nat)
  | notBegun (why : Stop)
  | did (e : Deed)
  | committed (n : Nat) (ended : Except Stop Unit)
  | dropped (n : Nat)
  | left (n : Nat)

namespace SourceEvent

/-- Whether a transaction began. -/
def begins : SourceEvent → Bool
  | .began _ => true
  | _ => false

/-- Whether a commit went through. -/
def commits : SourceEvent → Bool
  | .committed _ (.ok _) => true
  | _ => false

end SourceEvent

/-- The source that notes, beside its state, what it was told. -/
def Source.noting (source : Source σ τ) : Source (σ × List SourceEvent) (Nat × τ) where
  now s := ((source.now s.1).1, (source.now s.1).2, s.2 ++ [.did (.read (source.now s.1).1)])
  begin s :=
    match source.begin s.1 with
    | (.ok t, rest) => (.ok (s.2.countP SourceEvent.begins, t), rest, s.2 ++ [.began (s.2.countP SourceEvent.begins)])
    | (.error why, rest) => (.error why, rest, s.2 ++ [.notBegun why])
  answer q s :=
    ((source.answer q (s.1.2, s.2.1)).1, (s.1.1, (source.answer q (s.1.2, s.2.1)).2.1),
      (source.answer q (s.1.2, s.2.1)).2.2, s.2.2 ++ [.did (.asked q (source.answer q (s.1.2, s.2.1)).1)])
  commit t s := ((source.commit t.2 s.1).1, (source.commit t.2 s.1).2, s.2 ++ [.committed t.1 (source.commit t.2 s.1).1])
  drop t s := (source.drop t.2 s.1, s.2 ++ [.dropped t.1])
  leave t s := (source.leave t.2 s.1, s.2 ++ [.left t.1])

section

variable (source : Source σ τ) (s : σ) (log : List SourceEvent) (n : Nat) (t : τ)

/-- A transaction that begins is noted, with the number of those before it. -/
theorem Source.noting_begin_ok {t : τ} {s' : σ} (h : source.begin s = (.ok t, s')) : source.noting.begin (s, log) =
    (.ok (log.countP SourceEvent.begins, t), s', log ++ [.began (log.countP SourceEvent.begins)]) := by
  simp only [noting, h]

/-- A transaction that does not begin is noted with the reason. -/
theorem Source.noting_begin_error {why : Stop} {s' : σ} (h : source.begin s = (.error why, s')) :
    source.noting.begin (s, log) = (.error why, s', log ++ [.notBegun why]) := by
  simp only [noting, h]

/-- A commit is noted with how it ended. -/
theorem Source.noting_commit : source.noting.commit (n, t) (s, log) =
    ((source.commit t s).1, (source.commit t s).2, log ++ [.committed n (source.commit t s).1]) := rfl

/-- A transaction that is dropped is noted. -/
theorem Source.noting_drop : source.noting.drop (n, t) (s, log) = (source.drop t s, log ++ [.dropped n]) := rfl

end

/-- A source is not disturbed by noting what it was told in the course of a procedure, which are deeds of the procedure. -/
theorem Procedure.run_source_noting {α : Type} (source : Source σ τ) (p : Procedure α) (n : Nat) (t : τ) (s : σ)
    (log : List SourceEvent) : ∃ ds, p.Does ds (p.run source.store (t, s)).1 ∧
      p.run source.noting.store ((n, t), s, log) =
        ((p.run source.store (t, s)).1, (n, (p.run source.store (t, s)).2.1), (p.run source.store (t, s)).2.2,
          log ++ ds.map .did) := by
  induction p generalizing t s log with
  | done a => exact ⟨[], ⟨rfl, rfl⟩, by simp [run]⟩
  | stop why => exact ⟨[], ⟨rfl, rfl⟩, by simp [run]⟩
  | clock next ih =>
    obtain ⟨ds, hdoes, hrun⟩ := ih (source.now s).1 t (source.now s).2 (log ++ [.did (.read (source.now s).1)])
    refine ⟨.read (source.now s).1 :: ds, ⟨_, ds, rfl, hdoes⟩, ?_⟩
    rw [List.append_assoc] at hrun
    exact hrun
  | ask q next ih =>
    simp only [run, Source.store, Source.noting]
    rcases source.answer q (t, s) with ⟨why | a, t', s'⟩
    · exact ⟨[.asked q (.error why)], .inr ⟨why, rfl, rfl⟩, rfl⟩
    · obtain ⟨ds, hdoes, hrun⟩ := ih a t' s' (log ++ [.did (.asked q (.ok a))])
      refine ⟨.asked q (.ok a) :: ds, .inl ⟨a, ds, rfl, hdoes⟩, ?_⟩
      rw [List.append_assoc] at hrun
      exact hrun

/-! ## One hold -/

/-- The attempt to cancel a hold in a transaction of its own: the number of the transaction, what was done in it and what came of
it, and how its commit ended if there was one. -/
structure Attempt where
  hold : Reservation
  number : Nat
  deeds : List Deed
  result : Except Stop Reservation
  ended : Option (Except Stop Unit)

namespace Attempt

/-- Whether the hold was cancelled and the cancellation committed. -/
def succeeded (a : Attempt) : Bool :=
  match a.ended with
  | some (.ok _) => true
  | _ => false

/-- What a source is told by an attempt. -/
def events (a : Attempt) : List SourceEvent :=
  .began a.number :: a.deeds.map .did ++
    [match a.ended with
      | some ended => .committed a.number ended
      | none => .dropped a.number]

/-- Whether an attempt did what cancels its hold, and asked to commit exactly if that had a result. -/
structure Proper (a : Attempt) : Prop where
  does : (Desk.cancelReservation a.hold.id).Does a.deeds a.result
  committed : a.ended.isSome = true ↔ ∃ r, a.result = .ok r

/-- An attempt begins one transaction. -/
theorem events_begins (a : Attempt) : a.events.countP SourceEvent.begins = 1 := by
  have hdeeds : (a.deeds.map SourceEvent.did).countP SourceEvent.begins = 0 := by
    simp [List.countP_eq_zero, SourceEvent.begins]
  unfold events
  cases a.ended <;> simp [List.countP_cons, hdeeds, SourceEvent.begins]

/-- An attempt commits once if it succeeded, and otherwise not at all. -/
theorem events_commits (a : Attempt) : a.events.countP SourceEvent.commits = if a.succeeded then 1 else 0 := by
  have hdeeds : (a.deeds.map SourceEvent.did).countP SourceEvent.commits = 0 := by
    simp [List.countP_eq_zero, SourceEvent.commits]
  unfold events succeeded
  rcases a.ended with - | (why | ⟨⟩) <;> simp [List.countP_cons, hdeeds, SourceEvent.commits]

/-- The source is told of a commit by an attempt that asked for one, under the number of its transaction. -/
theorem committed_mem_events {a : Attempt} {n : Nat} {ended : Except Stop Unit} :
    .committed n ended ∈ a.events ↔ a.number = n ∧ a.ended = some ended := by
  unfold events
  rcases a.ended with - | ended' <;> simp [eq_comm]

/-- In the log of some attempts a commit is asked for exactly where the cancellation had a result. -/
theorem committed_iff {attempts : List Attempt} (h : ∀ a ∈ attempts, a.Proper) {n : Nat} :
    (∃ ended, .committed n ended ∈ attempts.flatMap events) ↔ ∃ a ∈ attempts, a.number = n ∧ ∃ r, a.result = .ok r := by
  simp only [List.mem_flatMap, committed_mem_events]
  constructor
  · rintro ⟨ended, a, ha, hn, hended⟩
    exact ⟨a, ha, hn, (h a ha).committed.1 (by simp [hended])⟩
  · rintro ⟨a, ha, hn, hr⟩
    obtain ⟨ended, hended⟩ := Option.isSome_iff_exists.1 ((h a ha).committed.2 hr)
    exact ⟨ended, a, ha, hn, hended⟩

/-- In the log of some attempts a transaction begins for each. -/
theorem flatMap_begins (attempts : List Attempt) :
    (attempts.flatMap events).countP SourceEvent.begins = attempts.length := by
  induction attempts with
  | nil => rfl
  | cons a attempts ih => rw [List.flatMap_cons, List.countP_append, events_begins, ih, List.length_cons, Nat.add_comm]

/-- In the log of some attempts a commit goes through for each that succeeded. -/
theorem flatMap_commits (attempts : List Attempt) :
    (attempts.flatMap events).countP SourceEvent.commits = attempts.countP succeeded := by
  induction attempts with
  | nil => rfl
  | cons a attempts ih => rw [List.flatMap_cons, List.countP_append, events_commits, ih, List.countP_cons, Nat.add_comm]

end Attempt

/-- A hold is cancelled when what was asked last of its transaction had a result. -/
theorem Sweep.fateOf_cancelled_iff {α : Type} {ended : Except Stop α} {fate : Fate} (h : fateOf ended = .ok fate) :
    fate = .cancelled ↔ ∃ a, ended = .ok a := by
  rcases ended with (why | what) | a
  · cases h
    cases why <;> simp [Fate.ofRefusal]
  · cases h
  · cases h
    simp

variable (source : Source σ τ)

/-- The log of one hold: an attempt of it, if that has a fate. -/
theorem cancelOne_noting (hold : Reservation) (s : σ) (log : List SourceEvent) : ∃ es,
    Sweep.cancelOne source.noting hold.id (s, log) =
      ((Sweep.cancelOne source hold.id s).1, (Sweep.cancelOne source hold.id s).2, log ++ es) ∧
    ∀ fate, (Sweep.cancelOne source hold.id s).1 = .ok fate → ∃ a : Attempt, a.Proper ∧ es = a.events ∧ a.hold = hold ∧
      a.number = log.countP SourceEvent.begins ∧ (fate = .cancelled ↔ a.succeeded = true) := by
  generalize hn : log.countP SourceEvent.begins = n
  rcases hbegin : source.begin s with ⟨why | t, s₁⟩
  · simp only [Sweep.cancelOne, hbegin, source.noting_begin_error s log hbegin]
    refine ⟨[.notBegun why], rfl, fun fate hfate => ?_⟩
    cases hfate
  · have hnoted := source.noting_begin_ok s log hbegin
    rw [hn] at hnoted
    obtain ⟨ds, hdoes, hrun⟩ := Procedure.run_source_noting source (Desk.cancelReservation hold.id) n t s₁ (log ++ [.began n])
    rcases hcancel : (Desk.cancelReservation hold.id).run source.store (t, s₁) with ⟨why | r, t', s₂⟩
    · simp only [hcancel] at hdoes hrun
      simp only [Sweep.cancelOne, hbegin, hnoted, hrun, hcancel, Source.noting_drop]
      refine ⟨.began n :: ds.map .did ++ [.dropped n], by simp, fun fate hfate => ?_⟩
      refine ⟨⟨hold, n, ds, .error why, none⟩, ⟨hdoes, by simp⟩, rfl, rfl, rfl, ?_⟩
      simp [Sweep.fateOf_cancelled_iff hfate, Attempt.succeeded]
    · simp only [hcancel] at hdoes hrun
      simp only [Sweep.cancelOne, hbegin, hnoted, hrun, hcancel, Source.noting_commit]
      refine ⟨.began n :: ds.map .did ++ [.committed n (source.commit t' s₂).1], by simp, fun fate hfate => ?_⟩
      refine ⟨⟨hold, n, ds, .ok r, some (source.commit t' s₂).1⟩, ⟨hdoes, by simp⟩, rfl, rfl, rfl, ?_⟩
      rw [Sweep.fateOf_cancelled_iff hfate, Attempt.succeeded]
      rcases (source.commit t' s₂).1 with why | ⟨⟩ <;> simp

/-! ## All of them -/

/-- The report with one more hold, as far as the sum of the fates goes. -/
theorem SweepReport.count_sum (report : SweepReport) (fate : Fate) :
    (report.count fate).cancelled + (report.count fate).skipped + (report.count fate).failed =
      report.cancelled + report.skipped + report.failed + 1 := by
  cases fate <;> simp only [count] <;> omega

/-- Counting a fate adds to the cancelled ones when it is one. -/
theorem SweepReport.count_cancelled (report : SweepReport) (fate : Fate) :
    (report.count fate).cancelled = report.cancelled + if fate = .cancelled then 1 else 0 := by
  cases fate <;> rfl

/-- Counting a fate does not change how many had expired. -/
theorem SweepReport.count_expired (report : SweepReport) (fate : Fate) : (report.count fate).expired = report.expired := by
  cases fate <;> rfl

/-- The log of some holds: an attempt of each, in transactions numbered on, if a report comes out; and the report counts them. -/
theorem cancelAll_noting (holds : List Reservation) (report : SweepReport) (s : σ) (log : List SourceEvent) : ∃ es,
    Sweep.cancelAll source.noting holds report (s, log) =
      ((Sweep.cancelAll source holds report s).1, (Sweep.cancelAll source holds report s).2, log ++ es) ∧
    ∀ report', (Sweep.cancelAll source holds report s).1 = .ok report' → ∃ attempts : List Attempt,
      (∀ a ∈ attempts, a.Proper) ∧ es = attempts.flatMap Attempt.events ∧ attempts.map (·.hold) = holds ∧
      attempts.map (·.number) = List.range' (log.countP SourceEvent.begins) holds.length ∧
      report'.expired = report.expired ∧ report'.cancelled = report.cancelled + attempts.countP Attempt.succeeded ∧
      report'.cancelled + report'.skipped + report'.failed =
        report.cancelled + report.skipped + report.failed + holds.length := by
  induction holds generalizing report s log with
  | nil =>
    refine ⟨[], by simp [Sweep.cancelAll], fun report' h => ⟨[], ?_⟩⟩
    cases h
    simp
  | cons hold holds ih =>
    obtain ⟨es, hone, hattempt⟩ := cancelOne_noting source hold s log
    simp only [Sweep.cancelAll]
    rcases hfate : Sweep.cancelOne source hold.id s with ⟨why | fate, s₁⟩
    · rw [hfate] at hone
      rw [hone]
      refine ⟨es, rfl, fun report' h => ?_⟩
      cases h
    · rw [hfate] at hone
      rw [hone]
      obtain ⟨a, ha, rfl, rfl, hnumber, hcancelled⟩ := hattempt fate (congrArg Prod.fst hfate)
      obtain ⟨rest, hall, hattempts⟩ := ih (report.count fate) s₁ (log ++ a.events)
      rw [List.append_assoc] at hall
      refine ⟨a.events ++ rest, hall, fun report' h => ?_⟩
      obtain ⟨attempts, hproper, rfl, rfl, hnumbers, hexpired, hcount, hsum⟩ := hattempts report' h
      rw [List.countP_append, a.events_begins] at hnumbers
      refine ⟨a :: attempts, List.forall_mem_cons.2 ⟨ha, hproper⟩, rfl, rfl, ?_, ?_, ?_, ?_⟩
      · rw [List.map_cons, hnumbers, hnumber]
        rfl
      · rw [hexpired, report.count_expired]
      · rw [hcount, report.count_cancelled, List.countP_cons, if_congr hcancelled rfl rfl]
        omega
      · rw [hsum, report.count_sum, List.length_cons]
        omega

/-! ## The sweep -/

/-- The log of a scan: its transaction is dropped once the holds are read, if they are. -/
theorem scan_noting (batch : Int) (s : σ) (log : List SourceEvent) : ∃ es,
    Sweep.scan source.noting batch (s, log) =
      ((Sweep.scan source batch s).1, (Sweep.scan source batch s).2, log ++ es) ∧
    ∀ holds, (Sweep.scan source batch s).1 = .ok holds → es =
      [ .did (.read (source.now s).1), .began (log.countP SourceEvent.begins),
        .did (.asked (.listReservations { expiredAt := some (source.now s).1 } { Window.ascending with limit := some batch })
          (.ok holds)),
        .dropped (log.countP SourceEvent.begins) ] := by
  rcases hnow : source.now s with ⟨now, s₀⟩
  have hnoted : source.noting.now (s, log) = (now, s₀, log ++ [.did (.read now)]) := by
    simp only [Source.noting, hnow]
  have hbegins : (log ++ [SourceEvent.did (.read now)]).countP SourceEvent.begins = log.countP SourceEvent.begins := by
    simp [SourceEvent.begins]
  generalize log.countP SourceEvent.begins = n at hbegins ⊢
  rcases hbegin : source.begin s₀ with ⟨why | t, s₁⟩
  · simp only [Sweep.scan, hnow, hnoted, hbegin, source.noting_begin_error _ _ hbegin]
    refine ⟨_, congrArg _ (congrArg _ (List.append_assoc ..)), fun holds h => ?_⟩
    cases h
  · have hbegun := source.noting_begin_ok s₀ (log ++ [.did (.read now)]) hbegin
    rw [hbegins] at hbegun
    obtain ⟨ds, hdoes, hrun⟩ := Procedure.run_source_noting source (Holds.expired now batch) n t s₁
      (log ++ [.did (.read now)] ++ [.began n])
    rcases hfound : (Holds.expired now batch).run source.store (t, s₁) with ⟨found, t', s₂⟩
    simp only [hfound] at hdoes hrun
    simp only [Sweep.scan, hnow, hnoted, hbegin, hbegun, hfound, hrun, Source.noting_drop]
    refine ⟨.did (.read now) :: .began n :: (ds.map .did ++ [.dropped n]), by simp, ?_⟩
    rintro holds rfl
    obtain rfl := Procedure.tells_request.1 (Procedure.does_ok_iff.1 hdoes)
    rfl

/-- On any source, and whatever the source answers, the report of a sweep is what its log tells, and to keep the log does not
disturb the sweep. The first transaction is that of the scan; it is dropped, and as many holds have expired as it was answered.
After it one transaction began for each of these holds, in which the hold was to be cancelled; a commit of it was asked for exactly
if the cancellation had a result, and of no other. The holds cancelled are as many as the commits that went through, and those
that were not cancelled were skipped or failed. -/
theorem sweep_tallies (source : Source σ τ) (batch : Int) (s : σ) :
    (Sweep.once source.noting batch (s, [])).1 = (Sweep.once source batch s).1 ∧
    (Sweep.once source.noting batch (s, [])).2.1 = (Sweep.once source batch s).2 ∧
    ∀ report s' log, Sweep.once source.noting batch (s, []) = (.ok report, s', log) →
      ∃ now holds, ∃ attempts : List Attempt,
        log =
          [ .did (.read now), .began 0,
            .did (.asked (.listReservations { expiredAt := some now } { Window.ascending with limit := some batch })
              (.ok holds)),
            .dropped 0 ] ++ attempts.flatMap Attempt.events ∧
        attempts.map (·.hold) = holds ∧ attempts.map (·.number) = List.range' 1 holds.length ∧
        (∀ a ∈ attempts, a.Proper) ∧
        (∀ n, (∃ ended, .committed n ended ∈ log) ↔ ∃ a ∈ attempts, a.number = n ∧ ∃ r, a.result = .ok r) ∧
        (∀ ended, .committed 0 ended ∉ log) ∧
        report.expired = holds.length ∧ report.expired = report.cancelled + report.skipped + report.failed ∧
        log.countP SourceEvent.begins = report.expired + 1 ∧ log.countP SourceEvent.commits = report.cancelled := by
  obtain ⟨es, hscan, hread⟩ := scan_noting source batch s []
  unfold Sweep.once
  rcases hfound : Sweep.scan source batch s with ⟨why | holds, s₁⟩
  · rw [hfound] at hscan
    rw [hscan]
    exact ⟨rfl, rfl, fun report s' log h => nomatch h⟩
  · rw [hfound] at hscan
    obtain rfl := hread holds (congrArg Prod.fst hfound)
    rw [hscan, List.nil_append]
    obtain ⟨rest, hall, hattempts⟩ := cancelAll_noting source holds { expired := holds.length } s₁
      [ .did (.read (source.now s).1), .began 0,
        .did (.asked (.listReservations { expiredAt := some (source.now s).1 } { Window.ascending with limit := some batch })
          (.ok holds)),
        .dropped 0 ]
    refine ⟨congrArg Prod.fst hall, congrArg (·.2.1) hall, fun report s' log h => ?_⟩
    have heq := hall.symm.trans h
    obtain ⟨attempts, hproper, rfl, hholds, hnumbers, hexpired, hcancelled, hsum⟩ := hattempts report (congrArg Prod.fst heq)
    obtain rfl : _ = log := congrArg (·.2.2) heq
    have hlength : attempts.length = holds.length := by rw [← hholds, List.length_map]
    refine ⟨_, holds, attempts, rfl, hholds, hnumbers, hproper, fun n => ?_, fun ended hended => ?_, hexpired, ?_, ?_, ?_⟩
    · simpa using Attempt.committed_iff (n := n) hproper
    · obtain ⟨a, ha, hzero, -⟩ := (Attempt.committed_iff (n := 0) hproper).1 ⟨ended, by simpa using hended⟩
      have hnumber : a.number ∈ List.range' 1 holds.length := hnumbers ▸ List.mem_map_of_mem ha
      simp [hzero] at hnumber
    · rw [hexpired, hsum]
      simp
    · rw [List.countP_append, Attempt.flatMap_begins, hlength, hexpired]
      exact Nat.add_comm ..
    · rw [List.countP_append, Attempt.flatMap_commits, hcancelled]
      rfl

/-- A sweep in which the commit of the third transaction, the one for the second hold, fails. -/
def thirdUncommitted : Rehearsal.SweepPlan Unit where
  before _ s := ([], s)
  failBegin _ := none
  failCommit n := if n = 3 then some (.database .poolTimedOut) else none
  plan _ := []

/-- Of the two holds that had expired one is cancelled and the other failed, in three transactions of which one was committed. -/
theorem bothExpired_tallied : ∃ s' log,
    Sweep.once (Rehearsal.source thirdUncommitted).noting 10 (⟨bothExpired, 0, []⟩, []) = (.ok ⟨2, 1, 0, 1⟩, s', log) ∧
      log.countP SourceEvent.begins = 3 ∧ log.countP SourceEvent.commits = 1 ∧ ∀ ended, .committed 0 ended ∉ log := by
  obtain ⟨hresult, -, htally⟩ := sweep_tallies (Rehearsal.source thirdUncommitted) 10 ⟨bothExpired, 0, []⟩
  have hreport : (Sweep.once (Rehearsal.source thirdUncommitted) 10 ⟨bothExpired, 0, []⟩).1 = .ok ⟨2, 1, 0, 1⟩ := by cbv
  rcases hswept : Sweep.once (Rehearsal.source thirdUncommitted).noting 10 (⟨bothExpired, 0, []⟩, []) with ⟨report, s', log⟩
  rw [hswept, hreport] at hresult
  subst hresult
  obtain ⟨_, _, _, -, -, -, -, -, hscan, -, -, hbegins, hcommits⟩ := htally _ s' log hswept
  exact ⟨s', log, rfl, hbegins, hcommits, hscan⟩

end Circulation
