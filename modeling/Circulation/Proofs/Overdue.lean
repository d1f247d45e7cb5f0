import Circulation.Overdue

/-!
# When a return is late

Outside leap seconds the order of two instants and the span between them say the same (`Instant.since_pos_iff`), so
there is something to charge exactly for a return after the due date (`Overdue.charge_eq_none_iff`).
-/

namespace Circulation

/-- An instant that is not at or before another is after it. -/
theorem Instant.not_le {t u : Instant} : ¬t ≤ u ↔ u < t :=
  Int.not_le

/-- The span between two instants outside leap seconds. -/
theorem Instant.since_eq {t u : Instant} (ht : t.isLeap = false) (hu : u.isLeap = false) :
    (u.since t).nanos = (u.second - t.second) * Span.second + (u.nano - t.nano) := by
  simp only [since, leapBetween, ht, hu, Bool.false_eq_true, and_false, if_false, Int.add_zero]

/-- Outside leap seconds an instant is later than another exactly if the span to it is positive. -/
theorem Instant.since_pos_iff {t u : Instant} (ht : t.isLeap = false) (hu : u.isLeap = false) :
    0 < (u.since t).nanos ↔ t < u := by
  rw [since_eq ht hu, lt_iff_rank_lt]
  simp only [isLeap, decide_eq_false_iff_not] at ht hu
  simp only [rank, Span.second]
  omega

namespace Overdue

variable {due returned : Instant}

/-- A return after the due date is at least a day late. -/
theorem days_pos (hd : due.isLeap = false) (hr : returned.isLeap = false) (h : due < returned) :
    0 < days due returned := by
  have hpos := (Instant.since_pos_iff hd hr).2 h
  have hnot : ¬returned ≤ due := Instant.not_le.2 h
  simp only [days, if_neg hnot]
  have hwhole : 0 ≤ (returned.since due).nanos.tdiv Span.day := Int.tdiv_nonneg (by omega) (by decide)
  split
  · omega
  · rename_i hge
    -- The elapsed time is no more than the whole days, so there is one at least.
    rcases Int.lt_or_eq_of_le hwhole with hlt | heq
    · exact hlt
    · rw [← heq] at hge
      omega

/-- Nothing is overdue that came back by its due date. -/
theorem days_of_le (h : returned ≤ due) : days due returned = 0 :=
  if_pos h

/-- A return is no day late exactly if it is on time. -/
theorem days_eq_zero_iff (hd : due.isLeap = false) (hr : returned.isLeap = false) :
    days due returned = 0 ↔ returned ≤ due := by
  refine ⟨fun hdays => Classical.byContradiction fun hnot => ?_, days_of_le⟩
  have hpos := days_pos hd hr (Instant.not_le.1 hnot)
  omega

/-- Nothing is charged for a return on time. -/
theorem charge_of_le {rate : Decimal} (h : returned ≤ due) : charge due returned rate = .ok none :=
  if_pos (days_of_le h)

/-- Nothing is charged for a return on time, and something for any other. -/
theorem charge_eq_none_iff {rate : Decimal} (hd : due.isLeap = false) (hr : returned.isLeap = false) :
    charge due returned rate = .ok none ↔ returned ≤ due := by
  rw [← days_eq_zero_iff hd hr, charge]
  split
  · rename_i hdays
    exact ⟨fun _ => hdays, fun _ => rfl⟩
  · rename_i hdays
    refine ⟨fun h => ?_, fun h => absurd h hdays⟩
    split at h
    · cases h
    · cases h

end Overdue

end Circulation
