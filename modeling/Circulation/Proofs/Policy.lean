import Circulation.Policy

/-!
# Valid policies

What a policy that breaks no rule promises of its numbers (`Policy.not_breaks`), and what its periods do to an instant:
whole days move it by exactly their seconds (`Instant.second_of_after`), as long as there is an instant to move to
(`Instant.exists_after_iff`).
-/

namespace Circulation

namespace Policy

variable {policy : Policy}

/-- No field of a valid policy breaks its rule. -/
theorem not_breaks (h : policy.isValid = true) (v : Violation) : policy.breaks v = false := by
  have hnone := List.isEmpty_iff.1 h
  have hmem : v ∈ Violation.all := by cases v <;> decide
  have hv := List.filter_eq_nil_iff.1 hnone v hmem
  simpa using hv

/-- A valid policy lets a user have at least one loan. -/
theorem one_le_maxLoans (h : policy.isValid = true) : 1 ≤ policy.maxLoans := by
  have hkeep := not_breaks h .maxLoans
  simp only [breaks, decide_eq_false_iff_not] at hkeep
  omega

/-- The cap on reservations of a valid policy is not negative. -/
theorem maxReservations_nonneg (h : policy.isValid = true) : 0 ≤ policy.maxReservations := by
  have hkeep := not_breaks h .maxReservations
  simp only [breaks, decide_eq_false_iff_not] at hkeep
  omega

/-- A valid policy lends for at least a day. -/
theorem one_le_loanPeriodDays (h : policy.isValid = true) : 1 ≤ policy.loanPeriodDays := by
  have hkeep := not_breaks h .loanPeriodDays
  simp only [breaks, decide_eq_false_iff_not] at hkeep
  omega

/-- A valid policy renews by at least a day. -/
theorem one_le_renewalPeriodDays (h : policy.isValid = true) : 1 ≤ policy.renewalPeriodDays := by
  have hkeep := not_breaks h .renewalPeriodDays
  simp only [breaks, decide_eq_false_iff_not] at hkeep
  omega

/-- A valid policy holds a copy for at least a day. -/
theorem one_le_reservationHoldDays (h : policy.isValid = true) : 1 ≤ policy.reservationHoldDays := by
  have hkeep := not_breaks h .reservationHoldDays
  simp only [breaks, decide_eq_false_iff_not] at hkeep
  omega

/-- The cap on renewals of a valid policy, if there is one, is not negative. -/
theorem maxRenewals_nonneg (h : policy.isValid = true) {max : Int} (hmax : policy.maxRenewals = some max) : 0 ≤ max := by
  have hkeep := not_breaks h .maxRenewals
  simp only [breaks, hmax, Option.any_some, decide_eq_false_iff_not] at hkeep
  omega

end Policy

/-- Days that stay in range are so many nanoseconds. -/
theorem Policy.eq_of_days {n : Int} {d : Span} (h : Policy.days n = .ok d) : d.nanos = n * Span.day := by
  unfold Policy.days Span.ofDays? at h
  split at h
  · rename_i d' hd
    split at hd
    · cases h
      cases hd
      rfl
    · cases hd
  · cases h

/-- An instant that is reached in range is the sum. -/
theorem Instant.add?_of_after {t t' : Instant} {d : Span} (h : t.after d = .ok t') : t.add? d = some t' := by
  unfold Instant.after at h
  split at h
  · rename_i u hu
    cases h
    exact hu
  · cases h

/-- A sum of an instant and a span is reached in range. -/
theorem Instant.after_of_add? {t t' : Instant} {d : Span} (h : t.add? d = some t') : t.after d = .ok t' := by
  rw [Instant.after, h]

/-- A sum is never within a leap second. -/
theorem Instant.isLeap_of_settle? {s n : Int} {t : Instant} (h : Instant.settle? s n = some t) : t.isLeap = false := by
  unfold Instant.settle? Instant.ofParts? at h
  split at h
  · cases h
    have hlt : n % Span.second < 1_000_000_000 := Int.emod_lt_of_pos n (by decide)
    refine decide_eq_false ?_
    show ¬1_000_000_000 ≤ (n % Span.second).toNat
    omega
  · cases h

/-- A span from an instant outside a leap second leads to one outside. -/
theorem Instant.isLeap_of_after {t t' : Instant} {d : Span} (ht : t.isLeap = false) (h : t.after d = .ok t') :
    t'.isLeap = false := by
  have hadd := Instant.add?_of_after h
  rw [Instant.add?, if_neg (by simp [ht])] at hadd
  exact Instant.isLeap_of_settle? hadd

/-- Whole days move an instant by their seconds, whether or not it lies in a leap second, which they leave. -/
theorem Instant.add?_days {t : Instant} {n : Int} {d : Span} (hn : 1 ≤ n) (hd : d.nanos = n * Span.day) :
    t.add? d = Instant.ofParts? (t.second + 86_400 * n) (t.nano % Span.second) := by
  have hnanos : d.nanos = 86_400 * n * Span.second := by
    rw [hd, Span.day, Span.second]
    omega
  unfold Instant.add?
  split
  · have hwhole : 0 < d.wholeSeconds := by
      rw [Span.wholeSeconds, hnanos, Span.second, Int.mul_tdiv_cancel _ (by decide)]
      omega
    rename_i hleap
    have hnano := t.nano_lt
    simp only [Instant.isLeap, decide_eq_true_eq] at hleap
    rw [if_pos (.inl hwhole), Instant.settle?, hnanos]
    unfold Span.second
    congr 1
    · omega
    · omega
  · rename_i hleap
    simp only [Instant.isLeap, decide_eq_true_eq] at hleap
    rw [Instant.settle?, hnanos]
    unfold Span.second
    congr 1
    · omega
    · omega

/-- A day or more moves an instant by exactly the seconds of those days. -/
theorem Instant.second_of_after {t t' : Instant} {n : Int} {d : Span} (hd : Policy.days n = .ok d) (hn : 1 ≤ n)
    (h : t.after d = .ok t') : t'.second = t.second + 86_400 * n := by
  have hparts := (Instant.add?_days hn (Policy.eq_of_days hd)).symm.trans (Instant.add?_of_after h)
  unfold Instant.ofParts? at hparts
  split at hparts
  · cases hparts
    rfl
  · cases hparts

/-- Days can be counted from an instant exactly if they end by the last instant there is. -/
theorem Instant.exists_after_iff {t : Instant} {n : Int} (hn : 1 ≤ n) :
    (∃ t', (Policy.days n).bind t.after = .ok t') ↔ t.second + 86_400 * n ≤ 8_210_266_876_799 := by
  constructor
  · rintro ⟨t', h⟩
    cases hd : Policy.days n with
    | error what =>
      rw [hd] at h
      nomatch h
    | ok d =>
      rw [hd] at h
      have hsecond := Instant.second_of_after hd hn h
      have hlast := t'.le_last
      omega
  · intro hreach
    have hfirst := t.first_le
    have hdays : Policy.days n = .ok ⟨n * Span.day⟩ := by
      have hmax : n.natAbs ≤ Span.maxDays := by
        unfold Span.maxDays
        omega
      rw [Policy.days, Span.ofDays?, if_pos hmax]
    have hparts : 0 ≤ (t.nano : Int) % Span.second ∧ (t.nano : Int) % Span.second < 2_000_000_000 ∧
        -8_334_601_228_800 ≤ t.second + 86_400 * n ∧ t.second + 86_400 * n ≤ 8_210_266_876_799 := by
      unfold Span.second
      omega
    have hadd := Instant.add?_days (t := t) (d := ⟨n * Span.day⟩) hn rfl
    rw [Instant.ofParts?, dif_pos hparts] at hadd
    rw [hdays]
    exact ⟨_, Instant.after_of_add? hadd⟩

end Circulation
