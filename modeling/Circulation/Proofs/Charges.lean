import Circulation.Proofs.Decimal
import Circulation.Proofs.Overdue
import Mathlib.Order.Bounds.Defs

/-!
# What a late return costs

Outside leap seconds instants are told by their nanoseconds since 1970, and the days of a late return are the fewest that
reach from the due date to the return (`Overdue.days_le_iff`). Main statement: their price is exact, is rounded once, to
the nearest cent, and only grows with the delay (`charge_exact`). There is no price exactly where the number of units
nearest to it is out of reach (`Overdue.charge_eq_error_iff`).
-/

namespace Circulation

/-! ## Days -/

/-- The nanoseconds since 1970 of an instant outside leap seconds. -/
def Instant.nanos (t : Instant) : Int :=
  t.second * Span.second + t.nano

/-- Outside leap seconds the nanoseconds make up less than a second. -/
theorem Instant.nano_lt_of_isLeap {t : Instant} (h : t.isLeap = false) : t.nano < 1_000_000_000 := by
  simpa [isLeap] using h

/-- Outside leap seconds instants are in the order of their nanoseconds since 1970. -/
theorem Instant.le_iff_nanos_le {t u : Instant} (ht : t.isLeap = false) (hu : u.isLeap = false) :
    t ≤ u ↔ t.nanos ≤ u.nanos := by
  have hnano := nano_lt_of_isLeap ht
  have hnano' := nano_lt_of_isLeap hu
  rw [le_iff_rank_le]
  unfold rank nanos Span.second
  omega

namespace Overdue

variable {due returned due' returned' : Instant} {rate : Decimal} {n : Int}

/-- However leap seconds count, days are no fewer than none, and the last one is begun before the return, but for three
seconds. -/
theorem days_bounds (due returned : Instant) :
    0 ≤ days due returned ∧ (days due returned ≠ 0 → (days due returned - 1) * 86_400 < returned.second - due.second + 3) := by
  by_cases h : returned ≤ due
  · exact ⟨(days_of_le h).ge, fun hne => absurd (days_of_le h) hne⟩
  · have hlate := Instant.lt_iff_rank_lt.1 (Instant.not_le.1 h)
    have hnano := due.nano_lt
    have hnano' := returned.nano_lt
    have hleap : -1 ≤ returned.leapBetween due ∧ returned.leapBetween due ≤ 1 := by
      unfold Instant.leapBetween
      split
      · decide
      · split <;> decide
    have helapsed : (returned.since due).nanos =
        (returned.second - due.second + returned.leapBetween due) * 1_000_000_000 + (returned.nano - due.nano) := rfl
    unfold Instant.rank at hlate
    rcases Int.le_total 0 (returned.since due).nanos with hpos | hneg
    · have hwhole := Int.tdiv_eq_ediv_of_nonneg (b := Span.day) hpos
      simp only [days, if_neg h, hwhole]
      unfold Span.day Span.second
      split
      · omega
      · omega
    · -- The leap second makes the later instant the earlier one, but by less than a day.
      have hwhole : (returned.since due).nanos.tdiv Span.day = 0 := by
        rw [← Int.neg_neg (returned.since due).nanos, Int.neg_tdiv, Int.tdiv_eq_ediv_of_nonneg (by omega)]
        unfold Span.day Span.second
        omega
      simp only [days, if_neg h, hwhole]
      split
      · omega
      · omega

/-- So many days reach from the due date to a late return exactly if no more are counted. -/
theorem days_le_iff (hd : due.isLeap = false) (hr : returned.isLeap = false) (h : due < returned) :
    days due returned ≤ n ↔ returned.nanos ≤ due.nanos + n * Span.day := by
  have hnanos : (returned.since due).nanos = returned.nanos - due.nanos := by
    rw [Instant.since_eq hd hr, Instant.nanos, Instant.nanos]
    ring
  have hpos := (Instant.since_pos_iff hd hr).2 h
  have hnot : ¬returned ≤ due := Instant.not_le.2 h
  have hwhole : (returned.since due).nanos.tdiv Span.day = (returned.since due).nanos / Span.day :=
    Int.tdiv_eq_ediv_of_nonneg hpos.le
  simp only [days, if_neg hnot, hwhole]
  rw [hnanos]
  unfold Span.day Span.second
  split
  · omega
  · omega

/-- A later return, or an earlier due date, counts no fewer days. -/
theorem days_mono (hd : due.isLeap = false) (hr : returned.isLeap = false) (hd' : due'.isLeap = false)
    (hr' : returned'.isLeap = false) (hdue : due ≤ due') (hret : returned' ≤ returned) :
    days due' returned' ≤ days due returned := by
  by_cases h : returned' ≤ due'
  · rw [days_of_le h]
    exact (days_bounds due returned).1
  · have hlate' : due' < returned' := Instant.not_le.1 h
    have hlate : due < returned := Int.lt_of_le_of_lt hdue (Int.lt_of_lt_of_le hlate' hret)
    have hreach := (days_le_iff hd hr hlate).1 (Int.le_refl _)
    have hdue := (Instant.le_iff_nanos_le hd hd').1 hdue
    have hret := (Instant.le_iff_nanos_le hr' hr).1 hret
    exact (days_le_iff hd' hr' hlate').2 (by omega)

/-! ## Prices -/

/-- What there is to pay. -/
def owed : Option Decimal → Rat
  | none => 0
  | some amount => amount.value

/-- Where days are counted, the charge is the rounded product of them and the rate. -/
theorem charge_of_ne (h : days due returned ≠ 0) (rate : Decimal) :
    ∃ d : Decimal, d.value = days due returned ∧ d.scale = 0 ∧ d.magnitude = (days due returned).natAbs ∧
      charge due returned rate =
        match d.mul? rate with
        | some product => .ok (some (product.round 2))
        | none => .error .product := by
  obtain ⟨hnonneg, hlast⟩ := days_bounds due returned
  have hlast := hlast h
  have hfirst := due.first_le
  have hlast' := returned.le_last
  have hfits : (days due returned).natAbs < 2 ^ 96 := by omega
  obtain ⟨d, hof⟩ := Decimal.exists_ofParts? hfits (Nat.zero_le 28)
  obtain ⟨hm, hs⟩ := Decimal.of_ofParts? hof
  refine ⟨d, ?_, hs, ?_, ?_⟩
  · rw [Decimal.value, hm, hs, pow_zero, div_one]
  · rw [← Decimal.natAbs_mantissa, hm]
  · have hcharge : charge due returned rate =
        match (Decimal.ofInt? (days due returned)).bind (Decimal.mul? · rate) with
        | some product => .ok (some (product.round 2))
        | none => .error .product := if_neg h
    have hproduct : (Decimal.ofInt? (days due returned)).bind (Decimal.mul? · rate) = d.mul? rate :=
      congrArg (Option.bind · (Decimal.mul? · rate)) hof
    rw [hcharge, hproduct]

/-- There is no charge to name exactly if the number of units nearest to it is out of reach. -/
theorem charge_eq_error_iff {what : Overflow} :
    charge due returned rate = .error what ↔ what = .product ∧ 2 ^ 96 - 1 / 2 ≤ |days due returned * rate.value| := by
  by_cases h : days due returned = 0
  · have hzero : ¬(2 ^ 96 - 1 / 2 : Rat) ≤ |(0 : Int) * rate.value| := by norm_num
    have hcharge : charge due returned rate = .ok none := if_pos h
    rw [hcharge, h]
    exact ⟨fun herror => (nomatch herror), fun hlarge => absurd hlarge.2 hzero⟩
  · obtain ⟨d, hvalue, -, -, hcharge⟩ := charge_of_ne h rate
    rw [hcharge, ← hvalue, ← Decimal.mul?_eq_none_iff]
    cases d.mul? rate with
    | none => simp [eq_comm]
    | some product => simp

/-- Where the product fits, the charge is the product rounded to cents. -/
theorem exists_charge (hd : due.isLeap = false) (hr : returned.isLeap = false) (hscale : rate.scale ≤ 28)
    (hfits : days due returned * rate.magnitude < 2 ^ 96) :
    ∃ charged cents, charge due returned rate = .ok charged ∧ (charged = none ↔ returned ≤ due) ∧
      (∀ amount ∈ charged, amount.scale ≤ 2) ∧ owed charged * 100 = (cents : Int) ∧
      NearestEven (days due returned * rate.value * 100) cents := by
  by_cases h : returned ≤ due
  · refine ⟨none, 0, charge_of_le h, by simp [h], by simp, by simp [owed], .of_eq ?_⟩
    simp [days_of_le h]
  · obtain ⟨d, hvalue, hwhole, hmagnitude, hcharge⟩ := charge_of_ne (fun hdays => h ((days_eq_zero_iff hd hr).1 hdays)) rate
    have hprod : d.magnitude * rate.magnitude < 2 ^ 96 := by
      have hnonneg := (days_bounds due returned).1
      rw [hmagnitude]
      zify
      rwa [abs_of_nonneg hnonneg]
    obtain ⟨product, hmul, hworth⟩ := Decimal.exists_mul? hwhole hscale hprod
    obtain ⟨hplaces, cents, hcents, hnearest⟩ := product.round_nearest 2
    have hhundred : (10 : Rat) ^ 2 = 100 := by norm_num
    rw [hmul] at hcharge
    rw [hhundred] at hcents hnearest
    rw [hworth, hvalue] at hnearest
    refine ⟨_, cents, hcharge, by simp [h], ?_, hcents, hnearest⟩
    rintro amount ⟨⟩
    exact hplaces

/-- At a rate that is not negative there is nothing negative to pay. -/
theorem owed_nonneg (hd : due.isLeap = false) (hr : returned.isLeap = false) (hrate : 0 ≤ rate.value)
    {charged : Option Decimal} (h : charge due returned rate = .ok charged) : 0 ≤ owed charged := by
  by_cases hle : returned ≤ due
  · rw [charge_of_le hle] at h
    cases h
    exact le_rfl
  · obtain ⟨d, hvalue, -, -, hcharge⟩ := charge_of_ne (fun hdays => hle ((days_eq_zero_iff hd hr).1 hdays)) rate
    have hd : 0 ≤ d.value := by
      rw [hvalue]
      exact_mod_cast (days_bounds due returned).1
    rw [hcharge] at h
    split at h
    · rename_i product hmul
      cases h
      exact Decimal.round_nonneg (Decimal.mul?_nonneg hd hrate hmul)
    · cases h

/-- A later return, or one after an earlier due date, does not cost less. -/
theorem charge_mono (hd : due.isLeap = false) (hr : returned.isLeap = false) (hd' : due'.isLeap = false)
    (hr' : returned'.isLeap = false) (hrate : 0 ≤ rate.value) (hdue : due ≤ due') (hret : returned' ≤ returned)
    {more : Option Decimal} (h : charge due returned rate = .ok more) :
    ∃ less, charge due' returned' rate = .ok less ∧ owed less ≤ owed more := by
  by_cases hle : returned' ≤ due'
  · exact ⟨none, charge_of_le hle, owed_nonneg hd hr hrate h⟩
  · have hlate' : due' < returned' := Instant.not_le.1 hle
    have hlate : due < returned := Int.lt_of_le_of_lt hdue (Int.lt_of_lt_of_le hlate' hret)
    obtain ⟨d, hvalue, hscale, hmagnitude, hcharge⟩ := charge_of_ne (days_pos hd hr hlate).ne' rate
    obtain ⟨d', hvalue', hscale', hmagnitude', hcharge'⟩ := charge_of_ne (days_pos hd' hr' hlate').ne' rate
    have hdays := days_mono hd hr hd' hr' hdue hret
    have hdays' := days_pos hd' hr' hlate'
    have hnonneg : 0 ≤ d.value := by
      rw [hvalue]
      exact_mod_cast hdays'.le.trans hdays
    have hnonneg' : 0 ≤ d'.value := by
      rw [hvalue']
      exact_mod_cast hdays'.le
    rw [hcharge] at h
    split at h
    · rename_i product hmul
      cases h
      obtain ⟨product', hmul', hworth⟩ :=
        Decimal.mul?_mono hnonneg' hnonneg hrate (hscale'.trans hscale.symm) (by omega) hmul
      rw [hmul'] at hcharge'
      exact ⟨_, hcharge', Decimal.round_mono hworth⟩
    · cases h

end Overdue

/-- Outside leap seconds, what a late return costs: the days are the fewest that reach from the due date to the return,
their price is the exact product of days and rate rounded half to even to cents, where the product fits and the rate has the
28 places a decimal may have, and the more days there are, the more there is to pay. -/
theorem charge_exact {due returned : Instant} (hd : due.isLeap = false) (hr : returned.isLeap = false) :
    (Overdue.days due returned = 0 ↔ returned ≤ due) ∧
    (due < returned →
      IsLeast {n : Int | returned.nanos ≤ due.nanos + n * Span.day} (Overdue.days due returned)) ∧
    ∀ rate : Decimal, 0 ≤ rate.value →
      (rate.scale ≤ 28 → Overdue.days due returned * rate.magnitude < 2 ^ 96 →
        ∃ charged cents, Overdue.charge due returned rate = .ok charged ∧ (charged = none ↔ returned ≤ due) ∧
          (∀ amount ∈ charged, amount.scale ≤ 2) ∧ Overdue.owed charged * 100 = (cents : Int) ∧
          NearestEven (Overdue.days due returned * rate.value * 100) cents) ∧
      ∀ due' returned' : Instant, due'.isLeap = false → returned'.isLeap = false → due ≤ due' →
        returned' ≤ returned → ∀ more, Overdue.charge due returned rate = .ok more →
          ∃ less, Overdue.charge due' returned' rate = .ok less ∧ Overdue.owed less ≤ Overdue.owed more := by
  refine ⟨Overdue.days_eq_zero_iff hd hr, fun h => ⟨?least, fun n hn => ?fewer⟩, fun rate hrate => ⟨?exact, ?mono⟩⟩
  case least => exact (Overdue.days_le_iff hd hr h).1 (Int.le_refl _)
  case fewer => exact (Overdue.days_le_iff hd hr h).2 hn
  case exact => exact Overdue.exists_charge hd hr
  case mono =>
    intro due' returned' hd' hr' hdue hret more hmore
    exact Overdue.charge_mono hd hr hd' hr' hrate hdue hret hmore

/-- A nanosecond after two days. -/
def justPastTwoDays : Instant :=
  ⟨172_800, 1, by decide, by decide, by decide⟩

/-- An eighth a day. -/
def eighthRate : Decimal :=
  ⟨false, 125, 3, by decide⟩

/-- Two days and a nanosecond are three days begun, and three eighths are between 37 and 38 cents. -/
theorem justPastTwoDays_charge :
    IsLeast {n : Int | justPastTwoDays.nanos ≤ Instant.epoch.nanos + n * Span.day} 3 ∧
    (∃ charged cents, Overdue.charge .epoch justPastTwoDays eighthRate = .ok charged ∧
      (charged = none ↔ justPastTwoDays ≤ .epoch) ∧ (∀ amount ∈ charged, amount.scale ≤ 2) ∧
      Overdue.owed charged * 100 = (cents : Int) ∧ NearestEven ((3 : Int) * eighthRate.value * 100) cents) ∧
    Overdue.charge .epoch justPastTwoDays eighthRate = .ok (some ⟨false, 38, 2, by decide⟩) ∧
    ∃ less, Overdue.charge .epoch .epoch eighthRate = .ok less ∧
      Overdue.owed less ≤ Overdue.owed (some ⟨false, 38, 2, by decide⟩) := by
  have hrate : 0 ≤ eighthRate.value := by norm_num [Decimal.value, eighthRate, Decimal.mantissa, Decimal.signed]
  have hcharge : Overdue.charge .epoch justPastTwoDays eighthRate = .ok (some ⟨false, 38, 2, by decide⟩) := by decide
  have hleap : Instant.epoch.isLeap = false := rfl
  have hleap' : justPastTwoDays.isLeap = false := rfl
  obtain ⟨-, hleast, hprice⟩ := charge_exact hleap hleap'
  obtain ⟨hexact, hmono⟩ := hprice eighthRate hrate
  exact ⟨hleast (by decide), hexact (by decide) (by decide), hcharge,
    hmono .epoch .epoch rfl rfl (by decide) (by decide) _ hcharge⟩

end Circulation
