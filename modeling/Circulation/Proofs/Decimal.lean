import Mathlib.Algebra.Order.Field.Rat
import Mathlib.Data.Rat.Cast.Order
import Mathlib.Tactic.Linarith
import Mathlib.Tactic.Positivity
import Mathlib.Tactic.Ring
import Circulation.Decimal

/-!
# What decimals are worth

A decimal is worth the quotient of its mantissa and the power of ten of its scale. So many times a decimal is exact if it
fits (`Decimal.exists_mul?`), is out of reach exactly if the whole number nearest to it is (`Decimal.mul?_eq_none_iff`),
and grows with the factor (`Decimal.mul?_mono`). Rounding to so many places gives the nearest multiple of the last of
them, an even one where two are as near (`Decimal.round_nearest`).
-/

namespace Circulation

/-! ## Nearest integers -/

/-- Whether an integer is nearest to a number, and is even where another one is as near. -/
structure NearestEven (x : Rat) (n : Int) : Prop where
  within : |x - n| ≤ 1 / 2
  even : |x - n| = 1 / 2 → Even n

namespace NearestEven

variable {x y : Rat} {m n : Int}

theorem of_eq (h : x = n) : NearestEven x n := by
  subst h
  constructor
  · norm_num
  · norm_num

/-- Rounding to the nearest goes with the sign. -/
theorem neg (h : NearestEven x n) : NearestEven (-x) (-n) := by
  have habs : |-x - ((-n : Int) : Rat)| = |x - n| := by
    rw [Int.cast_neg, neg_sub_neg, abs_sub_comm]
  exact ⟨habs ▸ h.within, fun heq => (h.even (habs ▸ heq)).neg⟩

/-- A larger number has no smaller nearest integer. -/
theorem mono (hx : NearestEven x m) (hy : NearestEven y n) (h : x ≤ y) : m ≤ n := by
  by_contra hlt
  have hstep : (n : Rat) + 1 ≤ m := by exact_mod_cast not_le.1 hlt
  obtain ⟨hxm, -⟩ := abs_le.1 hx.within
  obtain ⟨-, hyn⟩ := abs_le.1 hy.within
  -- Both lie in the middle between two neighbours, of which only one is even.
  have hm : (m : Rat) = n + 1 := by linarith
  have hmid : x - m = -(1 / 2) := by linarith
  have hmid' : y - n = 1 / 2 := by linarith
  have hevenm : Even m := hx.even (by rw [hmid, abs_neg, abs_of_pos (by norm_num)])
  have hevenn : Even n := hy.even (by rw [hmid', abs_of_pos (by norm_num)])
  have hsucc : m = n + 1 := by exact_mod_cast hm
  exact absurd (hsucc ▸ hevenm) (Int.not_even_iff_odd.2 hevenn.add_one)

/-- An even number is reached from half below it. -/
theorem even_le_iff (h : NearestEven x n) (hm : Even m) : m ≤ n ↔ (m : Rat) - 1 / 2 ≤ x := by
  obtain ⟨hlow, hhigh⟩ := abs_le.1 h.within
  constructor
  · intro hle
    have hcast : (m : Rat) ≤ n := by exact_mod_cast hle
    linarith
  · intro hle
    by_contra hlt
    have hstep : (n : Rat) + 1 ≤ m := by exact_mod_cast not_le.1 hlt
    -- The number lies in the middle between the even one and the one before it.
    have hmid : x - n = 1 / 2 := by linarith
    have hsucc : m = n + 1 := by
      have hcast : (m : Rat) = n + 1 := by linarith
      exact_mod_cast hcast
    have heven : Even n := h.even (by rw [hmid, abs_of_pos (by norm_num)])
    exact absurd (hsucc ▸ hm) (Int.not_even_iff_odd.2 heven.add_one)

end NearestEven

/-- A multiple is rounded to its factor. -/
theorem roundHalfEven_mul (k : Nat) {d : Nat} (hd : 0 < d) : roundHalfEven (k * d) d = k := by
  unfold roundHalfEven
  rw [Nat.mul_mod_left, Nat.mul_div_cancel _ hd, if_neg (by omega)]

/-- A whole number and a proper fraction: a fraction of more than a half is carried, and half a one to an odd number. -/
theorem nearestEven_carry (q : Nat) {r d : Nat} (h : r < d) :
    NearestEven ((q : Rat) + r / d) (if d < 2 * r ∨ (2 * r = d ∧ q % 2 = 1) then q + 1 else q : Nat) := by
  have hpos : (0 : Rat) < d := by exact_mod_cast Nat.zero_lt_of_lt h
  have hlow : (0 : Rat) ≤ r / d := by positivity
  have hhigh : (r : Rat) / d < 1 := by
    rw [div_lt_one hpos]
    exact_mod_cast h
  have hhalf : (r : Rat) / d ≤ 1 / 2 ↔ 2 * r ≤ d := by
    rw [div_le_div_iff₀ hpos two_pos, one_mul, mul_comm]
    norm_cast
  have hhalf' : 1 / 2 ≤ (r : Rat) / d ↔ d ≤ 2 * r := by
    rw [div_le_div_iff₀ two_pos hpos, one_mul, mul_comm]
    norm_cast
  split
  · rename_i hup
    have hge : 1 / 2 ≤ (r : Rat) / d := hhalf'.2 (by omega)
    have habs : |(q : Rat) + r / d - ((q + 1 : Nat) : Int)| = 1 - r / d := by
      push_cast
      rw [abs_of_nonpos (by linarith)]
      ring
    refine ⟨by linarith, fun htie => ?_⟩
    have hle : 2 * r ≤ d := hhalf.1 (by linarith)
    exact (Int.even_coe_nat _).2 (Nat.even_iff.2 (by omega))
  · rename_i hdown
    have hle : (r : Rat) / d ≤ 1 / 2 := hhalf.2 (by omega)
    have habs : |(q : Rat) + r / d - ((q : Nat) : Int)| = r / d := by
      push_cast
      rw [abs_of_nonneg (by linarith)]
      ring
    refine ⟨by linarith, fun htie => ?_⟩
    have hge : d ≤ 2 * r := hhalf'.1 (by linarith)
    exact (Int.even_coe_nat _).2 (Nat.even_iff.2 (by omega))

/-- A quotient is rounded to the nearest integer, a tie going to the even one. -/
theorem roundHalfEven_nearest (m : Nat) {d : Nat} (hd : 0 < d) : NearestEven ((m : Rat) / d) (roundHalfEven m d : Nat) := by
  have hne : (d : Rat) ≠ 0 := by exact_mod_cast hd.ne'
  have hm : (m : Rat) = d * (m / d : Nat) + (m % d : Nat) := by exact_mod_cast (Nat.div_add_mod m d).symm
  have hsplit : (m : Rat) / d = (m / d : Nat) + (m % d : Nat) / d := by
    rw [div_eq_iff hne, add_mul, div_mul_cancel₀ _ hne, mul_comm]
    exact hm
  rw [hsplit]
  exact nearestEven_carry (m / d) (Nat.mod_lt m hd)

/-- A larger divisor leaves no more. -/
theorem roundHalfEven_anti (m : Nat) {c d : Nat} (hc : 0 < c) (h : c ≤ d) : roundHalfEven m d ≤ roundHalfEven m c := by
  have hpos : (0 : Rat) < c := by exact_mod_cast hc
  have hcast : (c : Rat) ≤ d := by exact_mod_cast h
  have hquot : (m : Rat) / d ≤ m / c := div_le_div_of_nonneg_left (by positivity) hpos hcast
  exact_mod_cast (roundHalfEven_nearest m (by omega)).mono (roundHalfEven_nearest m hc) hquot

/-- Rounding half to even is monotone in the numerator. -/
theorem roundHalfEven_mono {m n d : Nat} (h : m ≤ n) (hd : 0 < d) : roundHalfEven m d ≤ roundHalfEven n d := by
  have hcast : (m : Rat) ≤ n := by exact_mod_cast h
  have hquot : (m : Rat) / d ≤ n / d := by gcongr
  exact_mod_cast (roundHalfEven_nearest m hd).mono (roundHalfEven_nearest n hd) hquot

/-- A rounded quotient reaches an even number from half below it. -/
theorem le_roundHalfEven_iff (m : Nat) {d k : Nat} (hd : 0 < d) (hk : Even k) :
    k ≤ roundHalfEven m d ↔ (k : Rat) - 1 / 2 ≤ m / d := by
  have h := (roundHalfEven_nearest m hd).even_le_iff ((Int.even_coe_nat k).2 hk)
  rwa [Int.ofNat_le, Int.cast_natCast] at h

namespace Decimal

/-! ## Values -/

/-- What a decimal is worth. -/
def value (a : Decimal) : Rat :=
  a.mantissa / 10 ^ a.scale

variable {a b : Decimal} {mantissa : Int} {scale : Nat}

/-- Without its sign a decimal is worth its magnitude at its scale. -/
theorem abs_value (a : Decimal) : |a.value| = a.magnitude / 10 ^ a.scale := by
  have hpow : (0 : Rat) < 10 ^ a.scale := by positivity
  rw [value, abs_div, abs_of_pos hpow, ← Int.cast_abs, Int.abs_eq_natAbs, natAbs_mantissa, Int.cast_natCast]

/-- A decimal of no magnitude is worth nothing, whatever its sign. -/
theorem value_eq_zero (h : a.magnitude = 0) : a.value = 0 :=
  abs_eq_zero.1 (by rw [abs_value, h, Nat.cast_zero, zero_div])

/-- Zero is worth nothing. -/
theorem value_zero : zero.value = 0 :=
  value_eq_zero rfl

/-- A decimal without a sign is not worth less than nothing. -/
theorem value_nonneg (h : a.isNegative = false) : 0 ≤ a.value := by
  have hneg : a.negative = false := h
  have hmantissa : a.mantissa = a.magnitude := by
    rw [mantissa, signed, hneg]
    rfl
  rw [value, hmantissa]
  positivity

/-- The mantissa of a decimal that is not worth less than nothing is its magnitude. -/
theorem mantissa_of_nonneg (h : 0 ≤ a.value) : a.mantissa = a.magnitude := by
  have hpow : (0 : Rat) < 10 ^ a.scale := by positivity
  have hcast := mul_nonneg h hpow.le
  rw [value, div_mul_cancel₀ _ hpow.ne'] at hcast
  have hnonneg : 0 ≤ a.mantissa := by exact_mod_cast hcast
  rw [← natAbs_mantissa, Int.natAbs_of_nonneg hnonneg]

/-- An integer is its magnitude with its sign. -/
theorem signed_natAbs (m : Int) : signed (m < 0) m.natAbs = m := by
  unfold signed
  split
  · rename_i hneg
    have hlt : m < 0 := of_decide_eq_true hneg
    omega
  · rename_i hneg
    have hle : ¬m < 0 := fun hlt => hneg (decide_eq_true hlt)
    omega

/-- A decimal that is made of parts has them. -/
theorem of_ofParts? {c : Decimal} (h : ofParts? mantissa scale = some c) :
    c.mantissa = mantissa ∧ c.scale = scale := by
  unfold ofParts? at h
  split at h
  · cases h
    exact ⟨signed_natAbs mantissa, rfl⟩
  · cases h

/-- Parts that fit make a decimal. -/
theorem exists_ofParts? (h : mantissa.natAbs < 2 ^ 96) (hs : scale ≤ 28) : ∃ c, ofParts? mantissa scale = some c :=
  ⟨_, dif_pos ⟨h, hs⟩⟩

/-- The first result of a search over the numbers below a bound. -/
theorem findSome?_range_eq_some_iff {α : Type} {f : Nat → Option α} {n : Nat} {x : α} :
    (List.range n).findSome? f = some x ↔ ∃ k < n, f k = some x ∧ ∀ j < k, f j = none := by
  induction n with
  | zero => simp
  | succ n ih =>
    rw [List.range_succ, List.findSome?_append, Option.or_eq_some_iff, ih, List.findSome?_eq_none_iff]
    constructor
    · rintro (⟨k, hk, hf⟩ | ⟨hnone, hlast⟩)
      · exact ⟨k, Nat.lt_succ_of_lt hk, hf⟩
      · refine ⟨n, Nat.lt_succ_self n, by simpa using hlast, fun j hj => hnone j (List.mem_range.2 hj)⟩
    · rintro ⟨k, hk, hf, hbefore⟩
      rcases Nat.lt_succ_iff_lt_or_eq.1 hk with hlt | rfl
      · exact .inl ⟨k, hlt, hf, hbefore⟩
      · exact .inr ⟨fun j hj => hbefore j (List.mem_range.1 hj), by simpa using hf⟩

/-- What fits is not rounded, not even where zeros that go with it stand beyond the 28th place. -/
theorem nearest?_of_fits {k : Int} {excess : Nat} (h : k.natAbs < 2 ^ 96) (hs : scale ≤ 28)
    (hexcess : excess = 0 ∨ scale = 28) : nearest? (k * 10 ^ excess) (scale + excess) = ofParts? k scale := by
  obtain ⟨c, hc⟩ := exists_ofParts? h hs
  have hround : signed (k * 10 ^ excess < 0) (roundHalfEven (k * 10 ^ excess).natAbs (10 ^ excess)) = k := by
    have hpow : (0 : Int) < 10 ^ excess := Int.pow_pos (by decide)
    have hsign : k * 10 ^ excess < 0 ↔ k < 0 :=
      ⟨fun hlt => neg_of_mul_neg_left hlt hpow.le, fun hlt => mul_neg_of_neg_of_pos hlt hpow⟩
    have hmul : (k * 10 ^ excess).natAbs = k.natAbs * 10 ^ excess := by
      rw [Int.natAbs_mul, Int.natAbs_pow]
      rfl
    rw [hmul, roundHalfEven_mul _ (Nat.pow_pos (by decide)), decide_eq_decide.2 hsign]
    exact signed_natAbs k
  rw [hc]
  refine findSome?_range_eq_some_iff.2 ⟨excess, by omega, ?_, fun dropped hlt => dif_neg fun hfits => ?_⟩
  · rw [hround, Nat.add_sub_cancel, hc]
  · -- With fewer zeros gone the scale is still out of reach.
    omega

/-- How the decimal nearest to a natural number of units comes about: the first number of digits that leaves something that
fits goes. -/
theorem exists_of_nearest? {m : Nat} {c : Decimal} (h : nearest? m scale = some c) :
    ∃ k ≤ scale, scale - k ≤ 28 ∧ roundHalfEven m (10 ^ k) < 2 ^ 96 ∧
      c.value = (roundHalfEven m (10 ^ k) * 10 ^ k : Nat) / 10 ^ scale ∧
      ∀ j < k, scale - j ≤ 28 → 2 ^ 96 ≤ roundHalfEven m (10 ^ j) := by
  obtain ⟨k, hk, hc, hbefore⟩ := findSome?_range_eq_some_iff.1 h
  have hsigned : ∀ n : Nat, signed ((m : Int) < 0) n = n := fun n => by simp [signed]
  simp only [hsigned, Int.natAbs_natCast] at hc hbefore
  have hfits : (roundHalfEven m (10 ^ k) : Int).natAbs < 2 ^ 96 ∧ scale - k ≤ 28 := by
    by_contra hnot
    rw [ofParts?, dif_neg hnot] at hc
    cases hc
  obtain ⟨hm, hs⟩ := of_ofParts? hc
  refine ⟨k, by omega, hfits.2, by simpa using hfits.1, ?_, fun j hj hscale => ?_⟩
  · have hpow : (10 : Rat) ^ scale = 10 ^ (scale - k) * 10 ^ k := by
      rw [← pow_add, Nat.sub_add_cancel (by omega)]
    have hne : (10 : Rat) ^ k ≠ 0 := pow_ne_zero _ (by norm_num)
    rw [value, hm, hs, hpow]
    push_cast
    rw [mul_div_mul_right _ _ hne]
  · by_contra hlt
    have hfits : ((roundHalfEven m (10 ^ j) : Nat) : Int).natAbs < 2 ^ 96 := by simpa using hlt
    obtain ⟨c, hsome⟩ := exists_ofParts? hfits hscale
    rw [hbefore j hj] at hsome
    cases hsome

/-- A whole number of so many times a decimal is exact if it fits. -/
theorem exists_mul? (ha : a.scale = 0) (hb : b.scale ≤ 28) (h : a.magnitude * b.magnitude < 2 ^ 96) :
    ∃ c, a.mul? b = some c ∧ c.value = a.value * b.value := by
  unfold mul?
  split
  · rename_i hzero
    refine ⟨zero, rfl, ?_⟩
    rw [value_zero, mul_eq_zero.2 (hzero.imp value_eq_zero value_eq_zero)]
  · have hfits : (a.mantissa * b.mantissa).natAbs < 2 ^ 96 := by
      rw [Int.natAbs_mul, natAbs_mantissa, natAbs_mantissa]
      exact h
    obtain ⟨c, hc⟩ := exists_ofParts? hfits hb
    obtain ⟨hm, hs⟩ := of_ofParts? hc
    have hnearest := nearest?_of_fits hfits hb (.inl rfl)
    rw [pow_zero, mul_one, Nat.add_zero] at hnearest
    refine ⟨c, ?_, ?_⟩
    · rw [ha, Nat.zero_add, hnearest, hc]
    · rw [value, value, value, hm, hs, ha, pow_zero, div_one, Int.cast_mul, mul_div_assoc]

/-- No decimal is near enough exactly if the whole number nearest to the quotient is out of reach. -/
theorem nearest?_eq_none_iff : nearest? mantissa scale = none ↔ 2 ^ 96 ≤ roundHalfEven mantissa.natAbs (10 ^ scale) := by
  unfold nearest?
  rw [List.findSome?_eq_none_iff]
  constructor
  · intro h
    have hlast := h scale (List.mem_range.2 (Nat.lt_succ_self _))
    by_contra hlt
    have hfits := (natAbs_signed (mantissa < 0) _).trans_lt (not_le.1 hlt)
    have hscale : scale - scale ≤ 28 := by omega
    obtain ⟨c, hc⟩ := exists_ofParts? hfits hscale
    rw [hc] at hlast
    cases hlast
  · intro h dropped hmem
    have hle : dropped ≤ scale := Nat.lt_succ_iff.1 (List.mem_range.1 hmem)
    have hpow : 10 ^ dropped ≤ 10 ^ scale := Nat.pow_le_pow_right (by decide) hle
    have hround := roundHalfEven_anti mantissa.natAbs (Nat.pow_pos (by decide)) hpow
    refine dif_neg fun hfits => ?_
    rw [natAbs_signed] at hfits
    omega

/-- What does not fit is, with a digit less, still at least a tenth of what is out of reach, rounded up. -/
theorem le_roundHalfEven_tenth {n d : Nat} (hd : 0 < d) (h : 2 ^ 96 ≤ roundHalfEven n d) :
    7_922_816_251_426_433_759_354_395_034 ≤ roundHalfEven n (d * 10) := by
  have hreach := (le_roundHalfEven_iff n hd (by decide)).1 h
  refine (le_roundHalfEven_iff n (by omega) (by decide)).2 ?_
  push_cast at hreach ⊢
  rw [← div_div]
  linarith

/-- The decimal nearest to fewer units is worth no more. -/
theorem nearest?_mono {m n : Nat} {c : Decimal} (hle : m ≤ n) (h : nearest? n scale = some c) :
    ∃ b, nearest? m scale = some b ∧ b.value ≤ c.value := by
  have hround : ∀ k, roundHalfEven m (10 ^ k) ≤ roundHalfEven n (10 ^ k) :=
    fun k => roundHalfEven_mono hle (Nat.pow_pos (by decide))
  obtain ⟨b, hb⟩ : ∃ b, nearest? m scale = some b := by
    rw [← Option.ne_none_iff_exists', Ne, nearest?_eq_none_iff]
    have hsome : nearest? n scale ≠ none := by simp [h]
    rw [Ne, nearest?_eq_none_iff] at hsome
    exact fun hge => hsome (Nat.le_trans hge (hround scale))
  obtain ⟨k, -, hscale, hfits, hworth, hbefore⟩ := exists_of_nearest? h
  obtain ⟨i, -, hscale', hfits', hworth', hbefore'⟩ := exists_of_nearest? hb
  have hik : i ≤ k := by
    by_contra hlt
    have hge := hbefore' k (by omega) hscale
    have hlt := Nat.lt_of_le_of_lt (hround k) hfits
    omega
  refine ⟨b, hb, ?_⟩
  rw [hworth, hworth']
  refine div_le_div_of_nonneg_right (Nat.cast_le.2 ?_) (by positivity)
  rcases Nat.eq_or_lt_of_le hik with rfl | hlt
  · exact Nat.mul_le_mul_right _ (hround _)
  · -- One digit less would not have left anything that fits, so what is left is out of reach of what has more digits.
    obtain ⟨j, rfl⟩ := Nat.exists_eq_add_one.2 (Nat.zero_lt_of_lt hlt)
    have hpow : 10 ^ i ≤ 10 ^ j := Nat.pow_le_pow_right (by decide) (by omega)
    have hlarge := le_roundHalfEven_tenth (Nat.pow_pos (by decide)) (hbefore j (Nat.lt_succ_self j) (by omega))
    rw [← Nat.pow_succ] at hlarge
    calc roundHalfEven m (10 ^ i) * 10 ^ i
        ≤ 79_228_162_514_264_337_593_543_950_340 * 10 ^ j := Nat.mul_le_mul (by omega) hpow
      _ = 7_922_816_251_426_433_759_354_395_034 * 10 ^ (j + 1) := by ring
      _ ≤ roundHalfEven n (10 ^ (j + 1)) * 10 ^ (j + 1) := Nat.mul_le_mul_right _ hlarge

/-- A product is out of reach exactly if the whole number nearest to it is. -/
theorem mul?_eq_none_iff : a.mul? b = none ↔ 2 ^ 96 - 1 / 2 ≤ |a.value * b.value| := by
  have hvalue : |a.value * b.value| = (a.magnitude * b.magnitude : Nat) / (10 ^ (a.scale + b.scale) : Nat) := by
    rw [abs_mul, abs_value, abs_value, div_mul_div_comm, ← pow_add]
    push_cast
    rfl
  have hreach := le_roundHalfEven_iff (a.magnitude * b.magnitude)
    (Nat.pow_pos (n := a.scale + b.scale) (by decide : 0 < 10)) (k := 2 ^ 96) (by decide)
  rw [← hvalue, Nat.cast_pow, Nat.cast_ofNat] at hreach
  rw [← hreach, mul?]
  split
  · rename_i hzero
    have hprod : a.magnitude * b.magnitude = 0 := Nat.mul_eq_zero.2 hzero
    have hround : roundHalfEven 0 (10 ^ (a.scale + b.scale)) = 0 := by simp [roundHalfEven]
    rw [hprod, hround]
    simp
  · rw [nearest?_eq_none_iff, Int.natAbs_mul, natAbs_mantissa, natAbs_mantissa]

/-- A product of decimals that are not negative is the nearest to the product of their magnitudes, and plain zero if there is no
magnitude. -/
theorem mul?_of_nonneg (ha : 0 ≤ a.value) (hb : 0 ≤ b.value) :
    a.mul? b = if a.magnitude = 0 ∨ b.magnitude = 0 then some zero
      else nearest? (a.magnitude * b.magnitude : Nat) (a.scale + b.scale) := by
  rw [mul?, mantissa_of_nonneg ha, mantissa_of_nonneg hb, Nat.cast_mul]

/-- A product of decimals that are not negative is not negative. -/
theorem mul?_nonneg {c : Decimal} (ha : 0 ≤ a.value) (hb : 0 ≤ b.value) (h : a.mul? b = some c) : 0 ≤ c.value := by
  rw [mul?_of_nonneg ha hb] at h
  split at h
  · cases h
    exact value_zero.ge
  · obtain ⟨k, -, -, -, hvalue, -⟩ := exists_of_nearest? h
    rw [hvalue]
    positivity

/-- A smaller factor has no larger product, and none that is out of reach where that of the larger one is not. -/
theorem mul?_mono {a' c : Decimal} (ha : 0 ≤ a.value) (ha' : 0 ≤ a'.value) (hb : 0 ≤ b.value)
    (hscale : a.scale = a'.scale) (hle : a.magnitude ≤ a'.magnitude) (h : a'.mul? b = some c) :
    ∃ p, a.mul? b = some p ∧ p.value ≤ c.value := by
  have hc := mul?_nonneg ha' hb h
  rw [mul?_of_nonneg ha hb, hscale]
  rw [mul?_of_nonneg ha' hb] at h
  split
  · exact ⟨zero, rfl, value_zero.trans_le hc⟩
  · rename_i hne
    rw [if_neg (by omega)] at h
    exact nearest?_mono (Nat.mul_le_mul_right _ hle) h

/-- A magnitude with a sign is rounded like the magnitude. -/
theorem signed_nearest (negative : Bool) (m : Nat) {d : Nat} (hd : 0 < d) :
    NearestEven (signed negative m / d) (signed negative (roundHalfEven m d)) := by
  have h := roundHalfEven_nearest m hd
  cases negative with
  | false => exact h
  | true =>
    have hneg : ((signed true m : Int) : Rat) / d = -((m : Rat) / d) := by simp [signed, neg_div]
    rw [hneg]
    exact h.neg

/-- Zero has no sign to lose. -/
theorem signed_unless_zero (negative : Bool) (m : Nat) : signed (negative && m ≠ 0) m = signed negative m := by
  cases negative with
  | false => rfl
  | true =>
    by_cases hm : m = 0
    · simp [signed, hm]
    · simp [signed, hm]

/-- Rounding to so many places gives the nearest multiple of the last of them, with no more places than that. -/
theorem round_nearest (a : Decimal) (places : Nat) :
    (a.round places).scale ≤ places ∧
      ∃ n : Int, (a.round places).value * 10 ^ places = n ∧ NearestEven (a.value * 10 ^ places) n := by
  have hten : (10 : Rat) ≠ 0 := by norm_num
  unfold round
  split
  · rename_i hle
    have hwhole : a.value * 10 ^ places = (a.mantissa * 10 ^ (places - a.scale) : Int) := by
      rw [value, div_mul_eq_mul_div, div_eq_iff (pow_ne_zero _ hten)]
      push_cast
      rw [mul_assoc, ← pow_add, Nat.sub_add_cancel hle]
    exact ⟨hle, _, hwhole, .of_eq hwhole⟩
  · rename_i hlt
    have hpow : (10 : Rat) ^ a.scale = 10 ^ (a.scale - places) * 10 ^ places := by
      rw [← pow_add, Nat.sub_add_cancel (by omega)]
    have hcut : a.value * 10 ^ places = a.mantissa / (10 ^ (a.scale - places) : Nat) := by
      rw [value, hpow, ← div_div, div_mul_cancel₀ _ (pow_ne_zero _ hten)]
      push_cast
      rfl
    refine ⟨Nat.le_refl _, _, ?_, hcut ▸ signed_nearest a.negative a.magnitude (Nat.pow_pos (by decide))⟩
    rw [value, div_mul_cancel₀ _ (pow_ne_zero _ hten), Decimal.mantissa, signed_unless_zero]

/-- Rounding keeps the order of values. -/
theorem round_mono {places : Nat} (h : a.value ≤ b.value) : (a.round places).value ≤ (b.round places).value := by
  have hpow : (0 : Rat) < 10 ^ places := by positivity
  obtain ⟨-, m, hm, hnearest⟩ := a.round_nearest places
  obtain ⟨-, n, hn, hnearest'⟩ := b.round_nearest places
  have hle : m ≤ n := hnearest.mono hnearest' (mul_le_mul_of_nonneg_right h hpow.le)
  refine le_of_mul_le_mul_right ?_ hpow
  rw [hm, hn]
  exact_mod_cast hle

/-- Rounding to some places leaves what is not negative so. -/
theorem round_nonneg {places : Nat} (h : 0 ≤ a.value) : 0 ≤ (a.round places).value := by
  have hzero : zero.round places = zero := dif_pos (Nat.zero_le places)
  have hle : (zero.round places).value ≤ (a.round places).value := round_mono (value_zero.trans_le h)
  rwa [hzero, value_zero] at hle

end Decimal

end Circulation
