import Circulation.Proofs.Decimal
import Circulation.Proofs.Sql.Layout

/-!
# Amounts on a database

A column for amounts keeps cents: a number is worth what it was exactly if it was a whole number of them
(`inCents_stored_same_iff`). The database sends an amount of at most ten digits as three digits of base ten thousand,
and it is read as it is kept (`toDecimal_cents`).
-/

namespace Circulation

namespace Decimal

/-- A natural at a scale. -/
def natural (v s : Nat) (h : v < 2 ^ 96) : Decimal :=
  ⟨false, v, s, h⟩

variable {a b s t v : Nat}

/-- Parts that fit make the natural at that scale. -/
theorem ofParts?_natural (h : v < 2 ^ 96) (hs : s ≤ 28) : ofParts? (v : Int) s = some (natural v s h) := by
  unfold ofParts? natural
  rw [dif_pos ⟨by simpa using h, hs⟩]
  simp

/-- Nothing is rounded away of a natural that fits. -/
theorem nearest?_natural (h : v < 2 ^ 96) (hs : s ≤ 28) : nearest? (v : Int) s = some (natural v s h) := by
  have hfits := nearest?_of_fits (k := v) (by simpa using h) hs (.inl rfl)
  rw [Int.pow_zero, Int.mul_one, Nat.add_zero] at hfits
  exact hfits.trans (ofParts?_natural h hs)

@[simp]
theorem mantissa_natural (h : v < 2 ^ 96) : (natural v s h).mantissa = v := rfl

/-- A product of positive naturals that fits is the natural of the product. -/
theorem mul?_natural (hfa : a < 2 ^ 96) (hfb : b < 2 ^ 96) (ha : 0 < a) (hb : 0 < b) (h : a * b < 2 ^ 96)
    (hs : s + t ≤ 28) : (natural a s hfa).mul? (natural b t hfb) = some (natural (a * b) (s + t) h) := by
  have hzero : ¬((natural a s hfa).magnitude = 0 ∨ (natural b t hfb).magnitude = 0) := by
    rintro (hz | hz)
    · exact absurd hz (Nat.ne_of_gt ha)
    · exact absurd hz (Nat.ne_of_gt hb)
  unfold mul?
  rw [if_neg hzero, mantissa_natural, mantissa_natural, ← Int.natCast_mul]
  exact nearest?_natural h hs

/-- A sum with a number of a scale no smaller. -/
theorem add?_natural (hfa : a < 2 ^ 96) (hfb : b < 2 ^ 96) (hb : 0 < b) (hst : s ≤ t) (ht : t ≤ 28)
    (h : a * 10 ^ (t - s) + b < 2 ^ 96) :
    (natural a s hfa).add? (natural b t hfb) = some (natural (a * 10 ^ (t - s) + b) t h) := by
  have hscale : max (natural a s hfa).scale (natural b t hfb).scale = t := Nat.max_eq_right hst
  unfold add?
  by_cases ha : a = 0
  · subst ha
    simp [natural]
  · have ha' : ¬(natural a s hfa).magnitude = 0 := ha
    have hb' : ¬(natural b t hfb).magnitude = 0 := Nat.ne_of_gt hb
    have hsum : (a : Int) * 10 ^ (t - s) + b * 10 ^ (t - t) = ((a * 10 ^ (t - s) + b : Nat) : Int) := by
      rw [Nat.sub_self]
      push_cast
      rw [Int.mul_one]
    rw [if_neg ha', if_neg hb']
    simp only [hscale, mantissa_natural]
    exact hsum ▸ nearest?_natural h ht

/-- A whole number with two places. -/
theorem rescale_natural (negative : Bool) (hv : 0 < v) (hf : v < 2 ^ 96) (h : 10 * (10 * v) < 2 ^ 96) :
    (⟨negative, v, 0, hf⟩ : Decimal).rescale 2 = ⟨negative, 10 * (10 * v), 2, h⟩ := by
  have hne : ¬v = 0 := by omega
  have hten : 10 * v < 2 ^ 96 := by omega
  simp [rescale, extend, hne, hten, h]

end Decimal

namespace Sql.Numeric

open Decimal

/-! ## Cents -/

/-- Numbers of one sign are the same when their magnitudes are, brought to one scale. -/
theorem same_iff_of_sign {m n : Numeric} (h : m.negative = n.negative) :
    m.Same n ↔ m.magnitude * 10 ^ n.scale = n.magnitude * 10 ^ m.scale := by
  have hcast : ∀ a k : Nat, (a : Int) * 10 ^ k = ((a * 10 ^ k : Nat) : Int) := by
    intro a k
    push_cast
    rfl
  unfold Same mantissa Decimal.signed
  rw [h]
  cases n.negative with
  | false => simp only [Bool.false_eq_true, if_false, hcast, Int.natCast_inj]
  | true => simp only [if_true, Int.neg_mul, Int.neg_inj, hcast, Int.natCast_inj]

theorem Same.trans {l m n : Numeric} (h : l.Same m) (h' : m.Same n) : l.Same n := by
  have hpos : (10 : Int) ^ m.scale ≠ 0 := Int.ne_of_gt (Int.pow_pos (by decide))
  unfold Same at *
  apply Int.eq_of_mul_eq_mul_right hpos
  calc l.mantissa * 10 ^ n.scale * 10 ^ m.scale
      = l.mantissa * 10 ^ m.scale * 10 ^ n.scale := Int.mul_right_comm _ _ _
    _ = m.mantissa * 10 ^ l.scale * 10 ^ n.scale := by rw [h]
    _ = m.mantissa * 10 ^ n.scale * 10 ^ l.scale := Int.mul_right_comm _ _ _
    _ = n.mantissa * 10 ^ m.scale * 10 ^ l.scale := by rw [h']
    _ = n.mantissa * 10 ^ l.scale * 10 ^ m.scale := Int.mul_right_comm _ _ _

/-- A number in cents has two places. -/
@[simp]
theorem inCents_scale (n : Numeric) : n.inCents.scale = 2 := by
  unfold inCents
  split <;> rfl

/-- A multiple is rounded to its factor. -/
theorem roundHalfUp_mul (k : Nat) {d : Nat} (hd : 0 < d) : roundHalfUp (k * d) d = k := by
  have hsplit : 2 * (k * d) + d = d + 2 * d * k := by
    rw [Nat.mul_assoc, Nat.mul_comm k d]
    omega
  unfold roundHalfUp
  rw [hsplit, Nat.add_mul_div_left _ _ (by omega), Nat.div_eq_of_lt (by omega), Nat.zero_add]

/-- A number rounded to cents is worth what it was exactly if it was a whole number of cents. -/
theorem inCents_same_iff (n : Numeric) : n.inCents.Same n ↔ 10 ^ n.scale ∣ n.magnitude * 100 := by
  have hsign : n.inCents.negative = n.negative := by
    unfold inCents
    split <;> rfl
  rw [same_iff_of_sign hsign]
  unfold inCents
  by_cases hs : n.scale ≤ 2
  · have hpow : 10 ^ (2 - n.scale) * 10 ^ n.scale = 100 := by
      rw [← Nat.pow_add, Nat.sub_add_cancel hs]
    have hdvd : 10 ^ n.scale ∣ 100 := ⟨_, hpow.symm.trans (Nat.mul_comm _ _)⟩
    rw [if_pos hs, Nat.mul_assoc, hpow]
    exact iff_of_true rfl (Nat.dvd_mul_left_of_dvd hdvd _)
  · have hpow : 10 ^ (n.scale - 2) * 100 = 10 ^ n.scale := by
      rw [show (100 : Nat) = 10 ^ 2 from rfl, ← Nat.pow_add, Nat.sub_add_cancel (by omega)]
    rw [if_neg hs]
    constructor
    · intro h
      exact ⟨_, h.symm.trans (Nat.mul_comm _ _)⟩
    · intro hdvd
      rw [← hpow] at hdvd
      obtain ⟨k, hk⟩ := Nat.dvd_of_mul_dvd_mul_right (by decide) hdvd
      have hround := roundHalfUp_mul k (Nat.pow_pos (n := n.scale - 2) (by decide : 0 < 10))
      rw [hk, Nat.mul_comm _ k, hround, ← hpow, Nat.mul_assoc]
      rfl

/-- So it is of the number as it is sent. -/
theorem inCents_stored_same_iff (n : Numeric) : n.stored.inCents.Same n ↔ 10 ^ n.scale ∣ n.magnitude * 100 := by
  by_cases hz : n.magnitude = 0
  · have hzero : n.mantissa = 0 := by
      unfold mantissa Decimal.signed
      rw [hz]
      split <;> rfl
    have hstored : n.stored = ⟨false, 0, 0⟩ := if_pos hz
    rw [hstored, Same, hzero, hz]
    simp [inCents, mantissa, Decimal.signed]
  · have hstored : n.stored = n := if_neg hz
    rw [hstored, inCents_same_iff]

/-! ## Reading by digits -/

variable {v k p q : Nat} {w : Int}

/-- One more digit of a weight whose power is known. -/
theorem addDigit_natural {hp : p < 2 ^ 96} {hv : v < 2 ^ 96} (hw : power? w = some (natural p q hp)) (hk : 0 < k)
    (hpos : 0 < p) (hq : q ≤ 28) (h : v * 10 ^ q + k * p < 2 ^ 96) :
    addDigit (natural v 0 hv) (k, w) = .ok (natural (v * 10 ^ q + k * p) q h) := by
  have hkp : k * p < 2 ^ 96 := by omega
  have hkfits : k < 2 ^ 96 := Nat.lt_of_le_of_lt (Nat.le_mul_of_pos_right k hpos) hkp
  have hdigit : ofInt? (k : Int) = some (natural k 0 hkfits) := ofParts?_natural hkfits (by omega)
  have hpart : (natural k 0 hkfits).mul? (natural p q hp) = some (natural (k * p) q hkp) := by
    have hmul := mul?_natural hkfits hp hk hpos hkp (s := 0) (t := q) (by omega)
    rwa [Nat.zero_add] at hmul
  have hsum := add?_natural hv hkp (Nat.mul_pos hk hpos) (Nat.zero_le q) hq h
  unfold addDigit
  simp only [hw, hdigit, Option.bind_some, hpart, hsum]
  rfl

/-- The digits of a number in front of others, down to one of a weight. -/
def group (n : Nat) (w : Int) (after : List (Nat × Int)) : List (Nat × Int) :=
  if n % 10000 = 0 then after else (n % 10000, w) :: after

/-- Digits are taken off in groups of four from the end. -/
theorem digitsFrom_eq (n : Nat) (w : Int) (after : List (Nat × Int)) :
    digitsFrom n w after = if n = 0 then after else digitsFrom (n / 10000) (w + 1) (group n w after) := by
  rw [digitsFrom]
  rfl

/-- A number of at most twelve digits has at most three groups. -/
theorem digitsFrom_lt {n : Nat} (h : n < 10 ^ 12) (w : Int) :
    digitsFrom n w [] = group (n / 10000 / 10000) (w + 1 + 1) (group (n / 10000) (w + 1) (group n w [])) := by
  have hlast : n / 10000 / 10000 / 10000 = 0 := by omega
  by_cases hn : n = 0
  · subst hn
    simp [digitsFrom_eq, group]
  · by_cases hn' : n / 10000 = 0
    · rw [digitsFrom_eq, if_neg hn, hn', digitsFrom_eq, if_pos rfl]
      simp [group]
    · by_cases hn'' : n / 10000 / 10000 = 0
      · rw [digitsFrom_eq, if_neg hn, digitsFrom_eq, if_neg hn', hn'', digitsFrom_eq, if_pos rfl]
        simp [group]
      · rw [digitsFrom_eq, if_neg hn, digitsFrom_eq, if_neg hn', digitsFrom_eq, if_neg hn'', hlast, digitsFrom_eq,
          if_pos rfl]

/-- A group adds its digits at their weight. -/
theorem foldlM_group {n : Nat} {after : List (Nat × Int)} {hp : p < 2 ^ 96} {hv : v < 2 ^ 96}
    (hw : power? w = some (natural p 0 hp)) (hpos : 0 < p) (h : v + n % 10000 * p < 2 ^ 96) :
    (group n w after).foldlM addDigit (natural v 0 hv) = after.foldlM addDigit (natural (v + n % 10000 * p) 0 h) := by
  unfold group
  by_cases hn : n % 10000 = 0
  · simp [hn]
  · rw [if_neg hn, List.foldlM_cons, addDigit_natural hw (Nat.pos_of_ne_zero hn) hpos (by omega) (by simpa using h)]
    simp only [Nat.pow_zero, Nat.mul_one]
    rfl

/-- An amount in cents is read as it is, at the same scale. -/
theorem toDecimal_cents (negative : Bool) {m : Nat} (h : m < 10 ^ 10) (hm : 0 < m) (hfits : m < 2 ^ 96) :
    (⟨negative, m, 2⟩ : Numeric).toDecimal = .ok ⟨negative, m, 2, hfits⟩ := by
  have hdigits : (⟨negative, m, 2⟩ : Numeric).digits = digitsFrom (m * 100) (-1) [] := by
    simp [digits]
  have hten : power? (-1 + 1 + 1) = some (natural 10000 0 (by decide)) := by decide
  have hone : power? (-1 + 1) = some (natural 1 0 (by decide)) := by decide
  have hpart : power? (-1) = some (natural 1 4 (by decide)) := by decide
  have hzero : Decimal.zero = natural 0 0 (by decide) := rfl
  have hnonzero : ¬m = 0 := by omega
  -- what the digits above the point add up to
  have hwhole : 0 + m * 100 / 10000 / 10000 % 10000 * 10000 + m * 100 / 10000 % 10000 * 1 = m * 100 / 10000 := by omega
  unfold toDecimal
  rw [hdigits, digitsFrom_lt (by omega), hzero, foldlM_group hten (by decide) (by omega),
    foldlM_group hone (by decide) (by omega)]
  simp only [hwhole]
  unfold group
  by_cases hfraction : m * 100 % 10000 = 0
  · have hv : m * 100 / 10000 ≠ 0 := by omega
    have hrescaled := rescale_natural negative (Nat.pos_of_ne_zero hv) (by omega) (by omega)
    have hm' : 10 * (10 * (m * 100 / 10000)) = m := by omega
    simp only [hm'] at hrescaled
    rw [if_pos hfraction]
    exact congrArg Except.ok ((if_neg hnonzero).trans hrescaled)
  · rw [if_neg hfraction, List.foldlM_cons,
      addDigit_natural hpart (Nat.pos_of_ne_zero hfraction) (by decide) (by decide) (by omega)]
    have hm' : m * 100 / 10000 * 10 ^ 4 + m * 100 % 10000 * 1 = m * 100 := by omega
    have hrescaled : (⟨negative, m * 100, 4, by omega⟩ : Decimal).rescale 2 = ⟨negative, m, 2, hfits⟩ := by
      have hround : roundHalfUp (m * 100) (10 ^ 2) = m := roundHalfUp_mul m (by decide)
      have hmagnitude : ¬m * 100 = 0 := by omega
      simp [rescale, hmagnitude, hround]
    simp only [hm']
    exact congrArg Except.ok ((if_neg hnonzero).trans hrescaled)

/-- Whatever amount of at most ten digits is kept in cents, what is read is worth the same. -/
theorem exists_toDecimal {n : Numeric} (hscale : n.scale = 2) (h : n.magnitude < 10 ^ 10) :
    ∃ d, n.toDecimal = .ok d ∧ (ofDecimal d).Same n := by
  obtain ⟨negative, m, scale⟩ := n
  obtain rfl : scale = 2 := hscale
  have hlt : m < 10 ^ 10 := h
  by_cases hm : m = 0
  · subst hm
    refine ⟨.zero, ?_, by cases negative <;> decide⟩
    have hdigits : (⟨negative, 0, 2⟩ : Numeric).digits = [] := by simp [digits, digitsFrom]
    unfold toDecimal
    rw [hdigits]
    rfl
  · exact ⟨_, toDecimal_cents negative hlt (Nat.pos_of_ne_zero hm) (by omega), .refl _⟩

end Sql.Numeric

end Circulation
