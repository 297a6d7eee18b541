import Mathlib.Data.Int.Log
import Mathlib.Data.Rat.Floor
import Mathlib.Tactic
import Runbook.Decimal.Binary64

/-! Rounding a ratio of naturals depends on its value alone, and every number is what its own value is
rounded to. -/

namespace Runbook.Binary64

/-! ## Quotients -/

theorem roundDiv_mul_right (n d k : ℕ) (hk : 0 < k) : roundDiv (n * k) (d * k) = roundDiv n d := by
  have hlt : 2 * (n % d * k) < d * k ↔ 2 * (n % d) < d := by
    rw [← mul_assoc, Nat.mul_lt_mul_right hk]
  have hgt : d * k < 2 * (n % d * k) ↔ d < 2 * (n % d) := by
    rw [← mul_assoc, Nat.mul_lt_mul_right hk]
  simp only [roundDiv, Nat.mul_div_mul_right n d hk, Nat.mul_mod_mul_right, hlt, hgt]

theorem roundDiv_congr {n d n' d' : ℕ} (hd : 0 < d) (hd' : 0 < d') (h : n * d' = n' * d) :
    roundDiv n d = roundDiv n' d' := by
  rw [← roundDiv_mul_right n d d' hd', h, mul_comm d d', roundDiv_mul_right n' d' d hd]

theorem roundDiv_mul_self (m k : ℕ) (hk : 0 < k) : roundDiv (m * k) k = m := by
  have h := roundDiv_mul_right m 1 k hk
  rw [one_mul] at h
  rw [h]
  simp [roundDiv, Nat.mod_one]

theorem roundDiv_of_four_mul_lt {n d : ℕ} (h : 4 * n < d) : roundDiv n d = 0 := by
  have hn : n < d := by omega
  simp only [roundDiv, Nat.mod_eq_of_lt hn, Nat.div_eq_of_lt hn]
  rw [if_pos (by omega)]

/-! ## The exponent of a ratio -/

theorem atLeastPow_iff {n d : ℕ} (hd : 0 < d) (k : ℤ) :
    atLeastPow n d k = true ↔ (2 : ℚ) ^ k ≤ (n : ℚ) / d := by
  have hd' : (0 : ℚ) < d := by exact_mod_cast hd
  unfold atLeastPow
  split
  · rename_i hk
    obtain ⟨m, rfl⟩ := Int.eq_ofNat_of_zero_le hk
    rw [decide_eq_true_eq, le_div_iff₀ hd', Int.toNat_natCast, zpow_natCast, mul_comm]
    exact_mod_cast Iff.rfl
  · rename_i hk
    obtain ⟨m, hm⟩ := Int.eq_ofNat_of_zero_le (show 0 ≤ -k by omega)
    have hpow : (0 : ℚ) < 2 ^ m := by positivity
    rw [decide_eq_true_eq, hm, show k = -(m : ℤ) by omega, zpow_neg, zpow_natCast, Int.toNat_natCast,
      le_div_iff₀ hd', inv_mul_le_iff₀ hpow, mul_comm]
    exact_mod_cast Iff.rfl

theorem lt_two_zpow_log2 {n d : ℕ} (hd : 0 < d) :
    (n : ℚ) / d < (2 : ℚ) ^ ((n.log2 : ℤ) - d.log2 + 1) := by
  have hn : (n : ℚ) < 2 ^ (n.log2 + 1) := by exact_mod_cast Nat.lt_log2_self
  have hpow : (2 : ℚ) ^ d.log2 ≤ d := by exact_mod_cast Nat.log2_self_le (by omega)
  have hd' : (0 : ℚ) < d := by exact_mod_cast hd
  rw [div_lt_iff₀ hd', show (n.log2 : ℤ) - d.log2 + 1 = ((n.log2 + 1 : ℕ) : ℤ) - (d.log2 : ℕ) by
    push_cast; ring, zpow_sub₀ (by norm_num), zpow_natCast, zpow_natCast]
  calc (n : ℚ) < 2 ^ (n.log2 + 1) := hn
    _ = 2 ^ (n.log2 + 1) / 2 ^ d.log2 * 2 ^ d.log2 := by field_simp
    _ ≤ 2 ^ (n.log2 + 1) / 2 ^ d.log2 * d := by gcongr

theorem two_zpow_log2_le {n d : ℕ} (hn : n ≠ 0) (hd : 0 < d) :
    (2 : ℚ) ^ ((n.log2 : ℤ) - d.log2 - 1) ≤ (n : ℚ) / d := by
  have hpow : (2 : ℚ) ^ n.log2 ≤ n := by exact_mod_cast Nat.log2_self_le hn
  have hlt : (d : ℚ) < 2 ^ (d.log2 + 1) := by exact_mod_cast Nat.lt_log2_self
  have hd' : (0 : ℚ) < d := by exact_mod_cast hd
  rw [le_div_iff₀ hd', show (n.log2 : ℤ) - d.log2 - 1 = (n.log2 : ℕ) - ((d.log2 + 1 : ℕ) : ℤ) by
    push_cast; ring, zpow_sub₀ (by norm_num), zpow_natCast, zpow_natCast]
  calc (2 : ℚ) ^ n.log2 / 2 ^ (d.log2 + 1) * d
      ≤ 2 ^ n.log2 / 2 ^ (d.log2 + 1) * 2 ^ (d.log2 + 1) := by gcongr
    _ = 2 ^ n.log2 := by field_simp
    _ ≤ n := hpow

/-- The exponent is 52 below the logarithm of the ratio, but never below the least one. -/
theorem exponentOf_eq {n d : ℕ} (hn : n ≠ 0) (hd : 0 < d) :
    exponentOf n d = max (Int.log 2 ((n : ℚ) / d) - 52) (-1074) := by
  have hn' : (0 : ℚ) < n := by exact_mod_cast Nat.pos_of_ne_zero hn
  have hd' : (0 : ℚ) < d := by exact_mod_cast hd
  have hq : (0 : ℚ) < (n : ℚ) / d := div_pos hn' hd'
  have hupper : Int.log 2 ((n : ℚ) / d) < (n.log2 : ℤ) - d.log2 + 1 :=
    (Int.lt_zpow_iff_log_lt (by norm_num) hq).mp (by exact_mod_cast lt_two_zpow_log2 hd)
  have hlower : (n.log2 : ℤ) - d.log2 - 1 ≤ Int.log 2 ((n : ℚ) / d) :=
    (Int.zpow_le_iff_le_log (by norm_num) hq).mp (by exact_mod_cast two_zpow_log2_le hn hd)
  have hguess : atLeastPow n d ((n.log2 : ℤ) - d.log2) = true ↔
      (n.log2 : ℤ) - d.log2 ≤ Int.log 2 ((n : ℚ) / d) := by
    rw [atLeastPow_iff hd, ← Int.zpow_le_iff_le_log (by norm_num) hq]
    norm_num
  have htop : (if atLeastPow n d ((n.log2 : ℤ) - d.log2) then (n.log2 : ℤ) - d.log2
      else (n.log2 : ℤ) - d.log2 - 1) = Int.log 2 ((n : ℚ) / d) := by
    by_cases h : atLeastPow n d ((n.log2 : ℤ) - d.log2) = true
    · rw [if_pos h]
      have := hguess.mp h
      omega
    · rw [if_neg h]
      have := mt hguess.mpr h
      omega
  simp only [exponentOf, htop]

theorem exponentOf_congr {n d n' d' : ℕ} (hn : n ≠ 0) (hn' : n' ≠ 0) (hd : 0 < d) (hd' : 0 < d')
    (h : n * d' = n' * d) : exponentOf n d = exponentOf n' d' := by
  have hq : (n : ℚ) / d = (n' : ℚ) / d' := by
    have hd₀ : (d : ℚ) ≠ 0 := by exact_mod_cast hd.ne'
    have hd₀' : (d' : ℚ) ≠ 0 := by exact_mod_cast hd'.ne'
    rw [div_eq_div_iff hd₀ hd₀']
    exact_mod_cast h
  rw [exponentOf_eq hn hd, exponentOf_eq hn' hd', hq]

theorem roundScaled_congr {n d n' d' : ℕ} (hd : 0 < d) (hd' : 0 < d') (h : n * d' = n' * d)
    (exp : ℤ) : roundScaled n d exp = roundScaled n' d' exp := by
  unfold roundScaled
  split
  · refine roundDiv_congr (by positivity) (by positivity) ?_
    rw [← mul_assoc, h, mul_assoc]
  · refine roundDiv_congr hd hd' ?_
    rw [mul_right_comm, h, mul_right_comm]

/-! ## Numbers nearest to a ratio -/

/-- The number nearest to a ratio does not depend on how the ratio is written. -/
theorem ofRatio_congr (neg : Bool) {n d n' d' : ℕ} (hd : 0 < d) (hd' : 0 < d')
    (h : n * d' = n' * d) : ofRatio neg n d = ofRatio neg n' d' := by
  have hzero : n = 0 ↔ n' = 0 := by
    constructor
    · rintro rfl
      simpa [hd.ne'] using h.symm
    · rintro rfl
      simpa [hd'.ne'] using h
  by_cases hn : n = 0
  · simp [ofRatio, hn, hzero.mp hn]
  · have hn' : n' ≠ 0 := mt hzero.mpr hn
    simp only [ofRatio, hn, hn', if_false, exponentOf_congr hn hn' hd hd' h,
      roundScaled_congr hd hd' h]

theorem ratio_den_pos (sig : ℕ) (exp : ℤ) : 0 < (ratio sig exp).2 := by
  unfold ratio
  split <;> simp

theorem ratio_div (sig : ℕ) (exp : ℤ) :
    ((ratio sig exp).1 : ℚ) / (ratio sig exp).2 = sig * 2 ^ exp := by
  unfold ratio
  split
  · rename_i hexp
    obtain ⟨m, rfl⟩ := Int.eq_ofNat_of_zero_le hexp
    simp
  · rename_i hexp
    obtain ⟨m, hm⟩ := Int.eq_ofNat_of_zero_le (show 0 ≤ -exp by omega)
    rw [hm, show exp = -(m : ℤ) by omega]
    simp [zpow_neg, div_eq_mul_inv]

theorem exponentOf_ratio {sig : ℕ} {exp : ℤ} (hsig : sig ≠ 0) (h : IsCanonical sig exp) :
    exponentOf (ratio sig exp).1 (ratio sig exp).2 = exp := by
  obtain ⟨hmin, hmax, hlt, hnormal⟩ := h
  have hnum : (ratio sig exp).1 ≠ 0 := by
    unfold ratio
    split <;> simp [hsig]
  have hpos : (0 : ℚ) < (sig : ℚ) * 2 ^ exp := by
    have : (0 : ℚ) < sig := by exact_mod_cast Nat.pos_of_ne_zero hsig
    positivity
  rw [exponentOf_eq hnum (ratio_den_pos sig exp), ratio_div]
  have hupper : Int.log 2 ((sig : ℚ) * 2 ^ exp) < 53 + exp := by
    refine (Int.lt_zpow_iff_log_lt (by norm_num) hpos).mp ?_
    have hlt' : (sig : ℚ) < 2 ^ 53 := by exact_mod_cast hlt
    push_cast
    rw [zpow_add₀ (by norm_num)]
    exact mul_lt_mul_of_pos_right (by exact_mod_cast hlt') (by positivity)
  rcases hnormal with rfl | hge
  · omega
  · have hlower : 52 + exp ≤ Int.log 2 ((sig : ℚ) * 2 ^ exp) := by
      refine (Int.zpow_le_iff_le_log (by norm_num) hpos).mp ?_
      have hge' : (2 : ℚ) ^ 52 ≤ sig := by exact_mod_cast hge
      push_cast
      rw [zpow_add₀ (by norm_num)]
      exact mul_le_mul_of_nonneg_right (by exact_mod_cast hge') (by positivity)
    omega

theorem roundScaled_ratio (sig : ℕ) (exp : ℤ) :
    roundScaled (ratio sig exp).1 (ratio sig exp).2 exp = sig := by
  unfold ratio roundScaled
  split
  · simp only [one_mul]
    exact roundDiv_mul_self sig _ (by positivity)
  · exact roundDiv_mul_self sig _ (by positivity)

/-- A number is nearest to its own value. -/
theorem ofRatio_ratio (neg : Bool) {sig : ℕ} {exp : ℤ} (hsig : sig ≠ 0) (h : IsCanonical sig exp) :
    ofRatio neg (ratio sig exp).1 (ratio sig exp).2 = .finite neg sig exp h := by
  have hnum : (ratio sig exp).1 ≠ 0 := by
    unfold ratio
    split <;> simp [hsig]
  have hlt : sig ≠ 2 ^ 53 := by
    have := h.2.2.1
    omega
  simp only [ofRatio, hnum, if_false, exponentOf_ratio hsig h, roundScaled_ratio, hlt, ofParts, h,
    dif_pos]

/-! ## Ratios that are out of range -/

theorem ofParts_eq_finite {neg neg' : Bool} {sig sig' : ℕ} {exp exp' : ℤ} {h : IsCanonical sig exp}
    (heq : ofParts neg' sig' exp' = .finite neg sig exp h) : sig' = sig ∧ exp' = exp := by
  unfold ofParts at heq
  split at heq
  · cases heq
    exact ⟨rfl, rfl⟩
  · cases heq

theorem roundScaled_neg (n d k : ℕ) : roundScaled n d (-(k : ℤ)) = roundDiv (n * 2 ^ k) d := by
  unfold roundScaled
  split
  · rename_i hk
    obtain rfl : k = 0 := by omega
    simp
  · simp

theorem roundScaled_eq_zero {n d k : ℕ} (hd : 0 < d)
    (h : (n : ℚ) / d < (2 : ℚ) ^ (-((k + 2 : ℕ) : ℤ))) : roundScaled n d (-(k : ℤ)) = 0 := by
  have hd' : (0 : ℚ) < d := by exact_mod_cast hd
  rw [zpow_neg, zpow_natCast, div_lt_iff₀ hd', lt_inv_mul_iff₀ (by positivity)] at h
  have h' : 2 ^ (k + 2) * n < d := by exact_mod_cast h
  rw [roundScaled_neg]
  apply roundDiv_of_four_mul_lt
  calc 4 * (n * 2 ^ k) = 2 ^ (k + 2) * n := by ring
    _ < d := h'

/-- A ratio that is rounded to a number other than zero lies within the range of numbers. -/
theorem range_of_ofRatio {neg neg' : Bool} {n d sig : ℕ} {exp : ℤ} {h : IsCanonical sig exp}
    (hn : n ≠ 0) (hd : 0 < d) (hsig : sig ≠ 0) (heq : ofRatio neg' n d = .finite neg sig exp h) :
    (2 : ℚ) ^ (-((1074 + 2 : ℕ) : ℤ)) ≤ (n : ℚ) / d ∧ (n : ℚ) / d < (2 : ℚ) ^ ((1024 : ℕ) : ℤ) := by
  have hn' : (0 : ℚ) < n := by exact_mod_cast Nat.pos_of_ne_zero hn
  have hd' : (0 : ℚ) < d := by exact_mod_cast hd
  have hq : (0 : ℚ) < (n : ℚ) / d := div_pos hn' hd'
  have hparts : exponentOf n d ≤ 971 ∧ roundScaled n d (exponentOf n d) ≠ 0 := by
    simp only [ofRatio, hn, if_false] at heq
    have hmax := h.2.1
    split at heq
    · rename_i hcarry
      obtain ⟨_, hexp⟩ := ofParts_eq_finite heq
      rw [hcarry]
      exact ⟨by omega, by norm_num⟩
    · obtain ⟨hs, hexp⟩ := ofParts_eq_finite heq
      exact ⟨by omega, by omega⟩
  have hexp := exponentOf_eq hn hd
  have hlt (k : ℤ) : (n : ℚ) / d < (2 : ℚ) ^ k ↔ Int.log 2 ((n : ℚ) / d) < k := by
    exact_mod_cast Int.lt_zpow_iff_log_lt (b := 2) (by norm_num) hq
  constructor
  · by_contra hsmall
    have hlog := (hlt _).mp (not_le.mp hsmall)
    have hleast : exponentOf n d = -((1074 : ℕ) : ℤ) := by omega
    apply hparts.2
    rw [hleast]
    exact roundScaled_eq_zero hd (not_le.mp hsmall)
  · rw [hlt]
    omega

/-! ## Signs -/

theorem less_zero_ofParts (sig : ℕ) (exp : ℤ) : (ofParts false sig exp).less (.zero false) = false := by
  unfold ofParts
  split_ifs
  · simp [less, zero, scaled]
  · rfl

theorem less_zero_ofRatio (n d : ℕ) : (ofRatio false n d).less (.zero false) = false := by
  unfold ofRatio
  split_ifs
  · rfl
  · dsimp only
    split_ifs <;> exact less_zero_ofParts _ _

/-- The number of an integer that is not below zero is not below zero. -/
theorem less_zero_ofInt? {n : ℤ} {x : Binary64} (hn : 0 ≤ n) (h : ofInt? n = some x) :
    x.less (.zero false) = false := by
  unfold ofInt? at h
  rw [show decide (n < 0) = false by simpa using hn] at h
  split at h
  · cases h
  · obtain rfl := Option.some.inj h
    exact less_zero_ofRatio _ _

end Runbook.Binary64
