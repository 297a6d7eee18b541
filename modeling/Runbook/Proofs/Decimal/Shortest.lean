import Runbook.Proofs.Decimal.Digits
import Runbook.Proofs.Decimal.Rounding

/-! The digits chosen for a number are digits of which the number is the nearest one. -/

namespace Runbook.Decimal

open Binary64

/-! ## Digits with a power of ten -/

/-- Digits stand for the ratio that they are equal to. -/
theorem scaleTen_eq_ofRatio (neg : Bool) {m n d : ℕ} {exp : ℤ} (hd : 0 < d)
    (h : (m : ℚ) * 10 ^ exp = n / d) : scaleTen neg m exp = ofRatio neg n d := by
  have hd' : (d : ℚ) ≠ 0 := by exact_mod_cast hd.ne'
  rw [eq_div_iff hd'] at h
  unfold scaleTen
  split
  · rename_i hexp
    obtain ⟨k, rfl⟩ := Int.eq_ofNat_of_zero_le hexp
    refine ofRatio_congr neg one_pos hd ?_
    rw [zpow_natCast] at h
    rw [Int.toNat_natCast, mul_one]
    exact_mod_cast h
  · rename_i hexp
    obtain ⟨k, hk⟩ := Int.eq_ofNat_of_zero_le (show 0 ≤ -exp by omega)
    refine ofRatio_congr neg (by positivity) hd ?_
    rw [show exp = -(k : ℤ) by omega, zpow_neg, zpow_natCast, mul_right_comm,
      mul_inv_eq_iff_eq_mul₀ (by positivity)] at h
    rw [hk, Int.toNat_natCast]
    exact_mod_cast h

theorem exists_ratio_scaleTen (neg : Bool) (m : ℕ) (exp : ℤ) :
    ∃ n d : ℕ, 0 < d ∧ (m : ℚ) * 10 ^ exp = n / d ∧ scaleTen neg m exp = ofRatio neg n d := by
  by_cases hexp : 0 ≤ exp
  · obtain ⟨k, rfl⟩ := Int.eq_ofNat_of_zero_le hexp
    refine ⟨m * 10 ^ k, 1, one_pos, by simp, ?_⟩
    simp [scaleTen]
  · obtain ⟨k, hk⟩ := Int.eq_ofNat_of_zero_le (show 0 ≤ -exp by omega)
    refine ⟨m, 10 ^ k, by positivity, ?_, ?_⟩
    · rw [show exp = -(k : ℤ) by omega, zpow_neg, zpow_natCast, div_eq_mul_inv]
      norm_num
    · simp [scaleTen, hexp, hk]

theorem scaleTen_congr (neg : Bool) {m m' : ℕ} {exp exp' : ℤ}
    (h : (m : ℚ) * 10 ^ exp = m' * 10 ^ exp') : scaleTen neg m exp = scaleTen neg m' exp' := by
  obtain ⟨n, d, hd, hvalue, hscale⟩ := exists_ratio_scaleTen neg m' exp'
  rw [hscale]
  exact scaleTen_eq_ofRatio neg hd (h.trans hvalue)

theorem scaleTen_zero (neg : Bool) (exp : ℤ) : scaleTen neg 0 exp = zero neg := by
  unfold scaleTen
  split <;> simp [ofRatio]

/-! ## The digits of a number -/

theorem scaleTen_of_onGrid? {x : Binary64} {neg : Bool} {n d : ℕ} {exp : ℤ} {r : Digits}
    (h : onGrid? x neg n d exp = some r) : scaleTen neg r.digits r.exp = x := by
  unfold onGrid? at h
  simp only [decide_eq_true_eq] at h
  split_ifs at h with hnear hlow hhigh
  all_goals
    obtain rfl := Option.some.inj h
    assumption

theorem scaleTen_of_firstGrid? {x : Binary64} {neg : Bool} {n d : ℕ} {mag : ℤ} {counts : List ℕ}
    {r : Digits} (h : firstGrid? x neg n d mag counts = some r) :
    scaleTen neg r.digits r.exp = x := by
  induction counts with
  | nil => cases h
  | cons count counts ih =>
    unfold firstGrid? at h
    split at h
    · rename_i hgrid
      obtain rfl := Option.some.inj h
      exact scaleTen_of_onGrid? hgrid
    · exact ih h

theorem scaleTen_exact {neg : Bool} {sig : ℕ} {exp : ℤ} (hsig : sig ≠ 0) (h : IsCanonical sig exp) :
    scaleTen neg (exact sig exp).digits (exact sig exp).exp = .finite neg sig exp h := by
  rw [← ofRatio_ratio neg hsig h]
  refine scaleTen_eq_ofRatio neg (ratio_den_pos sig exp) ?_
  rw [ratio_div]
  unfold exact
  split
  · rename_i hexp
    obtain ⟨k, rfl⟩ := Int.eq_ofNat_of_zero_le hexp
    simp
  · rename_i hexp
    obtain ⟨k, hk⟩ := Int.eq_ofNat_of_zero_le (show 0 ≤ -exp by omega)
    rw [hk, show exp = -(k : ℤ) by omega, Int.toNat_natCast, zpow_neg, zpow_neg, zpow_natCast,
      zpow_natCast, show (10 : ℚ) = 2 * 5 by norm_num, mul_pow]
    push_cast
    field_simp

theorem scaleTen_stripZeros (neg : Bool) (fuel : ℕ) (r : Digits) :
    scaleTen neg (stripZeros fuel r).digits (stripZeros fuel r).exp = scaleTen neg r.digits r.exp := by
  induction fuel generalizing r with
  | zero => rfl
  | succ fuel ih =>
    unfold stripZeros
    split
    · rename_i hzero
      rw [ih]
      refine scaleTen_congr neg ?_
      have hten : r.digits = r.digits / 10 * 10 := by omega
      have hten' : (r.digits : ℚ) = ((r.digits / 10 : ℕ) : ℚ) * 10 := by exact_mod_cast hten
      rw [zpow_add₀ (by norm_num), zpow_one, hten']
      ring
    · rfl

/-- The digits of a number other than zero read back as the number. -/
theorem scaleTen_shortest {neg : Bool} {sig : ℕ} {exp : ℤ} (hsig : sig ≠ 0)
    (h : IsCanonical sig exp) :
    scaleTen neg (shortest (.finite neg sig exp h) neg sig exp).digits
      (shortest (.finite neg sig exp h) neg sig exp).exp = .finite neg sig exp h := by
  simp only [shortest, scaleTen_stripZeros]
  cases hgrid : firstGrid? (.finite neg sig exp h) neg (ratio sig exp).1 (ratio sig exp).2
      (magnitude (ratio sig exp).1 (ratio sig exp).2) (List.range' 1 17) with
  | none => exact scaleTen_exact hsig h
  | some r => exact scaleTen_of_firstGrid? hgrid

theorem shortest_digits_ne_zero {neg : Bool} {sig : ℕ} {exp : ℤ} (hsig : sig ≠ 0)
    (h : IsCanonical sig exp) : (shortest (.finite neg sig exp h) neg sig exp).digits ≠ 0 := by
  intro hzero
  have hback := @scaleTen_shortest neg sig exp hsig h
  rw [hzero, scaleTen_zero] at hback
  injection hback with _ hsig'
  exact hsig hsig'.symm

/-! ## The range of the digits -/

/-- The point of digits that read back as a number other than zero is not far away. -/
theorem point_range {neg neg' : Bool} {m sig : ℕ} {exp exp' : ℤ} {h : IsCanonical sig exp}
    (hm : m ≠ 0) (hsig : sig ≠ 0) (heq : scaleTen neg m exp' = .finite neg' sig exp h) :
    -400 ≤ (Text.natText m).length + exp' ∧ (Text.natText m).length + exp' ≤ 400 := by
  obtain ⟨n, d, hd, hvalue, hscale⟩ := exists_ratio_scaleTen neg m exp'
  have hn : n ≠ 0 := by
    rintro rfl
    have hpow : (10 : ℚ) ^ exp' ≠ 0 := by positivity
    simp [hm, hpow] at hvalue
  obtain ⟨hlow, hhigh⟩ := range_of_ofRatio hn hd hsig (hscale.symm.trans heq)
  rw [← hvalue] at hlow hhigh
  have hpos := natText_length_pos m
  have hupper : (m : ℚ) < 10 ^ (((Text.natText m).length : ℕ) : ℤ) := by
    rw [zpow_natCast]
    exact_mod_cast lt_pow_natText_length m
  have hlower : (10 : ℚ) ^ (((Text.natText m).length : ℤ) - 1) ≤ m := by
    rw [show ((Text.natText m).length : ℤ) - 1 = (((Text.natText m).length - 1 : ℕ) : ℤ) by omega,
      zpow_natCast]
    exact_mod_cast pow_natText_length_le hm
  have hten (k : ℕ) : (2 : ℚ) ^ ((3 * k : ℕ) : ℤ) ≤ 10 ^ (k : ℤ) := by
    rw [zpow_natCast, zpow_natCast, pow_mul]
    exact pow_le_pow_left₀ (by norm_num) (by norm_num) k
  have hpow : (0 : ℚ) < 10 ^ exp' := by positivity
  constructor
  · have hchain : (10 : ℚ) ^ (-400 : ℤ) < 10 ^ (((Text.natText m).length : ℤ) + exp') := by
      calc (10 : ℚ) ^ (-400 : ℤ) = ((10 : ℚ) ^ ((400 : ℕ) : ℤ))⁻¹ := by rw [← zpow_neg]; rfl
        _ ≤ ((2 : ℚ) ^ ((3 * 400 : ℕ) : ℤ))⁻¹ := inv_anti₀ (by positivity) (hten 400)
        _ = (2 : ℚ) ^ (-((3 * 400 : ℕ) : ℤ)) := by rw [zpow_neg]
        _ ≤ (2 : ℚ) ^ (-((1074 + 2 : ℕ) : ℤ)) :=
          zpow_le_zpow_right₀ (by norm_num) (by omega)
        _ ≤ m * 10 ^ exp' := hlow
        _ < 10 ^ (((Text.natText m).length : ℕ) : ℤ) * 10 ^ exp' := by gcongr
        _ = 10 ^ (((Text.natText m).length : ℤ) + exp') := by rw [zpow_add₀ (by norm_num)]
    have := (zpow_lt_zpow_iff_right₀ (by norm_num : (1 : ℚ) < 10)).mp hchain
    omega
  · have hchain : (10 : ℚ) ^ (((Text.natText m).length : ℤ) - 1 + exp') < 10 ^ ((400 : ℕ) : ℤ) := by
      calc (10 : ℚ) ^ (((Text.natText m).length : ℤ) - 1 + exp')
          = 10 ^ (((Text.natText m).length : ℤ) - 1) * 10 ^ exp' := by rw [zpow_add₀ (by norm_num)]
        _ ≤ m * 10 ^ exp' := by gcongr
        _ < (2 : ℚ) ^ ((1024 : ℕ) : ℤ) := hhigh
        _ ≤ (2 : ℚ) ^ ((3 * 400 : ℕ) : ℤ) := zpow_le_zpow_right₀ (by norm_num) (by omega)
        _ ≤ 10 ^ ((400 : ℕ) : ℤ) := hten 400
    have := (zpow_lt_zpow_iff_right₀ (by norm_num : (1 : ℚ) < 10)).mp hchain
    omega

end Runbook.Decimal
