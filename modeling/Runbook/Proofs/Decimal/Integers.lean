import Runbook.Proofs.Decimal.Rounding

/-! The naturals of 53 bits nearest to others, and the numbers nearest to integers, in their order. Up to 2^53 every
integer is a number; beyond that a larger integer may have the same nearest number, but never a smaller one. -/

namespace Runbook.Binary64

/-! ## Rounded quotients -/

theorem roundDiv_one (n : ℕ) : roundDiv n 1 = n := by
  simpa using roundDiv_mul_self n 1 one_pos

theorem roundDiv_cases (n d : ℕ) :
    (roundDiv n d = n / d ∧ 2 * (n % d) ≤ d) ∨ (roundDiv n d = n / d + 1 ∧ d ≤ 2 * (n % d)) := by
  unfold roundDiv
  dsimp only
  split_ifs <;> omega

theorem roundDiv_mono {m n : ℕ} (d : ℕ) (h : m ≤ n) : roundDiv m d ≤ roundDiv n d := by
  rcases Nat.eq_zero_or_pos d with rfl | hd
  · simp only [roundDiv, Nat.div_zero, Nat.mod_zero]
    split_ifs <;> omega
  have hdiv : m / d ≤ n / d := Nat.div_le_div_right h
  rcases hdiv.lt_or_eq with hlt | heq
  · have hm := roundDiv_cases m d
    have hn := roundDiv_cases n d
    omega
  · have hmod : m % d ≤ n % d := by
      have hm := Nat.div_add_mod m d
      have hn := Nat.div_add_mod n d
      rw [heq] at hm
      omega
    unfold roundDiv
    simp only [heq]
    split_ifs <;> omega

theorem roundDiv_le {n d k : ℕ} (hd : 0 < d) (h : n ≤ k * d) : roundDiv n d ≤ k := by
  simpa [roundDiv_mul_self k d hd] using roundDiv_mono d h

theorem le_roundDiv {n d k : ℕ} (hd : 0 < d) (h : k * d ≤ n) : k ≤ roundDiv n d := by
  simpa [roundDiv_mul_self k d hd] using roundDiv_mono d h

/-- A quotient is rounded by half a unit at most. -/
theorem two_mul_dist_roundDiv (n : ℕ) {d : ℕ} (hd : 0 < d) :
    2 * |((roundDiv n d * d : ℕ) : ℤ) - n| ≤ d := by
  have hn := Nat.div_add_mod n d
  have hmod := Nat.mod_lt n hd
  rw [mul_comm] at hn
  have habs (a b c : ℕ) (h : 2 * a ≤ 2 * b + c) (h' : 2 * b ≤ 2 * a + c) : 2 * |(a : ℤ) - b| ≤ c := by
    rcases abs_cases ((a : ℤ) - b) with ⟨h₁, -⟩ | ⟨h₁, -⟩ <;> omega
  rcases roundDiv_cases n d with ⟨heq, hle⟩ | ⟨heq, hle⟩
  · rw [heq]
    apply habs <;> omega
  · rw [heq, Nat.succ_mul]
    apply habs <;> omega

/-- No multiple of the divisor is nearer than the one by the rounded quotient. -/
theorem dist_roundDiv_le (n : ℕ) {d : ℕ} (hd : 0 < d) (k : ℕ) :
    |((roundDiv n d * d : ℕ) : ℤ) - n| ≤ |((k * d : ℕ) : ℤ) - n| := by
  have hn := Nat.div_add_mod n d
  have hmod := Nat.mod_lt n hd
  rw [mul_comm] at hn
  -- The multiple is no more than the one below the number, or no less than the one above it.
  have hother : k * d ≤ n / d * d ∨ n / d * d + d ≤ k * d := by
    rcases Nat.lt_or_ge (n / d) k with hlt | hle
    · exact .inr (by simpa [Nat.succ_mul] using Nat.mul_le_mul_right d hlt)
    · exact .inl (Nat.mul_le_mul_right d hle)
  have habs (a b c r : ℕ) (ha : a ≤ b + r ∧ b ≤ a + r) (hc : c + r ≤ b ∨ b + r ≤ c) :
      |(a : ℤ) - b| ≤ |(c : ℤ) - b| := by
    rcases abs_cases ((a : ℤ) - b) with h₁ | h₁ <;> rcases abs_cases ((c : ℤ) - b) with h₂ | h₂ <;> omega
  rcases roundDiv_cases n d with ⟨heq, hle⟩ | ⟨heq, hle⟩
  · rw [heq]
    apply habs _ _ _ (n % d) <;> omega
  · rw [heq, Nat.succ_mul]
    apply habs _ _ _ (d - n % d) <;> omega

/-! ## Naturals of 53 bits -/

/-- The natural nearest to another one of those with 53 bits before their zeros, ties to even. -/
def nearestNat (n : ℕ) : ℕ :=
  if n < 2 ^ 53 then n else roundDiv n (2 ^ (n.log2 - 52)) * 2 ^ (n.log2 - 52)

theorem nearestNat_of_lt {n : ℕ} (h : n < 2 ^ 53) : nearestNat n = n := if_pos h

theorem nearestNat_of_le {n : ℕ} (h : 2 ^ 53 ≤ n) :
    nearestNat n = roundDiv n (2 ^ (n.log2 - 52)) * 2 ^ (n.log2 - 52) := if_neg (not_lt.mpr h)

theorem log2_bounds {n : ℕ} (h : 2 ^ 53 ≤ n) :
    53 ≤ n.log2 ∧ 2 ^ 52 * 2 ^ (n.log2 - 52) ≤ n ∧ n < 2 ^ 53 * 2 ^ (n.log2 - 52) := by
  have hn : n ≠ 0 := by
    rintro rfl
    exact absurd h (by norm_num)
  have hlog : 53 ≤ n.log2 := (Nat.le_log2 hn).mpr h
  refine ⟨hlog, ?_, ?_⟩
  · rw [← pow_add, show 52 + (n.log2 - 52) = n.log2 by omega]
    exact Nat.log2_self_le hn
  · rw [← pow_add, show 53 + (n.log2 - 52) = n.log2 + 1 by omega]
    exact Nat.lt_log2_self

/-- The nearest natural has as many bits, or is the next power of two. -/
theorem nearestNat_bounds {n : ℕ} (h : 2 ^ 53 ≤ n) :
    2 ^ n.log2 ≤ nearestNat n ∧ nearestNat n ≤ 2 ^ (n.log2 + 1) := by
  obtain ⟨hlog, hlow, hhigh⟩ := log2_bounds h
  have hpow : 0 < 2 ^ (n.log2 - 52) := Nat.two_pow_pos _
  rw [nearestNat_of_le h]
  constructor
  · calc 2 ^ n.log2 = 2 ^ 52 * 2 ^ (n.log2 - 52) := by rw [← pow_add]; congr 1; omega
      _ ≤ roundDiv n (2 ^ (n.log2 - 52)) * 2 ^ (n.log2 - 52) :=
        Nat.mul_le_mul_right _ (le_roundDiv hpow hlow)
  · calc roundDiv n (2 ^ (n.log2 - 52)) * 2 ^ (n.log2 - 52)
        ≤ 2 ^ 53 * 2 ^ (n.log2 - 52) := Nat.mul_le_mul_right _ (roundDiv_le hpow hhigh.le)
      _ = 2 ^ (n.log2 + 1) := by rw [← pow_add]; congr 1; omega

theorem nearestNat_mono : Monotone nearestNat := by
  intro m n h
  by_cases hm : m < 2 ^ 53
  · rw [nearestNat_of_lt hm]
    by_cases hn : n < 2 ^ 53
    · rwa [nearestNat_of_lt hn]
    · have hn := not_lt.mp hn
      calc m ≤ 2 ^ 53 := hm.le
        _ ≤ 2 ^ n.log2 := Nat.pow_le_pow_right two_pos (log2_bounds hn).1
        _ ≤ nearestNat n := (nearestNat_bounds hn).1
  · have hm := not_lt.mp hm
    have hn := hm.trans h
    have hlog : m.log2 ≤ n.log2 := by
      have hzero : n ≠ 0 := by
        rintro rfl
        exact absurd hn (by norm_num)
      exact (Nat.le_log2 hzero).mpr ((Nat.log2_self_le (by omega)).trans h)
    rcases hlog.lt_or_eq with hlt | heq
    · calc nearestNat m ≤ 2 ^ (m.log2 + 1) := (nearestNat_bounds hm).2
        _ ≤ 2 ^ n.log2 := Nat.pow_le_pow_right two_pos hlt
        _ ≤ nearestNat n := (nearestNat_bounds hn).1
    · rw [nearestNat_of_le hm, nearestNat_of_le hn, heq]
      exact Nat.mul_le_mul_right _ (roundDiv_mono _ h)

theorem nearestNat_eq_self {n : ℕ} (h : n ≤ 2 ^ 53) : nearestNat n = n := by
  rcases h.lt_or_eq with hlt | rfl
  · exact nearestNat_of_lt hlt
  · decide +kernel

/-- The nearest natural is off by no more than one part in 2^53. -/
theorem dist_nearestNat (n : ℕ) : 2 ^ 53 * |(nearestNat n : ℤ) - n| ≤ n := by
  by_cases hn : n < 2 ^ 53
  · simp [nearestNat_of_lt hn]
  · have hn := not_lt.mp hn
    obtain ⟨-, hlow, -⟩ := log2_bounds hn
    have hdist := two_mul_dist_roundDiv n (Nat.two_pow_pos (n.log2 - 52))
    rw [nearestNat_of_le hn]
    zify at hlow
    push_cast at hdist ⊢
    linarith

/-- No natural of 53 bits and zeros behind them is nearer than the nearest one. -/
theorem dist_nearestNat_le (n : ℕ) {k : ℕ} (hk : k < 2 ^ 53) (e : ℕ) :
    |(nearestNat n : ℤ) - n| ≤ |((k * 2 ^ e : ℕ) : ℤ) - n| := by
  by_cases hn : n < 2 ^ 53
  · simp [nearestNat_of_lt hn]
  have hn := not_lt.mp hn
  obtain ⟨-, hlow, -⟩ := log2_bounds hn
  rw [nearestNat_of_le hn]
  rcases Nat.lt_or_ge e (n.log2 - 52) with hlt | hle
  · -- The natural is below the least one with as many bits as the number, which is a multiple.
    have hbelow : k * 2 ^ e ≤ 2 ^ 52 * 2 ^ (n.log2 - 52) := by
      calc k * 2 ^ e ≤ 2 ^ 53 * 2 ^ e := Nat.mul_le_mul_right _ hk.le
        _ = 2 ^ 52 * 2 ^ (e + 1) := by rw [← pow_add, ← pow_add]; congr 1; omega
        _ ≤ 2 ^ 52 * 2 ^ (n.log2 - 52) := Nat.mul_le_mul_left _ (Nat.pow_le_pow_right two_pos hlt)
    have hnearer := dist_roundDiv_le n (Nat.two_pow_pos (n.log2 - 52)) (2 ^ 52)
    refine hnearer.trans ?_
    rw [abs_sub_comm, abs_sub_comm _ (n : ℤ), abs_of_nonneg (by omega), abs_of_nonneg (by omega)]
    omega
  · have hmultiple : k * 2 ^ e = k * 2 ^ (e - (n.log2 - 52)) * 2 ^ (n.log2 - 52) := by
      rw [mul_assoc, ← pow_add, Nat.sub_add_cancel hle]
    rw [hmultiple]
    exact dist_roundDiv_le n (Nat.two_pow_pos _) _

/-! ## The order of numbers -/

/-- The least power of two that is infinite, which is 2^1024. -/
@[irreducible] def infinity : ℕ := 2 ^ 53 * 2 ^ 971

/-- The count of least numbers in one. -/
@[irreducible] def unit : ℕ := 2 ^ 1074

theorem infinity_pos : 0 < infinity := by
  unfold infinity
  exact Nat.mul_pos (pow_pos two_pos 53) (pow_pos two_pos 971)

theorem unit_pos : 0 < unit := by
  unfold unit
  exact pow_pos two_pos 1074

theorem two_pow_le_mul {a b k : ℕ} (h : k ≤ a + b) : 2 ^ k ≤ 2 ^ a * 2 ^ b := by
  calc 2 ^ k ≤ 2 ^ (a + b) := pow_le_pow_right₀ one_le_two h
    _ = 2 ^ a * 2 ^ b := pow_add 2 a b

/-- Numbers in their order: the value of a number scaled by 2^1074, with the infinite ones beyond all others. -/
def rank : Binary64 → ℤ
  | .infinite true => -(infinity * unit : ℕ)
  | .infinite false => (infinity * unit : ℕ)
  | .finite neg sig exp h => (finite neg sig exp h).scaled
  | .nan => 0

theorem abs_scaled_lt (neg : Bool) {sig : ℕ} {exp : ℤ} (h : IsCanonical sig exp) :
    |(finite neg sig exp h).scaled| < (infinity * unit : ℕ) := by
  have hsig : sig < 2 ^ 53 := h.2.2.1
  have hpow : 2 ^ (exp + 1074).toNat ≤ 2 ^ 971 * unit := by
    unfold unit
    have := h.2.1
    exact two_pow_le_mul (by omega)
  have hassoc (a b c : ℕ) : a * (b * c) = a * b * c := (mul_assoc a b c).symm
  have hlt : sig * 2 ^ (exp + 1074).toNat < infinity * unit := by
    calc sig * 2 ^ (exp + 1074).toNat < 2 ^ 53 * 2 ^ (exp + 1074).toNat :=
          Nat.mul_lt_mul_of_pos_right hsig (pow_pos two_pos _)
      _ ≤ 2 ^ 53 * (2 ^ 971 * unit) := Nat.mul_le_mul_left _ hpow
      _ = infinity * unit := by
        unfold infinity
        exact hassoc _ _ _
  have habs : |(finite neg sig exp h).scaled| = ((sig * 2 ^ (exp + 1074).toNat : ℕ) : ℤ) := by
    cases neg <;> simp only [scaled, if_true, Bool.false_eq_true, if_false, abs_neg] <;>
      exact abs_of_nonneg (Int.natCast_nonneg _)
  rw [habs]
  exact Int.ofNat_lt.mpr hlt

/-- One number is below another, or equal to it, as its rank is. -/
theorem order_eq_rank {x y : Binary64} (hx : x ≠ .nan) (hy : y ≠ .nan) :
    x.less y = decide (x.rank < y.rank) ∧ x.eqv y = decide (x.rank = y.rank) := by
  have hpos : (0 : ℤ) < (infinity * unit : ℕ) := Int.ofNat_lt.mpr (Nat.mul_pos infinity_pos unit_pos)
  cases x with
  | nan => exact absurd rfl hx
  | infinite m =>
    cases y with
    | nan => exact absurd rfl hy
    | infinite n => cases m <;> cases n <;> simp [less, eqv, rank] <;> omega
    | finite neg sig exp h =>
      have hlt := abs_lt.mp (abs_scaled_lt neg h)
      cases m <;> simp [less, eqv, rank] <;> omega
  | finite neg sig exp h =>
    have hlt := abs_lt.mp (abs_scaled_lt neg h)
    cases y with
    | nan => exact absurd rfl hy
    | infinite n => cases n <;> simp [less, eqv, rank] <;> omega
    | finite neg' sig' exp' h' => exact ⟨rfl, rfl⟩

/-! ## The number nearest to an integer -/

theorem rank_ofParts (neg : Bool) {sig : ℕ} {exp : ℤ} (hexp : -1074 ≤ exp) (hlow : 2 ^ 52 ≤ sig)
    (hhigh : sig < 2 ^ 53) :
    (ofParts neg sig exp).rank =
      (bif neg then -1 else 1) * (min (sig * 2 ^ (exp + 1074).toNat) (infinity * unit) : ℕ) := by
  by_cases hmax : exp ≤ 971
  · have hcanonical : IsCanonical sig exp := ⟨hexp, hmax, hhigh, .inr hlow⟩
    have hlt := abs_scaled_lt false hcanonical
    simp only [scaled, Bool.false_eq_true, if_false, Nat.abs_cast] at hlt
    rw [min_eq_left (Int.ofNat_lt.mp hlt).le]
    cases neg <;> simp [ofParts, hcanonical, rank, scaled]
  · have hnot : ¬ IsCanonical sig exp := fun h => hmax h.2.1
    have hle : infinity * unit ≤ sig * 2 ^ (exp + 1074).toNat := by
      have hassoc (a b c : ℕ) : a * b * c = a * (b * c) := mul_assoc a b c
      calc infinity * unit ≤ 2 ^ 52 * 2 ^ (exp + 1074).toNat := by
            unfold infinity unit
            rw [← pow_add, ← pow_add, ← pow_add]
            exact pow_le_pow_right₀ one_le_two (by omega)
        _ ≤ sig * 2 ^ (exp + 1074).toNat := Nat.mul_le_mul_right _ hlow
    rw [min_eq_right hle]
    cases neg <;> simp [ofParts, hnot, rank]

theorem exponentOf_one {n : ℕ} (hn : n ≠ 0) : exponentOf n 1 = (n.log2 : ℤ) - 52 := by
  have hlog : ((Nat.log 2 n : ℕ) : ℤ) - 52 ≥ -1074 := by omega
  rw [exponentOf_eq hn one_pos]
  simpa [Int.log_natCast, Nat.log2_eq_log_two] using hlog

theorem roundScaled_one_of_nonpos {n : ℕ} {exp : ℤ} (h : exp ≤ 0) :
    roundScaled n 1 exp = n * 2 ^ (-exp).toNat := by
  unfold roundScaled
  by_cases hzero : 0 ≤ exp
  · have heq : exp = 0 := by omega
    subst heq
    simp [roundDiv_one]
  · rw [if_neg hzero]
    exact roundDiv_one _

theorem roundScaled_one_of_nonneg {n : ℕ} {exp : ℤ} (h : 0 ≤ exp) :
    roundScaled n 1 exp = roundDiv n (2 ^ exp.toNat) := by
  simp [roundScaled, h]

/-- A natural below 2^53 has a significand of 53 bits by zeros put behind its own. -/
theorem rank_ofRatio_of_lt (neg : Bool) {n : ℕ} (hzero : n ≠ 0) (h : n < 2 ^ 53) :
    (ofRatio neg n 1).rank = (bif neg then -1 else 1) * (min (n * unit) (infinity * unit) : ℕ) := by
  have hlog : n.log2 < 53 := (Nat.log2_lt hzero).mpr h
  have hexp := exponentOf_one hzero
  have hsig : roundScaled n 1 (exponentOf n 1) = n * 2 ^ (52 - n.log2) := by
    rw [roundScaled_one_of_nonpos (by omega)]
    congr 2
    omega
  have hlow : 2 ^ 52 ≤ n * 2 ^ (52 - n.log2) := by
    calc 2 ^ 52 = 2 ^ n.log2 * 2 ^ (52 - n.log2) := by rw [← pow_add]; congr 1; omega
      _ ≤ n * 2 ^ (52 - n.log2) := Nat.mul_le_mul_right _ (Nat.log2_self_le hzero)
  have hhigh : n * 2 ^ (52 - n.log2) < 2 ^ 53 := by
    calc n * 2 ^ (52 - n.log2) < 2 ^ (n.log2 + 1) * 2 ^ (52 - n.log2) :=
          Nat.mul_lt_mul_of_pos_right Nat.lt_log2_self (pow_pos two_pos _)
      _ = 2 ^ 53 := by rw [← pow_add]; congr 1; omega
  have hunit : n * 2 ^ (52 - n.log2) * 2 ^ (exponentOf n 1 + 1074).toNat = n * unit := by
    unfold unit
    rw [mul_assoc n, ← pow_add]
    congr 2
    omega
  simp only [ofRatio, hzero, if_false, hsig, hhigh.ne]
  rw [rank_ofParts neg (by omega) hlow hhigh, hunit]

theorem rank_ofRatio_of_le (neg : Bool) {n : ℕ} (h : 2 ^ 53 ≤ n) :
    (ofRatio neg n 1).rank = (bif neg then -1 else 1) * (min (nearestNat n * unit) (infinity * unit) : ℕ) := by
  have hzero : n ≠ 0 := by
    rintro rfl
    exact absurd h (by norm_num)
  obtain ⟨hlog, hlow, hhigh⟩ := log2_bounds h
  have hpow : 0 < 2 ^ (n.log2 - 52) := pow_pos two_pos _
  have hexp := exponentOf_one hzero
  have hsig : roundScaled n 1 (exponentOf n 1) = roundDiv n (2 ^ (n.log2 - 52)) := by
    rw [roundScaled_one_of_nonneg (by omega)]
    congr 2
    omega
  have hunit (k : ℕ) : k * 2 ^ (n.log2 - 52) * unit = k * 2 ^ (exponentOf n 1 + 1074).toNat := by
    unfold unit
    rw [mul_assoc k, ← pow_add]
    congr 2
    omega
  simp only [ofRatio, hzero, if_false, hsig]
  rw [nearestNat_of_le h, hunit]
  split_ifs with htop
  · -- A significand rounded up to 2^53 is half as much one exponent up.
    have hdouble : 2 ^ 52 * 2 ^ (exponentOf n 1 + 1 + 1074).toNat = 2 ^ 53 * 2 ^ (exponentOf n 1 + 1074).toNat := by
      rw [← pow_add, ← pow_add]
      congr 1
      omega
    rw [rank_ofParts neg (by omega) le_rfl (by norm_num), hdouble, htop]
  · rw [rank_ofParts neg (by omega) (le_roundDiv hpow hlow)
      (lt_of_le_of_ne (roundDiv_le hpow hhigh.le) htop)]

/-- The number nearest to an integer is that to the nearest natural of 53 bits, if that is below infinity. -/
theorem rank_ofRatio (neg : Bool) (n : ℕ) :
    (ofRatio neg n 1).rank = (bif neg then -1 else 1) * (min (nearestNat n * unit) (infinity * unit) : ℕ) := by
  by_cases hzero : n = 0
  · subst hzero
    cases neg <;> simp [ofRatio, zero, rank, scaled, nearestNat]
  · by_cases h : n < 2 ^ 53
    · rw [nearestNat_of_lt h]
      exact rank_ofRatio_of_lt neg hzero h
    · exact rank_ofRatio_of_le neg (not_lt.mp h)

/-- The integer whose value is that of the number nearest to another one; beyond all numbers it is 2^1024. -/
def nearest (n : ℤ) : ℤ := (bif n < 0 then -1 else 1) * (min (nearestNat n.natAbs) infinity : ℕ)

/-- The least natural that is rounded to infinity. -/
@[irreducible] def overflow : ℕ := 2 ^ 1024 - 2 ^ 970

theorem infinity_le_nearestNat_iff (n : ℕ) : infinity ≤ nearestNat n ↔ overflow ≤ n := by
  have hover : infinity ≤ nearestNat overflow := by decide +kernel
  have hunder : nearestNat (overflow - 1) < infinity := by decide +kernel
  constructor
  · intro h
    by_contra hn
    have hle : n ≤ overflow - 1 := by omega
    exact absurd (h.trans (nearestNat_mono hle)) (not_le.mpr hunder)
  · intro h
    exact hover.trans (nearestNat_mono h)

theorem two_pow_53_lt_infinity : 2 ^ 53 < infinity := by decide +kernel

theorem nearest_of_nonneg {n : ℤ} (h : 0 ≤ n) : nearest n = (min (nearestNat n.natAbs) infinity : ℕ) := by
  simp [nearest, not_lt.mpr h]

theorem nearest_of_neg {n : ℤ} (h : n < 0) : nearest n = -(min (nearestNat n.natAbs) infinity : ℕ) := by
  simp [nearest, h]

theorem nearest_mono : Monotone nearest := by
  intro m n h
  have hmin {a b : ℕ} (hab : a ≤ b) : min (nearestNat a) infinity ≤ min (nearestNat b) infinity :=
    min_le_min_right _ (nearestNat_mono hab)
  by_cases hm : m < 0
  · rw [nearest_of_neg hm]
    by_cases hn : n < 0
    · rw [nearest_of_neg hn]
      have := hmin (show n.natAbs ≤ m.natAbs by omega)
      omega
    · rw [nearest_of_nonneg (not_lt.mp hn)]
      omega
  · have hn : 0 ≤ n := by omega
    rw [nearest_of_nonneg (not_lt.mp hm), nearest_of_nonneg hn]
    have := hmin (show m.natAbs ≤ n.natAbs by omega)
    omega

/-- Integers of no more than 53 bits are numbers. -/
theorem nearest_eq_self {n : ℤ} (h : |n| ≤ 2 ^ 53) : nearest n = n := by
  have habs : n.natAbs ≤ 2 ^ 53 := by
    rw [Int.abs_eq_natAbs] at h
    exact_mod_cast h
  have hmin : min n.natAbs infinity = n.natAbs := min_eq_left (habs.trans two_pow_53_lt_infinity.le)
  by_cases hn : n < 0
  · rw [nearest_of_neg hn, nearestNat_eq_self habs, hmin]
    omega
  · rw [nearest_of_nonneg (not_lt.mp hn), nearestNat_eq_self habs, hmin]
    omega

/-- Below infinity the nearest number is off by no more than one part in 2^53. -/
theorem dist_nearest {n : ℤ} (h : n.natAbs < overflow) : 2 ^ 53 * |nearest n - n| ≤ |n| := by
  have hlt : nearestNat n.natAbs < infinity := by
    by_contra hle
    exact absurd ((infinity_le_nearestNat_iff _).mp (not_lt.mp hle)) (not_le.mpr h)
  have hdist := dist_nearestNat n.natAbs
  by_cases hn : n < 0
  · rw [nearest_of_neg hn, min_eq_left hlt.le]
    have hsub : -(nearestNat n.natAbs : ℤ) - n = -((nearestNat n.natAbs : ℤ) - n.natAbs) := by omega
    rw [hsub, abs_neg, Int.abs_eq_natAbs n]
    exact hdist
  · rw [nearest_of_nonneg (not_lt.mp hn), min_eq_left hlt.le]
    have hself : (n.natAbs : ℤ) = n := by omega
    rw [hself] at hdist
    rw [Int.abs_eq_natAbs n, hself]
    exact hdist

/-- The number nearest to an integer, whose rank is infinite if it is. -/
def ofInt (n : ℤ) : Binary64 := ofRatio (n < 0) n.natAbs 1

theorem rank_ofInt (n : ℤ) : (ofInt n).rank = nearest n * unit := by
  unfold ofInt nearest
  rw [rank_ofRatio, ← min_mul_of_nonneg _ _ (Nat.zero_le unit)]
  by_cases hn : n < 0 <;> simp [hn]

theorem ofParts_ne_nan (neg : Bool) (sig : ℕ) (exp : ℤ) : ofParts neg sig exp ≠ .nan := by
  unfold ofParts
  split_ifs <;> simp

theorem ofRatio_ne_nan (neg : Bool) (n d : ℕ) : ofRatio neg n d ≠ .nan := by
  unfold ofRatio
  split_ifs
  · simp [zero]
  · dsimp only
    split_ifs <;> exact ofParts_ne_nan _ _ _

/-- The number is the one nearest to the integer, or a zero of either sign. -/
def IsNearest (x : Binary64) (n : ℤ) : Prop := x ≠ .nan ∧ x.rank = nearest n * unit

theorem isNearest_ofInt (n : ℤ) : (ofInt n).IsNearest n := ⟨ofRatio_ne_nan _ _ _, rank_ofInt n⟩

/-- Numbers nearest to integers are in the order of their values. -/
theorem IsNearest.order {x y : Binary64} {m n : ℤ} (hx : x.IsNearest m) (hy : y.IsNearest n) :
    x.less y = decide (nearest m < nearest n) ∧ x.eqv y = decide (nearest m = nearest n) := by
  have hpos : (0 : ℤ) < (unit : ℕ) := Int.ofNat_lt.mpr unit_pos
  obtain ⟨hless, heqv⟩ := order_eq_rank hx.1 hy.1
  rw [hless, heqv, hx.2, hy.2]
  simp [mul_lt_mul_iff_left₀ hpos, unit_pos.ne']

theorem eq_infinite_of_rank {x : Binary64} (neg : Bool)
    (h : x.rank = (bif neg then -1 else 1) * (infinity * unit : ℕ)) : x = .infinite neg := by
  have hpos : (0 : ℤ) < (infinity * unit : ℕ) := Int.ofNat_lt.mpr (Nat.mul_pos infinity_pos unit_pos)
  cases x with
  | nan => cases neg <;> simp only [rank, cond_true, cond_false] at h <;> omega
  | infinite neg' => cases neg <;> cases neg' <;> simp only [rank, cond_true, cond_false] at h ⊢ <;> omega
  | finite neg' sig exp hcanonical =>
    have hlt := abs_lt.mp (abs_scaled_lt neg' hcanonical)
    cases neg <;> simp only [rank, cond_true, cond_false] at h <;> omega

theorem ofRatio_of_overflow (neg : Bool) {n : ℕ} (h : overflow ≤ n) : ofRatio neg n 1 = .infinite neg := by
  apply eq_infinite_of_rank
  rw [rank_ofRatio, ← min_mul_of_nonneg _ _ (Nat.zero_le unit),
    min_eq_right ((infinity_le_nearestNat_iff n).mpr h)]

theorem ofRatio_ne_infinite (neg neg' : Bool) {n : ℕ} (h : n < overflow) : ofRatio neg n 1 ≠ .infinite neg' := by
  have hlt : nearestNat n < infinity := by
    by_contra hle
    exact absurd ((infinity_le_nearestNat_iff n).mp (not_lt.mp hle)) (not_le.mpr h)
  have hscaled : nearestNat n * unit < infinity * unit := Nat.mul_lt_mul_of_pos_right hlt unit_pos
  intro heq
  have hrank := rank_ofRatio neg n
  rw [heq, min_eq_left hscaled.le] at hrank
  cases neg <;> cases neg' <;> simp only [rank, cond_true, cond_false] at hrank <;> omega

/-- An integer has no number as soon as it is rounded to infinity. -/
theorem ofInt?_eq (n : ℤ) : ofInt? n = if overflow ≤ n.natAbs then none else some (ofInt n) := by
  unfold ofInt? ofInt
  by_cases h : overflow ≤ n.natAbs
  · rw [if_pos h, ofRatio_of_overflow _ h]
  · rw [if_neg h]
    split
    · rename_i heq
      exact absurd heq (ofRatio_ne_infinite _ _ (not_le.mp h))
    · rfl

end Runbook.Binary64
