import Runbook.Proofs.Decimal.Integers
import Runbook.Proofs.Json.Number
import Runbook.Proofs.Value.Calendar

/-! A text of decimal digits is read as the number nearest to the integer that it writes. -/

namespace Runbook

open Text

namespace Binary64

/-- A natural with a sign before it. -/
def signedNat (neg : Bool) (n : ℕ) : ℤ := bif neg then -n else n

theorem nearest_signedNat (neg : Bool) (n : ℕ) :
    nearest (signedNat neg n) = (bif neg then -1 else 1) * (min (nearestNat n) infinity : ℕ) := by
  by_cases hn : n = 0
  · subst hn
    cases neg <;> decide +kernel
  · cases neg with
    | false => simp [signedNat, nearest, not_lt.mpr (Int.natCast_nonneg n)]
    | true => simp [signedNat, nearest, Nat.pos_of_ne_zero hn]

theorem rank_eq_nearest_signedNat (neg : Bool) (n : ℕ) : (ofRatio neg n 1).rank = nearest (signedNat neg n) * unit := by
  rw [rank_ofRatio, nearest_signedNat, ← min_mul_of_nonneg _ _ (Nat.zero_le unit)]
  push_cast
  ring

end Binary64

namespace Decimal

open Binary64

/-- Digits with no exponent are read as the number nearest to their natural, also where there are so many that it is
not computed. -/
theorem ofDigits_eq_ofRatio (neg : Bool) (ds : List Char) : ofDigits neg ds 0 = ofRatio neg (digitsValue ds) 1 := by
  by_cases hzero : digitsValue ds = 0
  · simp [ofDigits, ofRatio, hzero]
  · by_cases hlong : 400 < (natText (digitsValue ds)).length
    · have hover : overflow ≤ 10 ^ 400 := by decide +kernel
      have hpow : 10 ^ 400 ≤ digitsValue ds := by
        by_contra hlt
        have := (natText_length_le_iff (by decide)).mpr (not_le.mp hlt)
        omega
      rw [ofRatio_of_overflow neg (hover.trans hpow), ofDigits, if_neg hzero]
      have htop : (400 : ℤ) < (digitText (digitsValue ds)).length + 0 := by
        unfold digitText
        omega
      rw [if_pos htop]
    · have hscale : ofDigits neg ds 0 = scaleTen neg (digitsValue ds) 0 :=
        Json.ofDigits_eq_scaleTen hzero (by omega) (by omega)
      rw [hscale]
      simp [scaleTen]

/-- What stands before digits, and whether it makes them negative. -/
inductive IsSign : List Char → Bool → Prop where
  | none : IsSign [] false
  | plus : IsSign ['+'] false
  | minus : IsSign ['-'] true

/-- The text writes the integer in base ten: digits behind a sign, or behind none. -/
def Writes (s : String) (n : ℤ) : Prop :=
  ∃ sign neg ds, IsSign sign neg ∧ ds ≠ [] ∧ (∀ d ∈ ds, d.isDigit = true) ∧ s.toList = sign ++ ds ∧
    n = signedNat neg (digitsValue ds)

/-- The text of an integer writes it. -/
theorem writes_intText (n : ℤ) : Writes (intText n) n := by
  cases n with
  | ofNat k =>
    refine ⟨[], false, natText k, .none, natText_ne_nil k, fun d hd => isDigit_of_mem_natText hd, ?_, ?_⟩
    · simp [intText]
    · simp [signedNat, digitsValue_natText]
  | negSucc k =>
    refine ⟨['-'], true, natText (k + 1), .minus, natText_ne_nil _, fun d hd => isDigit_of_mem_natText hd, ?_, ?_⟩
    · simp [intText]
    · simp only [signedNat, digitsValue_natText, cond_true]
      omega

theorem IsSign.takeSign_eq {sign : List Char} {neg : Bool} (h : IsSign sign neg) {d : Char} (hd : d ∈ digitChars)
    (ds : List Char) : takeSign (sign ++ d :: ds) = (neg, d :: ds) := by
  cases h with
  | none => exact takeSign_of_digit hd ds
  | plus => rfl
  | minus => rfl

/-- The characters of signs and digits. -/
def wholeChars : List Char := '-' :: '+' :: digitChars

theorem Writes.mem_wholeChars {s : String} {n : ℤ} (h : Writes s n) : ∀ c ∈ s.toList, c ∈ wholeChars := by
  obtain ⟨sign, neg, ds, hsign, -, hds, hs, -⟩ := h
  intro c hc
  rw [hs] at hc
  rcases List.mem_append.mp hc with hc | hc
  · cases hsign with
    | none => cases hc
    | plus => rw [List.mem_singleton.mp hc]; decide
    | minus => rw [List.mem_singleton.mp hc]; decide
  · exact List.mem_cons_of_mem _ (List.mem_cons_of_mem _ (mem_digitChars (hds c hc)))

/-- The text of an integer is read as the number nearest to it. -/
theorem Writes.readFloat? {s : String} {n : ℤ} (h : Writes s n) :
    ∃ x, Decimal.readFloat? s = some x ∧ x.IsNearest n := by
  have hcalendar : ∀ c ∈ wholeChars, c ∈ calendarChars := forall_of_all (by decide)
  have hread := dropLowLines?_trimmed fun c hc => hcalendar c (h.mem_wholeChars c hc)
  obtain ⟨sign, neg, ds, hsign, hne, hds, hs, rfl⟩ := h
  refine ⟨ofRatio neg (digitsValue ds) 1, ?_, ofRatio_ne_nan _ _ _, rank_eq_nearest_signedNat _ _⟩
  obtain ⟨d, ds, rfl⟩ := List.exists_cons_of_ne_nil hne
  have hd : d ∈ digitChars := mem_digitChars (hds d List.mem_cons_self)
  obtain ⟨hwhole, hrest⟩ := @span_digits _ [] hds (by simp)
  rw [List.append_nil] at hwhole hrest
  rw [hs] at hread
  rw [readFloat?_of_digit hread (hsign.takeSign_eq hd ds) hd, readUnsigned?, hwhole, hrest]
  simp [readExponent?, ofDigits_eq_ofRatio]

end Decimal

end Runbook
