import Mathlib.Tactic
import Runbook.Decimal.Reader

/-! Decimal digits of a natural, and the natural that digits stand for. -/

namespace Runbook.Decimal

open Text

theorem isDigit_of_mem_natText {n : ℕ} {c : Char} (h : c ∈ natText n) : c.isDigit = true :=
  Nat.isDigit_of_mem_toDigits (by decide) (by decide) h

theorem isDigit_of_mem_zeros_append {k n : ℕ} {c : Char} (h : c ∈ List.replicate k '0' ++ natText n) :
    c.isDigit = true := by
  rcases List.mem_append.mp h with hzero | htext
  · rw [List.eq_of_mem_replicate hzero]
    rfl
  · exact isDigit_of_mem_natText htext

theorem natText_ne_nil (n : ℕ) : natText n ≠ [] := Nat.toDigits_ne_nil

theorem natText_length_pos (n : ℕ) : 0 < (natText n).length := Nat.length_toDigits_pos

theorem natText_length_le_iff {n k : ℕ} (hk : 0 < k) : (natText n).length ≤ k ↔ n < 10 ^ k :=
  Nat.length_toDigits_le_iff (by decide) hk

theorem lt_pow_natText_length (n : ℕ) : n < 10 ^ (natText n).length :=
  (natText_length_le_iff (natText_length_pos n)).mp le_rfl

theorem pow_natText_length_le {n : ℕ} (hn : n ≠ 0) : 10 ^ ((natText n).length - 1) ≤ n := by
  by_cases hlen : (natText n).length = 1
  · rw [hlen]
    exact Nat.pos_of_ne_zero hn
  · have hpos := natText_length_pos n
    by_contra hlt
    have := (natText_length_le_iff (show 0 < (natText n).length - 1 by omega)).mpr (not_le.mp hlt)
    omega

/-- A number other than zero does not begin with a zero. -/
theorem natText_head_ne_zero {n : ℕ} (hn : n ≠ 0) {c : Char} {rest : List Char}
    (h : natText n = c :: rest) : c ≠ '0' := by
  induction n using Nat.strong_induction_on generalizing rest with
  | _ n ih =>
    have hdigits : natText n =
        if n < 10 then [n.digitChar] else natText (n / 10) ++ [(n % 10).digitChar] :=
      Nat.toDigits_eq_if (by decide)
    rw [hdigits] at h
    split at h
    · rename_i hlt
      obtain ⟨rfl, -⟩ := List.cons.inj h
      interval_cases n <;> simp_all [Nat.digitChar]
    · obtain ⟨d, ds, hd⟩ := List.exists_cons_of_ne_nil (natText_ne_nil (n / 10))
      rw [hd, List.cons_append] at h
      obtain ⟨rfl, -⟩ := List.cons.inj h
      exact ih (n / 10) (by omega) (by omega) hd

theorem digitsValue_append (ds es : List Char) :
    digitsValue (ds ++ es) = digitsValue ds * 10 ^ es.length + digitsValue es := by
  change Nat.ofDigitChars 10 (ds ++ es) 0 = _
  rw [Nat.ofDigitChars_append, Nat.ofDigitChars_eq_ofDigitChars_zero, mul_comm]
  rfl

theorem digitsValue_natText (n : ℕ) : digitsValue (natText n) = n := Nat.ofDigitChars_ten_toDigits

theorem digitsValue_zeros (k : ℕ) : digitsValue (List.replicate k '0') = 0 := by
  change Nat.ofDigitChars 10 (List.replicate k '0') 0 = 0
  rw [Nat.ofDigitChars_replicate_zero, mul_zero]

theorem digitsValue_zeros_append (k : ℕ) (ds : List Char) :
    digitsValue (List.replicate k '0' ++ ds) = digitsValue ds := by
  rw [digitsValue_append, digitsValue_zeros, zero_mul, zero_add]

theorem digitsValue_append_zeros (ds : List Char) (k : ℕ) :
    digitsValue (ds ++ List.replicate k '0') = digitsValue ds * 10 ^ k := by
  rw [digitsValue_append, digitsValue_zeros, List.length_replicate, add_zero]

/-- Digits are read as far as they go. -/
theorem span_digits {ds rest : List Char} (hds : ∀ c ∈ ds, c.isDigit = true)
    (hrest : ∀ c ∈ rest.head?, c.isDigit = false) :
    (ds ++ rest).takeWhile Char.isDigit = ds ∧ (ds ++ rest).dropWhile Char.isDigit = rest := by
  have htake : rest.takeWhile Char.isDigit = [] ∧ rest.dropWhile Char.isDigit = rest := by
    cases rest with
    | nil => exact ⟨rfl, rfl⟩
    | cons c rest => simp [hrest c rfl]
  rw [List.takeWhile_append_of_pos hds, List.dropWhile_append_of_pos hds, htake.1, htake.2]
  simp

end Runbook.Decimal
