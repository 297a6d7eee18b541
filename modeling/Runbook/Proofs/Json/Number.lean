import Runbook.Json.Printer
import Runbook.Json.Reader
import Runbook.Proofs.Decimal.Shortest

/-! A number that was written as JSON is read back as it was. -/

namespace Runbook.Json

open Decimal Text

/-! ## Where a number ends -/

/-- No number goes on with these characters. -/
def EndsNumber (rest : List Char) : Prop :=
  ∀ c ∈ rest.head?, c.isDigit = false ∧ c ≠ '.' ∧ c ≠ 'e' ∧ c ≠ 'E'

theorem EndsNumber.nil : EndsNumber [] := fun _ h => nomatch h

theorem EndsNumber.not_digit {rest : List Char} (h : EndsNumber rest) :
    ∀ c ∈ rest.head?, c.isDigit = false := fun c hc => (h c hc).1

theorem fraction_of_endsNumber {rest : List Char} (h : EndsNumber rest) :
    fraction rest = ([], rest) := by
  cases rest with
  | nil => rfl
  | cons c rest =>
    have hpoint := (h c rfl).2.1
    unfold fraction
    split
    · rename_i heq
      exact absurd (List.cons.inj heq).1 hpoint
    · rfl

theorem exponent?_of_endsNumber {rest : List Char} (h : EndsNumber rest) : exponent? rest = none := by
  cases rest with
  | nil => rfl
  | cons c rest =>
    obtain ⟨-, -, hlow, hcap⟩ := h c rfl
    simp [exponent?, hlow, hcap]

/-! ## The parts of a number -/

theorem wholeDigits?_zero (rest : List Char) : wholeDigits? ('0' :: rest) = some (['0'], rest) := rfl

theorem wholeDigits?_of_ne_zero {c : Char} {ds rest : List Char} (hc : c ≠ '0')
    (hds : ∀ d ∈ c :: ds, d.isDigit = true) (hrest : ∀ d ∈ rest.head?, d.isDigit = false) :
    wholeDigits? (c :: ds ++ rest) = some (c :: ds, rest) := by
  obtain ⟨htake, hdrop⟩ := span_digits hds hrest
  unfold wholeDigits?
  split
  · rename_i heq
    exact absurd (List.cons.inj heq).1 hc
  · rename_i d more hne heq
    rw [List.cons_append] at heq
    obtain ⟨rfl, rfl⟩ := List.cons.inj heq
    rw [if_pos (hds c List.mem_cons_self), ← List.cons_append, htake, hdrop]
  · rename_i heq
    cases heq

theorem fraction_of_digits {ds rest : List Char} (hne : ds ≠ []) (hds : ∀ d ∈ ds, d.isDigit = true)
    (hrest : ∀ d ∈ rest.head?, d.isDigit = false) : fraction ('.' :: (ds ++ rest)) = (ds, rest) := by
  obtain ⟨d, more, rfl⟩ := List.exists_cons_of_ne_nil hne
  obtain ⟨htake, hdrop⟩ := span_digits hds hrest
  simp only [List.cons_append] at htake hdrop ⊢
  simp only [fraction, hds d List.mem_cons_self, htake, hdrop, if_true]

theorem exponent?_of_digits {c : Char} {neg : Bool} {ds rest : List Char}
    (hsign : takeSign (c :: (ds ++ rest)) = (neg, ds ++ rest)) (hne : ds ≠ [])
    (hds : ∀ d ∈ ds, d.isDigit = true) (hrest : ∀ d ∈ rest.head?, d.isDigit = false) :
    exponent? ('e' :: c :: (ds ++ rest)) =
      some (if neg then -(digitsValue ds : ℤ) else digitsValue ds, rest) := by
  obtain ⟨htake, hdrop⟩ := span_digits hds hrest
  simp [exponent?, hsign, htake, hdrop, hne]

theorem exponent?_exponentText (e : ℤ) {rest : List Char}
    (hrest : ∀ d ∈ rest.head?, d.isDigit = false) :
    exponent? (exponentText e ++ rest) = some (e, rest) := by
  have hdigits : ∀ d ∈ padLeft 2 '0' (natText e.natAbs), d.isDigit = true := fun _ =>
    isDigit_of_mem_zeros_append
  have hne : padLeft 2 '0' (natText e.natAbs) ≠ [] := by
    simp [padLeft, natText_ne_nil]
  have hvalue : digitsValue (padLeft 2 '0' (natText e.natAbs)) = e.natAbs := by
    rw [padLeft, digitsValue_zeros_append, digitsValue_natText]
  unfold exponentText digitText
  by_cases he : e < 0
  · rw [if_pos he, List.cons_append, List.cons_append, exponent?_of_digits rfl hne hdigits hrest,
      hvalue, if_pos rfl, show -(e.natAbs : ℤ) = e by omega]
  · rw [if_neg he, List.cons_append, List.cons_append, exponent?_of_digits rfl hne hdigits hrest,
      hvalue, if_neg Bool.false_ne_true, show (e.natAbs : ℤ) = e by omega]

/-! ## Integers -/

theorem number?_natText (neg : Bool) {n : ℕ} {rest : List Char}
    (hn : (natText n).length ≤ maxIntDigits) (hrest : EndsNumber rest) :
    number? neg (natText n ++ rest) = some (.ok (.int (if neg then -n else n), rest)) := by
  have hwhole : wholeDigits? (natText n ++ rest) = some (natText n, rest) := by
    by_cases hzero : n = 0
    · subst hzero
      rfl
    · obtain ⟨c, ds, hds⟩ := List.exists_cons_of_ne_nil (natText_ne_nil n)
      rw [hds]
      refine wholeDigits?_of_ne_zero (natText_head_ne_zero hzero hds) ?_ hrest.not_digit
      intro d hd
      rw [← hds] at hd
      exact isDigit_of_mem_natText hd
  simp [number?, hwhole, fraction_of_endsNumber hrest, exponent?_of_endsNumber hrest, hn,
    digitsValue_natText]

/-! ## Numbers with a fraction or an exponent -/

theorem ofDigits_eq_scaleTen {neg : Bool} {ds : List Char} {exp : ℤ} (hne : digitsValue ds ≠ 0)
    (hlow : -400 ≤ (natText (digitsValue ds)).length + exp)
    (hhigh : (natText (digitsValue ds)).length + exp ≤ 400) :
    ofDigits neg ds exp = scaleTen neg (digitsValue ds) exp := by
  unfold ofDigits digitText
  rw [if_neg hne, if_neg (by omega), if_neg (by omega)]

theorem number?_of_fraction (neg : Bool) {whole frac rest : List Char}
    (hwhole : wholeDigits? (whole ++ '.' :: (frac ++ rest)) = some (whole, '.' :: (frac ++ rest)))
    (hne : frac ≠ []) (hfrac : ∀ d ∈ frac, d.isDigit = true) (hrest : EndsNumber rest) :
    number? neg (whole ++ '.' :: (frac ++ rest)) =
      some (.ok (.num (ofDigits neg (whole ++ frac) (-frac.length)), rest)) := by
  obtain ⟨d, more, rfl⟩ := List.exists_cons_of_ne_nil hne
  simp only [number?, hwhole, fraction_of_digits hne hfrac hrest.not_digit,
    exponent?_of_endsNumber hrest]

theorem number?_of_exponent (neg : Bool) {whole frac text rest : List Char} {e : ℤ}
    (hwhole : wholeDigits? (whole ++ text) = some (whole, text))
    (hfrac : fraction text = (frac, exponentText e ++ rest)) (hrest : EndsNumber rest) :
    number? neg (whole ++ text) =
      some (.ok (.num (ofDigits neg (whole ++ frac) (e - frac.length)), rest)) := by
  simp only [number?, hwhole, hfrac, exponent?_exponentText e hrest.not_digit]

/-- Digits behind a zero and a point. -/
theorem number?_below_one (neg : Bool) {r : Digits} {rest : List Char} (hr : r.digits ≠ 0)
    (hlow : -4 < (natText r.digits).length + r.exp) (hhigh : (natText r.digits).length + r.exp ≤ 0)
    (hrest : EndsNumber rest) :
    number? neg ('0' :: '.' ::
        (List.replicate (-((natText r.digits).length + r.exp)).toNat '0' ++ natText r.digits ++ rest)) =
      some (.ok (.num (scaleTen neg r.digits r.exp), rest)) := by
  set zeros := List.replicate (-((natText r.digits).length + r.exp)).toNat '0' with hzeros
  have hvalue : digitsValue (['0'] ++ (zeros ++ natText r.digits)) = r.digits := by
    rw [← List.append_assoc, hzeros, show ['0'] = List.replicate 1 '0' from rfl,
      List.replicate_append_replicate, digitsValue_zeros_append, digitsValue_natText]
  have hfrac : ∀ d ∈ zeros ++ natText r.digits, d.isDigit = true := fun _ => isDigit_of_mem_zeros_append
  have hexp : (-(zeros ++ natText r.digits).length : ℤ) = r.exp := by
    rw [List.length_append, hzeros, List.length_replicate]
    omega
  have hwhole : wholeDigits? (['0'] ++ '.' :: (zeros ++ natText r.digits ++ rest)) =
      some (['0'], '.' :: (zeros ++ natText r.digits ++ rest)) := wholeDigits?_zero _
  have hread := number?_of_fraction neg hwhole (by simp [natText_ne_nil]) hfrac hrest
  rw [hexp, ofDigits_eq_scaleTen (by rw [hvalue]; exact hr) (by rw [hvalue]; omega)
    (by rw [hvalue]; omega), hvalue] at hread
  exact hread

/-- Digits with the point among them. -/
theorem number?_point_inside (neg : Bool) {r : Digits} {rest : List Char} (hr : r.digits ≠ 0)
    (hexp : r.exp < 0) (hlow : 0 < (natText r.digits).length + r.exp)
    (hhigh : (natText r.digits).length + r.exp ≤ 16) (hrest : EndsNumber rest) :
    number? neg ((natText r.digits).take ((natText r.digits).length + r.exp).toNat ++ '.' ::
        ((natText r.digits).drop ((natText r.digits).length + r.exp).toNat ++ rest)) =
      some (.ok (.num (scaleTen neg r.digits r.exp), rest)) := by
  set k := ((natText r.digits).length + r.exp).toNat with hk
  obtain ⟨c, ds, hds⟩ := List.exists_cons_of_ne_nil (natText_ne_nil r.digits)
  have hdigits : ∀ d ∈ natText r.digits, d.isDigit = true := fun d => isDigit_of_mem_natText
  have htake : (natText r.digits).take k = c :: ds.take (k - 1) := by
    rw [hds, show k = (k - 1) + 1 by omega, List.take_succ_cons, Nat.add_sub_cancel]
  have hdrop : (natText r.digits).drop k ≠ [] := by
    rw [Ne, List.drop_eq_nil_iff]
    omega
  have hwhole : wholeDigits? ((natText r.digits).take k ++ '.' :: ((natText r.digits).drop k ++ rest)) =
      some ((natText r.digits).take k, '.' :: ((natText r.digits).drop k ++ rest)) := by
    rw [htake]
    refine wholeDigits?_of_ne_zero (natText_head_ne_zero hr hds) ?_ (by simp)
    intro d hd
    rw [← htake] at hd
    exact hdigits d (List.mem_of_mem_take hd)
  have hread := number?_of_fraction neg hwhole hdrop
    (fun d hd => hdigits d (List.mem_of_mem_drop hd)) hrest
  have hlength : (-((natText r.digits).drop k).length : ℤ) = r.exp := by
    rw [List.length_drop]
    omega
  rw [List.take_append_drop, hlength, ofDigits_eq_scaleTen (by rw [digitsValue_natText]; exact hr)
    (by rw [digitsValue_natText]; omega) (by rw [digitsValue_natText]; omega),
    digitsValue_natText] at hread
  exact hread

/-- Digits with zeros up to the point. -/
theorem number?_whole (neg : Bool) {r : Digits} {rest : List Char} (hr : r.digits ≠ 0)
    (hexp : 0 ≤ r.exp) (hhigh : (natText r.digits).length + r.exp ≤ 16) (hrest : EndsNumber rest) :
    number? neg (natText r.digits ++ List.replicate r.exp.toNat '0' ++ '.' :: (['0'] ++ rest)) =
      some (.ok (.num (scaleTen neg r.digits r.exp), rest)) := by
  obtain ⟨k, hk⟩ := Int.eq_ofNat_of_zero_le hexp
  obtain ⟨c, ds, hds⟩ := List.exists_cons_of_ne_nil (natText_ne_nil r.digits)
  have hdigits : ∀ d ∈ natText r.digits ++ List.replicate k '0', d.isDigit = true := by
    intro d hd
    rcases List.mem_append.mp hd with htext | hzero
    · exact isDigit_of_mem_natText htext
    · rw [List.eq_of_mem_replicate hzero]
      rfl
  have hwhole : wholeDigits? (natText r.digits ++ List.replicate k '0' ++ '.' :: (['0'] ++ rest)) =
      some (natText r.digits ++ List.replicate k '0', '.' :: (['0'] ++ rest)) := by
    rw [hds, List.cons_append] at hdigits ⊢
    exact wholeDigits?_of_ne_zero (natText_head_ne_zero hr hds) hdigits (by simp)
  have hvalue : digitsValue (natText r.digits ++ List.replicate k '0' ++ ['0']) =
      r.digits * 10 ^ (k + 1) := by
    rw [List.append_assoc, show ['0'] = List.replicate 1 '0' from rfl,
      List.replicate_append_replicate, digitsValue_append_zeros, digitsValue_natText]
  have hne : r.digits * 10 ^ (k + 1) ≠ 0 := by positivity
  have hlength : (natText (r.digits * 10 ^ (k + 1))).length ≤ (natText r.digits).length + (k + 1) := by
    rw [natText_length_le_iff (by omega), pow_add 10 _ (k + 1)]
    exact (Nat.mul_lt_mul_right (by positivity)).mpr (lt_pow_natText_length _)
  have hread := number?_of_fraction neg hwhole (by simp) (by simp) hrest
  rw [hk, Int.toNat_natCast, hread, ofDigits_eq_scaleTen (by rw [hvalue]; exact hne)
    (by rw [hvalue, List.length_singleton]; omega) (by rw [hvalue, List.length_singleton]; omega), hvalue]
  refine congrArg (fun x => some (Except.ok (Value.num x, rest))) (scaleTen_congr neg ?_)
  rw [List.length_singleton, zpow_natCast]
  push_cast
  rw [zpow_neg, zpow_one, pow_succ]
  field_simp

/-- Digits with the point behind the first one and an exponent. -/
theorem number?_scientific (neg : Bool) {r : Digits} {rest : List Char} (hr : r.digits ≠ 0)
    (hlow : -400 ≤ (natText r.digits).length + r.exp)
    (hhigh : (natText r.digits).length + r.exp ≤ 400) (hrest : EndsNumber rest) :
    number? neg
        (scientific (natText r.digits) ((natText r.digits).length + r.exp) ++ rest) =
      some (.ok (.num (scaleTen neg r.digits r.exp), rest)) := by
  obtain ⟨c, ds, hds⟩ := List.exists_cons_of_ne_nil (natText_ne_nil r.digits)
  have hvalue : digitsValue ([c] ++ ds) = r.digits := by
    rw [List.singleton_append, ← hds, digitsValue_natText]
  have hc : c ≠ '0' := natText_head_ne_zero hr hds
  have hdigits : ∀ d ∈ c :: ds, d.isDigit = true := by
    rw [← hds]
    exact fun d => isDigit_of_mem_natText
  have hexp : ((natText r.digits).length : ℤ) + r.exp - 1 - ds.length = r.exp := by
    rw [hds, List.length_cons]
    push_cast
    omega
  have hscale : ofDigits neg ([c] ++ ds) r.exp = scaleTen neg r.digits r.exp := by
    rw [ofDigits_eq_scaleTen (by rw [hvalue]; exact hr) (by rw [hvalue]; omega)
      (by rw [hvalue]; omega), hvalue]
  generalize ((natText r.digits).length : ℤ) + r.exp = point at *
  rw [hds]
  cases ds with
  | nil =>
    have hwhole : wholeDigits? ([c] ++ (exponentText (point - 1) ++ rest)) =
        some ([c], exponentText (point - 1) ++ rest) :=
      wholeDigits?_of_ne_zero hc hdigits (by simp [exponentText])
    have hfrac : fraction (exponentText (point - 1) ++ rest) = ([], exponentText (point - 1) ++ rest) := by
      simp [fraction, exponentText]
    have hread := number?_of_exponent neg hwhole hfrac hrest
    rw [hexp, hscale] at hread
    exact hread
  | cons d ds =>
    have hend : ∀ x ∈ (exponentText (point - 1) ++ rest).head?, x.isDigit = false := by
      simp [exponentText]
    have hwhole : wholeDigits? ([c] ++ '.' :: (d :: ds ++ (exponentText (point - 1) ++ rest))) =
        some ([c], '.' :: (d :: ds ++ (exponentText (point - 1) ++ rest))) :=
      wholeDigits?_of_ne_zero hc (by simpa using hdigits c List.mem_cons_self) (by simp)
    have hread := number?_of_exponent neg hwhole
      (fraction_of_digits (by simp) (fun x hx => hdigits x (List.mem_cons_of_mem c hx)) hend) hrest
    rw [hexp, hscale] at hread
    simpa [scientific] using hread

theorem number?_unsigned (neg : Bool) {r : Digits} {rest : List Char} (hr : r.digits ≠ 0)
    (hlow : -400 ≤ (natText r.digits).length + r.exp)
    (hhigh : (natText r.digits).length + r.exp ≤ 400) (hrest : EndsNumber rest) :
    number? neg (unsigned r ++ rest) = some (.ok (.num (scaleTen neg r.digits r.exp), rest)) := by
  unfold unsigned digitText positional
  by_cases hplain : -4 < (natText r.digits).length + r.exp ∧ (natText r.digits).length + r.exp ≤ 16
  · by_cases hpoint : (natText r.digits).length + r.exp ≤ 0
    · simpa [hplain, hpoint, natText_ne_nil] using number?_below_one neg hr hplain.1 hpoint hrest
    · by_cases hexp : r.exp < 0
      · have hdrop : ¬(natText r.digits).length ≤ ((natText r.digits).length + r.exp).toNat := by omega
        have hzeros : ((natText r.digits).length + r.exp).toNat - (natText r.digits).length = 0 := by
          omega
        simpa [hplain, hpoint, hdrop, hzeros] using
          number?_point_inside neg hr hexp (by omega) hplain.2 hrest
      · have hdrop : (natText r.digits).length ≤ ((natText r.digits).length + r.exp).toNat := by omega
        have hzeros : ((natText r.digits).length + r.exp).toNat - (natText r.digits).length =
            r.exp.toNat := by omega
        simpa [hplain, hpoint, hdrop, hzeros, List.take_of_length_le] using
          number?_whole neg hr (by omega) hplain.2 hrest
  · simpa [hplain] using number?_scientific neg hr hlow hhigh hrest

end Runbook.Json
