import Mathlib.Tactic
import Runbook.Proofs.Text.Cutting
import Runbook.Unicode.Lowercase

/-! Characters of ASCII in lower case: which of them stay in the text, and which characters become one. -/

namespace Runbook.Unicode

variable {c d : Char} {cs : List Char} {s word : String}

/-! ## Characters that stay -/

/-- A character of ASCII that is no capital stays in the text. -/
theorem mem_lowerFrom (hascii : c.toNat < 128) (hlow : c.toLower = c) (h : c ∈ cs) (before : List Char) :
    c ∈ lowerFrom before cs := by
  induction cs generalizing before with
  | nil => cases h
  | cons d cs ih =>
    rw [lowerFrom]
    rcases List.mem_cons.mp h with rfl | h
    · have hsigma : c ≠ 'Σ' := by
        rintro rfl
        exact absurd hascii (by decide)
      have hdotted : c ≠ 'İ' := by
        rintro rfl
        exact absurd hascii (by decide)
      simp [hsigma, hdotted, hascii, hlow]
    · exact List.mem_append_right _ (ih h (d :: before))

theorem mem_toLower (hascii : c.toNat < 128) (hlow : c.toLower = c) (h : c ∈ s.toList) : c ∈ (toLower s).toList := by
  unfold toLower
  rw [String.toList_ofList]
  exact mem_lowerFrom hascii hlow h []

/-- A text with a character that stays in it is no word without the character. -/
theorem toLower_ne (hascii : c.toNat < 128) (hlow : c.toLower = c) (h : c ∈ s.toList) (hword : c ∉ word.toList) :
    toLower s ≠ word := by
  rintro rfl
  exact hword (mem_toLower hascii hlow h)

/-! ## Characters that become one of ASCII -/

theorem CaseRun.bounds_of_covers {r : CaseRun} {n : ℕ} (h : r.covers n = true) : r.first ≤ n ∧ n ≤ r.last := by
  unfold CaseRun.covers at h
  simp only [Bool.and_eq_true, decide_eq_true_eq] at h
  exact h.1

theorem toNat_ofNat (n : ℕ) : (Char.ofNat n).toNat = n ∨ (Char.ofNat n).toNat = 0 := by
  by_cases hvalid : n.isValidChar
  · have heq : Char.ofNat n = Char.ofNatAux n hvalid := dif_pos hvalid
    rw [heq]
    exact .inl rfl
  · have heq : Char.ofNat n = '\x00' := dif_neg hvalid
    rw [heq]
    exact .inr rfl

/-- Beyond ASCII, only the sign of the kelvin is the capital of a letter of ASCII. -/
theorem lowerChar_ne (hc : 0 < c.toNat) (hascii : c.toNat < 128) (hk : c ≠ 'k') (hd : 128 ≤ d.toNat) :
    lowerChar d ≠ c := by
  have hruns : (caseRuns.all fun r => decide
      (r.last < 128 ∨ (128 : ℤ) ≤ r.first + r.shift ∨ (r.first = 8490 ∧ r.last = 8490 ∧ r.shift = -8383))) = true := by
    decide +kernel
  unfold lowerChar
  split
  · rename_i r hfind
    have hcovers : r.covers d.toNat = true := by simpa using List.find?_some hfind
    obtain ⟨hfirst, hlast⟩ := CaseRun.bounds_of_covers hcovers
    rintro rfl
    rcases Text.forall_of_all hruns r (List.mem_of_find?_eq_some hfind) with hlow | hhigh | ⟨hfrom, hto, hshift⟩
    · omega
    · rcases toNat_ofNat (d.toNat + r.shift).toNat with heq | heq <;> omega
    · have hkelvin : d.toNat = 8490 := by omega
      rw [hkelvin, hshift] at hk
      exact hk (by decide)
  · rintro rfl
    omega

/-- A letter of the text in lower case comes from that letter or its capital, unless it is one of the two that other
characters become as well. -/
theorem exists_mem_of_mem_lowerFrom (hc : 0 < c.toNat) (hascii : c.toNat < 128) (hi : c ≠ 'i') (hk : c ≠ 'k')
    {before : List Char} (h : c ∈ lowerFrom before cs) : ∃ d ∈ cs, d.toLower = c := by
  induction cs generalizing before with
  | nil => cases h
  | cons d cs ih =>
    rw [lowerFrom, List.mem_append] at h
    rcases h with h | h
    · have hbeyond (other : Char) (hother : 128 ≤ other.toNat) : c ≠ other := by
        rintro rfl
        omega
      split_ifs at h with hsigma hfinal hdotted hplain
      · exact absurd (List.mem_singleton.mp h) (hbeyond _ (by decide))
      · exact absurd (List.mem_singleton.mp h) (hbeyond _ (by decide))
      · rcases List.mem_pair.mp h with h | h
        · exact absurd h hi
        · exact absurd h (hbeyond _ (by decide))
      · exact ⟨d, List.mem_cons_self, (List.mem_singleton.mp h).symm⟩
      · exact absurd (List.mem_singleton.mp h).symm (lowerChar_ne hc hascii hk (by omega))
    · obtain ⟨e, he, hlow⟩ := ih h
      exact ⟨e, List.mem_cons_of_mem _ he, hlow⟩

end Runbook.Unicode
