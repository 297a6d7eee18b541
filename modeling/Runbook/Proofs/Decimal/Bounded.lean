import Runbook.Proofs.Decimal.Integers

/-! A ratio that is no more than a natural is rounded to a number that is no more than it. -/

namespace Runbook.Binary64

/-- The number is neither below zero nor above the natural. -/
def IsUpTo (k : ℕ) (x : Binary64) : Prop :=
  ∃ sig exp h, x = .finite false sig exp h ∧ sig * 2 ^ (exp + 1074).toNat ≤ k * unit

section

variable {x : Binary64} {k : ℕ}

theorem IsUpTo.isFinite (h : x.IsUpTo k) : x.isFinite = true := by
  obtain ⟨sig, exp, hcanonical, rfl, -⟩ := h
  rfl

theorem IsUpTo.rank_le (h : x.IsUpTo k) : x.rank ≤ (k * unit : ℕ) := by
  obtain ⟨sig, exp, hcanonical, rfl, hle⟩ := h
  simp only [rank, scaled, Bool.false_eq_true, if_false]
  exact Int.ofNat_le.mpr hle

end

/-! ## Ratios -/

variable {n d k : ℕ}

end Runbook.Binary64
