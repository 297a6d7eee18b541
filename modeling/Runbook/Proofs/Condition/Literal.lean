import Runbook.Proofs.Condition.Reading
import Runbook.Proofs.Decimal.Characters

/-! Which values the literals of conditions are: a text in quotes is that text, and a text that is read as a number is
the number. -/

namespace Runbook.Condition

open Text

variable {b : Bindings} {s : String} {v : Value} {q : Char} {x : Binary64}

theorem operand_named (h : lookup? b s = some v) : operand b s = v := by
  rw [operand, h]
  rfl

theorem operand_unnamed (h : lookup? b s = none) : operand b s = literal s := by
  rw [operand, h]
  rfl

/-! ## Quoted texts -/

/-- The characters that quotes are. -/
def quotes : List Char := ['\'', '"']

/-- A text between two quotes. -/
def quote (q : Char) (s : String) : String := String.ofList (q :: (s.toList ++ [q]))

theorem literal_quote (hq : q ∈ quotes) (s : String) : literal (quote q s) = .text s := by
  have hunquoted : unquoted? (quote q s) = some s := by
    have hlast : (s.toList ++ [q]).getLast? = some q := List.getLast?_concat
    have hquote : (q = '\'' ∨ q = '"') ∧ (s.toList ++ [q]).getLast? = some q := ⟨by simpa [quotes] using hq, hlast⟩
    unfold unquoted? quote
    rw [String.toList_ofList]
    dsimp only
    rw [if_pos hquote, List.dropLast_concat, String.ofList_toList]
  unfold literal
  rw [hunquoted]

/-! ## Numbers -/

/-- Each of the words for values has one of these letters, and no word for a number has any. -/
def wordLetters : List Char := ['l', 'o', 'r']

/-- The characters that tell other literals from numbers. -/
def tellTales : List Char := marks ++ quotes ++ wordLetters ++ wordLetters.map Char.toUpper

theorem isForeign_of_mem_tellTales : ∀ c ∈ tellTales, Decimal.IsForeign c := by
  have hall : (tellTales.all fun c => decide
      (Unicode.isBlank c = false ∧ c.isDigit = false ∧ Decimal.foldDigits [c] = [c] ∧
        c ∉ ['_', '+', '-', '.', 'e', 'E'] ∧ c.toLower ∉ "infinity".toList ∧ c.toLower ∉ "nan".toList)) = true := by
    decide +kernel
  intro c hc
  obtain ⟨hblank, hdigit, hstays, hmark, hletter⟩ := forall_of_all hall c hc
  exact ⟨hblank, hdigit, hstays, hmark, hletter⟩

theorem notMem_of_readFloat? (hx : Decimal.readFloat? s = some x) : ∀ c ∈ tellTales, c ∉ s.toList := by
  intro c hc hmem
  rw [Decimal.readFloat?_of_mem (isForeign_of_mem_tellTales c hc) hmem] at hx
  cases hx

/-- The text of a number has no marks. -/
theorem isUnmarked_of_readFloat? (hx : Decimal.readFloat? s = some x) : IsUnmarked s.toList := by
  intro c hc
  exact notMem_of_readFloat? hx c (by simp [tellTales, hc])

theorem mem_tellTales_of_toLower {c : Char} (hc : c.toLower ∈ wordLetters) : c ∈ tellTales := by
  by_cases hascii : c.toNat < 128
  · have hall : ((List.range 128).all fun n => decide
        ((Char.ofNat n).toLower ∈ wordLetters → Char.ofNat n ∈ tellTales)) = true := by decide +kernel
    have hmem := forall_of_all hall c.toNat (List.mem_range.mpr hascii)
    rw [Char.ofNat_toNat] at hmem
    exact hmem hc
  · have hsame : c.toLower = c := by
      have hbeyond : ¬ (c.val ≥ 'A'.val ∧ c.val ≤ 'Z'.val) := by
        rintro ⟨-, hle⟩
        exact hascii (lt_of_le_of_lt (UInt32.le_iff_toNat_le.mp hle) (by decide))
      unfold Char.toLower
      rw [dif_neg hbeyond]
    rw [hsame] at hc
    simp [tellTales, hc]

theorem toLower_ne_of_readFloat? (hx : Decimal.readFloat? s = some x) {word : String} {c : Char} (hc : c ∈ wordLetters)
    (hword : c ∈ word.toList) : Unicode.toLower s ≠ word := by
  rintro rfl
  have hletter : 0 < c.toNat ∧ c.toNat < 128 ∧ c ≠ 'i' ∧ c ≠ 'k' :=
    forall_of_all (p := fun c => 0 < c.toNat ∧ c.toNat < 128 ∧ c ≠ 'i' ∧ c ≠ 'k') (by decide) c hc
  obtain ⟨hpos, hascii, hi, hk⟩ := hletter
  unfold Unicode.toLower at hword
  rw [String.toList_ofList] at hword
  obtain ⟨d, hd, rfl⟩ := Unicode.exists_mem_of_mem_lowerFrom hpos hascii hi hk hword
  exact notMem_of_readFloat? hx d (mem_tellTales_of_toLower hc) hd

/-- A text that is read as a number is a literal of the number. -/
theorem literal_of_readFloat? (hx : Decimal.readFloat? s = some x) : literal s = .num x := by
  have hunquoted : unquoted? s = none := by
    unfold unquoted?
    split
    · rename_i q rest hs
      have hq : ¬ (q = '\'' ∨ q = '"') := by
        intro hquote
        have hmem : q ∈ tellTales := by rcases hquote with rfl | rfl <;> decide
        exact notMem_of_readFloat? hx q hmem (by simp [hs])
      rw [if_neg fun h => hq h.1]
    · rfl
  unfold literal
  rw [hunquoted]
  dsimp only
  split
  · rename_i heq
    exact absurd heq (toLower_ne_of_readFloat? hx (c := 'r') (by decide) (by decide))
  · rename_i heq
    exact absurd heq (toLower_ne_of_readFloat? hx (c := 'l') (by decide) (by decide))
  · rename_i heq
    exact absurd heq (toLower_ne_of_readFloat? hx (c := 'l') (by decide) (by decide))
  · rename_i heq
    exact absurd heq (toLower_ne_of_readFloat? hx (c := 'o') (by decide) (by decide))
  · rw [hx]

end Runbook.Condition
