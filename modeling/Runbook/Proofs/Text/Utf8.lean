import Mathlib.Data.List.TakeWhile
import Mathlib.Tactic
import Runbook.Text.Utf8

/-! Text that was written as bytes is read back from them. -/

namespace Runbook.Text.Utf8

/-! ## One character -/

theorem width?_of_two {b : ℕ} (hlow : 0xC2 ≤ b) (hhigh : b < 0xE0) : width? b = some 2 := by
  unfold width?
  rw [if_neg (by omega), if_neg (by omega), if_pos hhigh]

theorem width?_of_three {b : ℕ} (hlow : 0xE0 ≤ b) (hhigh : b < 0xF0) : width? b = some 3 := by
  unfold width?
  rw [if_neg (by omega), if_neg (by omega), if_neg (by omega), if_pos hhigh]

theorem width?_of_four {b : ℕ} (hlow : 0xF0 ≤ b) (hhigh : b < 0xF5) : width? b = some 4 := by
  unfold width?
  rw [if_neg (by omega), if_neg (by omega), if_neg (by omega), if_neg (by omega), if_pos hhigh]

/-- The bytes of a character are taken as one code of that character. -/
theorem next_of_continued {first width : ℕ} {more rest : List ℕ} {c : Char}
    (hwidth : width? first = some width) (hlength : more.length = width - 1)
    (hmore : continued first more = width - 1)
    (hvalue : more.foldl (fun n b => n * 64 + b % 64) (leadBits width first) = c.toNat) :
    next first (more ++ rest) = (.ok c, width) := by
  unfold next
  rw [hwidth]
  simp only [← hlength, List.take_left]
  rw [if_pos (hmore.trans hlength.symm), hvalue, Char.ofNat_toNat]

theorem continued_cons {first second : ℕ} {more : List ℕ}
    (hsecond : (secondRange first).1 ≤ second ∧ second ≤ (secondRange first).2)
    (hmore : ∀ b ∈ more, 0x80 ≤ b ∧ b ≤ 0xBF) :
    continued first (second :: more) = 1 + more.length := by
  have htake : more.takeWhile (fun b => 0x80 ≤ b ∧ b ≤ 0xBF) = more :=
    List.takeWhile_eq_self_iff.mpr fun b hb => by simpa using hmore b hb
  unfold continued
  simp only [htake, if_pos hsecond]

theorem char_range (c : Char) : c.toNat < 0xD800 ∨ 0xDFFF < c.toNat ∧ c.toNat < 0x110000 :=
  c.valid

/-- The continuing byte that holds the last six bits of a number. -/
def tailByte (k : ℕ) : ℕ := 0x80 + k % 64

theorem tailByte_range (k : ℕ) : 0x80 ≤ tailByte k ∧ tailByte k ≤ 0xBF := by
  unfold tailByte
  omega

theorem toNat_toUInt8 {n : ℕ} (h : n < 256) : n.toUInt8.toNat = n := by
  simp [Nat.toUInt8, UInt8.toNat_ofNat', Nat.mod_eq_of_lt h]

theorem next_encodeChar (c : Char) (rest : List ℕ) :
    ∃ first more, natsOf (encodeChar c) = first :: more ∧
      next first (more ++ rest) = (.ok c, more.length + 1) := by
  have hrange := char_range c
  generalize hn : c.toNat = n at hrange
  have hbytes (k : ℕ) : (0x80 + k % 64).toUInt8.toNat = tailByte k := toNat_toUInt8 (by omega)
  have htail (k : ℕ) := tailByte_range k
  unfold encodeChar
  simp only [hn]
  split_ifs with hone htwo hthree
  · refine ⟨n, [], by simp [natsOf]; omega, ?_⟩
    change next _ _ = (.ok c, 1)
    refine next_of_continued ?_ rfl rfl (by simp [leadBits, hn])
    unfold width?
    rw [if_pos hone]
  · refine ⟨0xC0 + n / 64, [tailByte n], ?_, ?_⟩
    · simp only [natsOf, List.map_cons, List.map_nil, hbytes]
      rw [toNat_toUInt8 (by omega)]
    · have hsecond : secondRange (0xC0 + n / 64) = (0x80, 0xBF) := by
        unfold secondRange
        rw [if_neg (by omega), if_neg (by omega), if_neg (by omega), if_neg (by omega)]
      change next _ _ = (.ok c, 2)
      refine next_of_continued (width?_of_two (by omega) (by omega)) rfl ?_ ?_
      · exact continued_cons (by rw [hsecond]; exact htail n) (fun _ h => nomatch h)
      · simp only [leadBits, tailByte, List.foldl_cons, List.foldl_nil]
        omega
  · refine ⟨0xE0 + n / 4096, [tailByte (n / 64), tailByte n], ?_, ?_⟩
    · simp only [natsOf, List.map_cons, List.map_nil, hbytes]
      rw [toNat_toUInt8 (by omega)]
    · change next _ _ = (.ok c, 3)
      refine next_of_continued (width?_of_three (by omega) (by omega)) rfl ?_ ?_
      · refine continued_cons ?_ (by simp [htail])
        unfold secondRange tailByte
        split_ifs <;> simp only <;> omega
      · simp only [leadBits, tailByte, List.foldl_cons, List.foldl_nil]
        omega
  · refine ⟨0xF0 + n / 262144, [tailByte (n / 4096), tailByte (n / 64), tailByte n], ?_, ?_⟩
    · simp only [natsOf, List.map_cons, List.map_nil, hbytes]
      rw [toNat_toUInt8 (by omega)]
    · change next _ _ = (.ok c, 4)
      refine next_of_continued (width?_of_four (by omega) (by omega)) rfl ?_ ?_
      · refine continued_cons ?_ (by simp [htail])
        unfold secondRange tailByte
        split_ifs <;> simp only <;> omega
      · simp only [leadBits, tailByte, List.foldl_cons, List.foldl_nil]
        omega

/-! ## Texts -/

theorem charsOf_encode (cs : List Char) (pos : ℕ) :
    charsOf (pieces pos (natsOf (cs.flatMap encodeChar))) = .ok cs := by
  induction cs generalizing pos with
  | nil =>
    rw [List.flatMap_nil, natsOf, List.map_nil, pieces]
    rfl
  | cons c cs ih =>
    have hbytes : natsOf ((c :: cs).flatMap encodeChar) =
        natsOf (encodeChar c) ++ natsOf (cs.flatMap encodeChar) := by
      simp [natsOf]
    obtain ⟨first, more, hcode, hnext⟩ := next_encodeChar c (natsOf (cs.flatMap encodeChar))
    rw [hbytes, hcode, List.cons_append, pieces, hnext]
    simp only [Nat.add_sub_cancel, List.drop_left, charsOf, ih]
    rfl

theorem decode_encode (s : String) : decode (encode s) = .ok s := by
  rw [decode, encode, charsOf_encode]
  exact congrArg Except.ok String.ofList_toList

end Runbook.Text.Utf8
