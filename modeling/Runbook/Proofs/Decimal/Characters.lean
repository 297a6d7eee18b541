import Mathlib.Data.List.TakeWhile
import Mathlib.Tactic
import Runbook.Decimal.Reader
import Runbook.Proofs.Text.Cutting

/-! The characters of numbers: a text with any other character in it is not read as a number. -/

namespace Runbook.Decimal

open Text

/-- A character that no text of a number has: no blank, digit, sign, point, low line or mark of an exponent, and no
letter of a word for a number. -/
structure IsForeign (c : Char) : Prop where
  not_blank : Unicode.isBlank c = false
  not_digit : c.isDigit = false
  stays : foldDigits [c] = [c]
  not_mark : c ∉ ['_', '+', '-', '.', 'e', 'E']
  not_letter : c.toLower ∉ "infinity".toList ∧ c.toLower ∉ "nan".toList

variable {c : Char} {cs out : List Char}

theorem IsForeign.mem_foldDigits (hc : IsForeign c) (h : c ∈ cs) : c ∈ foldDigits cs := by
  obtain ⟨before, after, rfl⟩ := List.append_of_mem h
  have hsplit : foldDigits (before ++ c :: after) = foldDigits before ++ foldDigits [c] ++ foldDigits after := by
    simp [foldDigits]
  rw [hsplit, hc.stays]
  simp

theorem IsForeign.mem_trimmed (hc : IsForeign c) {s : String} (h : c ∈ s.toList) : c ∈ trimmed s := by
  have htrim := (mem_trim_iff hc.not_blank s).mpr h
  unfold trim at htrim
  rw [String.toList_ofList] at htrim
  exact hc.mem_foldDigits htrim

/-- Only low lines are left out. -/
theorem mem_dropLowLines? {before : Char} (hdrop : dropLowLines? before cs = some out) (h : c ∈ cs) (hc : c ≠ '_') :
    c ∈ out := by
  induction cs generalizing before out with
  | nil => cases h
  | cons d cs ih =>
    by_cases hd : d = '_'
    · subst hd
      have hrest : c ∈ cs := (List.mem_cons.mp h).resolve_left hc
      cases cs with
      | nil => cases hrest
      | cons e more =>
        rw [dropLowLines?] at hdrop
        split_ifs at hdrop
        exact ih hdrop hrest
    · rw [dropLowLines?.eq_4 _ _ _ hd] at hdrop
      obtain ⟨more, hmore, rfl⟩ := Option.map_eq_some_iff.mp hdrop
      rcases List.mem_cons.mp h with rfl | h
      · exact List.mem_cons_self
      · exact List.mem_cons_of_mem _ (ih hmore h)

theorem mem_takeSign (h : c ∈ cs) (hplus : c ≠ '+') (hminus : c ≠ '-') : c ∈ (takeSign cs).2 := by
  unfold takeSign
  split
  · exact (List.mem_cons.mp h).resolve_left hminus
  · exact (List.mem_cons.mp h).resolve_left hplus
  · exact h

theorem mem_dropWhile_digits (hc : c.isDigit = false) (h : c ∈ cs) : c ∈ cs.dropWhile Char.isDigit := by
  rw [← List.takeWhile_append_dropWhile (p := Char.isDigit) (l := cs), List.mem_append] at h
  refine h.resolve_left fun hmem => ?_
  rw [List.mem_takeWhile_imp hmem] at hc
  cases hc

theorem readExponent?_of_mem (hc : IsForeign c) (h : c ∈ cs) : readExponent? cs = none := by
  obtain ⟨-, hplus, hminus, -, he, hE⟩ : c ≠ '_' ∧ c ≠ '+' ∧ c ≠ '-' ∧ c ≠ '.' ∧ c ≠ 'e' ∧ c ≠ 'E' := by
    simpa using hc.not_mark
  cases cs with
  | nil => cases h
  | cons d rest =>
    rw [readExponent?]
    split_ifs with hd
    · have hrest : c ∈ rest := (List.mem_cons.mp h).resolve_left (by
        rintro rfl
        simp [he, hE] at hd)
      have hbody : ((takeSign rest).2.all Char.isDigit) = false := by
        by_contra hall
        have hdigit := List.all_eq_true.mp (Bool.of_not_eq_false hall) c (mem_takeSign hrest hplus hminus)
        rw [hc.not_digit] at hdigit
        cases hdigit
      simp [hbody]
    · rfl

theorem readUnsigned?_of_mem (hc : IsForeign c) (h : c ∈ cs) (neg : Bool) : readUnsigned? neg cs = none := by
  have hpoint : c ≠ '.' := fun heq => hc.not_mark (by simp [heq])
  have hrest := mem_dropWhile_digits hc.not_digit h
  unfold readUnsigned?
  cases hdrop : cs.dropWhile Char.isDigit with
  | nil => 
    rw [hdrop] at hrest
    cases hrest
  | cons d more =>
    rw [hdrop] at hrest
    by_cases hd : d = '.'
    · subst hd
      have hmore := mem_dropWhile_digits hc.not_digit ((List.mem_cons.mp hrest).resolve_left hpoint)
      simp [readExponent?_of_mem hc hmore]
    · simp [hd, readExponent?_of_mem hc hrest]

/-- A text with a foreign character is no number. -/
theorem readFloat?_of_mem (hc : IsForeign c) {s : String} (h : c ∈ s.toList) : readFloat? s = none := by
  obtain ⟨hline, hplus, hminus, -⟩ : c ≠ '_' ∧ c ≠ '+' ∧ c ≠ '-' ∧ c ≠ '.' ∧ c ≠ 'e' ∧ c ≠ 'E' := by
    simpa using hc.not_mark
  unfold readFloat?
  cases hdrop : dropLowLines? ' ' (trimmed s) with
  | none => rfl
  | some body =>
    have hbody : c ∈ (takeSign body).2 := mem_takeSign (mem_dropLowLines? hdrop (hc.mem_trimmed h) hline) hplus hminus
    have hword {word : String} (hword : c.toLower ∉ word.toList) :
        String.ofList ((takeSign body).2.map Char.toLower) ≠ word := by
      rintro rfl
      rw [String.toList_ofList] at hword
      exact hword (List.mem_map_of_mem hbody)
    dsimp only
    split
    · rename_i heq
      exact absurd heq (hword fun hmem => hc.not_letter.1 (List.mem_of_mem_take (i := 3) hmem))
    · rename_i heq
      exact absurd heq (hword hc.not_letter.1)
    · rename_i heq
      exact absurd heq (hword hc.not_letter.2)
    · exact readUnsigned?_of_mem hc hbody _

end Runbook.Decimal
