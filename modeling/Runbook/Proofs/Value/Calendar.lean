import Runbook.Decimal.Reader
import Runbook.Proofs.Decimal.Digits
import Runbook.Proofs.Text.Cutting
import Runbook.Workflow.Document

/-! The texts of dates and of moments are no numbers: digits come first, and a dash follows that no number has
there. -/

namespace Runbook

open Text

namespace Decimal

def digitChars : List Char := "0123456789".toList

/-- The characters of dates and of clocks. -/
def calendarChars : List Char := digitChars ++ "-:.+TZ".toList

theorem mem_digitChars {c : Char} (h : c.isDigit = true) : c ∈ digitChars := by
  simp only [Char.isDigit, Bool.and_eq_true, decide_eq_true_eq] at h
  obtain ⟨hlow, hhigh⟩ : 48 ≤ c.toNat ∧ c.toNat ≤ 57 := ⟨h.1, h.2⟩
  rw [← Char.ofNat_toNat c]
  interval_cases c.toNat <;> decide

/-- A digit is no sign and does not begin a word for a number. -/
theorem digitChars_plain : ∀ d ∈ digitChars, d ≠ '-' ∧ d ≠ '+' ∧ d.toLower ≠ 'i' ∧ d.toLower ≠ 'n' :=
  forall_of_all (by decide)

/-- They are no blanks and no low lines, and stay as they are where digits are put into ASCII. -/
theorem calendarChars_plain : ∀ c ∈ calendarChars,
    Unicode.isBlank c = false ∧ c ≠ '_' ∧ foldDigits [c] = [c] :=
  forall_of_all (by decide)

/-- A text that begins with digits and a dash and has no other characters than these. -/
def IsCalendar (cs : List Char) : Prop :=
  ∃ ds rest, cs = ds ++ '-' :: rest ∧ ds ≠ [] ∧ (∀ d ∈ ds, d.isDigit = true) ∧ ∀ c ∈ rest, c ∈ calendarChars

variable {cs : List Char}

theorem IsCalendar.append {more : List Char} (h : IsCalendar cs) (hmore : ∀ c ∈ more, c ∈ calendarChars) :
    IsCalendar (cs ++ more) := by
  obtain ⟨ds, rest, rfl, hne, hds, hrest⟩ := h
  refine ⟨ds, rest ++ more, List.append_assoc _ _ _, hne, hds, fun c hc => ?_⟩
  rcases List.mem_append.mp hc with hc | hc
  · exact hrest c hc
  · exact hmore c hc

theorem IsCalendar.mem (h : IsCalendar cs) {c : Char} (hc : c ∈ cs) : c ∈ calendarChars := by
  obtain ⟨ds, rest, rfl, -, hds, hrest⟩ := h
  rcases List.mem_append.mp hc with hc | hc
  · exact List.mem_append_left _ (mem_digitChars (hds c hc))
  · rcases List.mem_cons.mp hc with rfl | hc
    · decide
    · exact hrest c hc

theorem IsCalendar.ne_nil (h : IsCalendar cs) : cs ≠ [] := by
  obtain ⟨ds, rest, rfl, -⟩ := h
  simp

theorem trimmed_eq_toList {s : String} (h : ∀ c ∈ s.toList, c ∈ calendarChars) : trimmed s = s.toList := by
  have hblank (ds : List Char) (hds : ∀ c ∈ ds, c ∈ calendarChars) : ds.dropWhile Unicode.isBlank = ds := by
    cases ds with
    | nil => rfl
    | cons d ds => rw [List.dropWhile_cons_of_neg (by simp [(calendarChars_plain d (hds d List.mem_cons_self)).1])]
  unfold trimmed trimStart trimEnd
  rw [hblank _ h, hblank _ fun c hc => h c (List.mem_reverse.mp hc), List.reverse_reverse]
  unfold foldDigits
  refine (List.map_congr_left fun c hc => ?_).trans (List.map_id _)
  exact List.cons.inj (calendarChars_plain c (h c hc)).2.2 |>.1

theorem dropLowLines?_of_notMem (before : Char) (h : '_' ∉ cs) : dropLowLines? before cs = some cs := by
  induction cs generalizing before with
  | nil => rfl
  | cons c cs ih =>
    obtain ⟨hc, hcs⟩ := List.ne_and_not_mem_of_not_mem_cons h
    rw [dropLowLines?.eq_def]
    split
    · rename_i heq
      cases heq
    · rename_i heq
      exact absurd (List.cons.inj heq).1.symm hc
    · rename_i heq
      obtain ⟨rfl, rfl⟩ := List.cons.inj heq
      rw [ih c hcs]
      rfl

theorem takeSign_of_digit {d : Char} (hd : d ∈ digitChars) (cs : List Char) : takeSign (d :: cs) = (false, d :: cs) := by
  obtain ⟨hminus, hplus, -⟩ := digitChars_plain d hd
  unfold takeSign
  split
  · rename_i heq
    exact absurd (List.cons.inj heq).1 hminus
  · rename_i heq
    exact absurd (List.cons.inj heq).1 hplus
  · rfl

/-- What has a digit behind its sign is none of the words for numbers. -/
theorem readFloat?_of_digit {s : String} {d : Char} {neg : Bool} {rest : List Char}
    (hs : dropLowLines? ' ' (trimmed s) = some cs) (hsign : takeSign cs = (neg, d :: rest)) (hd : d ∈ digitChars) :
    readFloat? s = readUnsigned? neg (d :: rest) := by
  obtain ⟨-, -, hi, hn⟩ := digitChars_plain d hd
  have hword (word : String) (hword : word.toList.head? ≠ some d.toLower) :
      String.ofList ((d :: rest).map Char.toLower) ≠ word := by
    rintro rfl
    exact hword (by rw [String.toList_ofList]; rfl)
  unfold readFloat?
  rw [hs]
  simp only [hsign]
  split
  · rename_i heq
    exact absurd heq (hword "inf" fun h => hi (Option.some.inj h).symm)
  · rename_i heq
    exact absurd heq (hword "infinity" fun h => hi (Option.some.inj h).symm)
  · rename_i heq
    exact absurd heq (hword "nan" fun h => hn (Option.some.inj h).symm)
  · rfl

/-- Where no character is of another kind, nothing is left out of a text that is read. -/
theorem dropLowLines?_trimmed {s : String} (h : ∀ c ∈ s.toList, c ∈ calendarChars) :
    dropLowLines? ' ' (trimmed s) = some s.toList := by
  have hlow : '_' ∉ s.toList := fun hmem => (calendarChars_plain _ (h _ hmem)).2.1 rfl
  rw [trimmed_eq_toList h, dropLowLines?_of_notMem ' ' hlow]

/-- Such a text is no number. -/
theorem readFloat?_of_isCalendar {s : String} (h : IsCalendar s.toList) : readFloat? s = none := by
  have hread := dropLowLines?_trimmed fun c hc => h.mem hc
  obtain ⟨ds, rest, heq, hne, hds, -⟩ := h
  obtain ⟨d, ds, rfl⟩ := List.exists_cons_of_ne_nil hne
  have hd : d ∈ digitChars := mem_digitChars (hds d List.mem_cons_self)
  have hends : ∀ c ∈ ('-' :: rest).head?, c.isDigit = false := fun c hc => by
    obtain rfl := Option.some.inj hc
    rfl
  obtain ⟨hwhole, hrest⟩ := span_digits hds hends
  rw [heq, List.cons_append] at hread
  rw [List.cons_append] at hwhole hrest
  rw [readFloat?_of_digit hread (takeSign_of_digit hd _) hd, readUnsigned?, hwhole, hrest]
  rfl

end Decimal

/-! ## Dates and moments -/

open Decimal

theorem mem_calendarChars_padLeft (width n : ℕ) : ∀ c ∈ padLeft width '0' (natText n), c ∈ calendarChars :=
  fun _ hc => List.mem_append_left _ (mem_digitChars (isDigit_of_mem_zeros_append hc))

theorem isCalendar_iso (d : Date) : IsCalendar d.iso.toList := by
  unfold Date.iso
  rw [String.toList_ofList, List.append_assoc]
  refine ⟨_, padLeft 2 '0' (natText d.month) ++ '-' :: padLeft 2 '0' (natText d.day), rfl, ?_,
    fun _ => isDigit_of_mem_zeros_append, ?_⟩
  · unfold padLeft
    simp [natText_ne_nil]
  · have hdash : '-' ∈ calendarChars := by decide
    simp only [List.forall_mem_append, List.forall_mem_cons]
    exact ⟨mem_calendarChars_padLeft 2 d.month, hdash, mem_calendarChars_padLeft 2 d.day⟩

theorem mem_calendarChars_clock (m : Moment) : ∀ c ∈ m.clock, c ∈ calendarChars := by
  have hcolon : ':' ∈ calendarChars := by decide
  have hpoint : '.' ∈ calendarChars := by decide
  have htwo (n : ℕ) : ∀ c ∈ twoDigits n, c ∈ calendarChars := mem_calendarChars_padLeft 2 n
  unfold Moment.clock
  simp only [List.forall_mem_append, List.forall_mem_cons]
  refine ⟨⟨⟨htwo _, hcolon, htwo _⟩, hcolon, htwo _⟩, ?_⟩
  split_ifs
  · exact List.forall_mem_nil _
  · exact List.forall_mem_cons.mpr ⟨hpoint, mem_calendarChars_padLeft 6 m.micro⟩

theorem mem_calendarChars_offsetText (offset : ℤ) : ∀ c ∈ offsetText offset, c ∈ calendarChars := by
  have hcolon : ':' ∈ calendarChars := by decide
  have hsign : (if offset < 0 then '-' else '+') ∈ calendarChars := by split_ifs <;> decide
  have htwo (n : ℕ) : ∀ c ∈ twoDigits n, c ∈ calendarChars := mem_calendarChars_padLeft 2 n
  unfold offsetText
  simp only [List.forall_mem_append, List.forall_mem_cons]
  refine ⟨⟨⟨hsign, htwo _⟩, hcolon, htwo _⟩, ?_⟩
  split_ifs
  · exact List.forall_mem_nil _
  · exact List.forall_mem_cons.mpr ⟨hcolon, htwo _⟩

theorem isCalendar_isoWith (m : Moment) : IsCalendar (m.isoWith 'T').toList := by
  have hmark : 'T' ∈ calendarChars := by decide
  unfold Moment.isoWith
  rw [String.toList_append, String.toList_ofList]
  refine (isCalendar_iso m.date).append ?_
  simp only [List.forall_mem_append, List.forall_mem_cons]
  refine ⟨⟨hmark, mem_calendarChars_clock m⟩, ?_⟩
  cases m.offset with
  | none => exact List.forall_mem_nil _
  | some offset => exact mem_calendarChars_offsetText offset

theorem isCalendar_plain (m : Moment) : IsCalendar m.plain.toList := by
  unfold Moment.plain
  split
  · rw [String.toList_append]
    exact (isCalendar_isoWith _).append (forall_of_all (by decide))
  · exact isCalendar_isoWith m

end Runbook
