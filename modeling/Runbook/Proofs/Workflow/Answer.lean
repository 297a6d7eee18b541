import Runbook.Proofs.Decimal.Digits
import Runbook.Proofs.Text.Cutting
import Runbook.Workflow.Answer

/-! What is accepted as the answer to a question: it is what the question asks for, and it is accepted once more
as it is. -/

namespace Runbook

open Text

/-! ## Texts of values

Only a text can be blank. What stands for any other value has a character that no trimming takes away. -/

theorem isBlank_of_isDigit {c : Char} (h : c.isDigit = true) : Unicode.isBlank c = false := by
  have hrange : 48 ≤ c.toNat ∧ c.toNat ≤ 57 := by simpa [Char.isDigit, UInt32.le_iff_toNat_le] using h
  unfold Unicode.isBlank
  simp only [Bool.or_eq_false_iff, Bool.and_eq_false_iff, decide_eq_false_iff_not, beq_eq_false_iff_ne]
  omega

theorem exists_mem_intText (n : ℤ) : ∃ c ∈ (intText n).toList, Unicode.isBlank c = false := by
  cases n with
  | ofNat k =>
    obtain ⟨c, hc⟩ := List.exists_mem_of_ne_nil _ (Decimal.natText_ne_nil k)
    exact ⟨c, by simpa [intText] using hc, isBlank_of_isDigit (Decimal.isDigit_of_mem_natText hc)⟩
  | negSucc k => exact ⟨'-', by simp [intText], by decide⟩

namespace Decimal

/-- The text of a number has a point or an exponent. -/
theorem mem_unsigned (r : Digits) : '.' ∈ unsigned r ∨ 'e' ∈ unsigned r := by
  unfold unsigned
  dsimp only
  by_cases hplace : -4 < ((digitText r.digits).length : ℤ) + r.exp ∧ ((digitText r.digits).length : ℤ) + r.exp ≤ 16
  · rw [if_pos hplace]
    exact .inl (List.mem_append_right _ List.mem_cons_self)
  · rw [if_neg hplace]
    exact .inr (List.mem_append_right _ List.mem_cons_self)

theorem exists_mem_display (x : Binary64) : ∃ c ∈ (display x).toList, Unicode.isBlank c = false := by
  have hsigned {c : Char} {cs : List Char} (neg : Bool) (hc : c ∈ cs) : c ∈ signed neg cs := by
    cases neg
    · exact hc
    · exact List.mem_cons_of_mem _ hc
  cases x with
  | nan => exact ⟨'n', by simp [display], by decide⟩
  | infinite neg => exact ⟨'i', by cases neg <;> simp [display], by decide⟩
  | finite neg sig exp bound =>
    unfold display
    dsimp only
    split_ifs
    · exact ⟨'0', by simp, by decide⟩
    · exact ⟨'0', by simp, by decide⟩
    · rw [String.toList_ofList]
      obtain hpoint | hexponent := mem_unsigned (shortest (.finite neg sig exp bound) neg sig exp)
      · exact ⟨'.', hsigned neg hpoint, by decide⟩
      · exact ⟨'e', hsigned neg hexponent, by decide⟩

end Decimal

namespace Value

theorem isBlankText_display {v : Value} (h : ∀ s, v ≠ .text s) : isBlankText v.display = false := by
  rw [isBlankText_eq_false_iff]
  cases v with
  | text s => exact absurd rfl (h s)
  | null => exact ⟨'N', by simp [display, inner], by decide⟩
  | bool b =>
    cases b
    · exact ⟨'F', by simp [display, inner], by decide⟩
    · exact ⟨'T', by simp [display, inner], by decide⟩
  | int n => simpa only [display, inner] using exists_mem_intText n
  | num x => simpa only [display, inner] using Decimal.exists_mem_display x
  | bytes bs => exact ⟨'b', by simp [display, inner, quotedBytes], by decide⟩
  | date d => exact ⟨'-', by simp [display, Date.iso], by decide⟩
  | moment m => exact ⟨'-', by simp [display, Moment.isoWith, Date.iso], by decide⟩
  | list xs => exact ⟨'[', by simp [display, inner], by decide⟩
  | tuple xs =>
    refine ⟨'(', ?_, by decide⟩
    simp only [display, inner]
    split <;> simp
  | set xs =>
    simp only [display, inner]
    split_ifs
    · exact ⟨'s', by simp, by decide⟩
    · exact ⟨'\x7b', by simp, by decide⟩
  | map es => exact ⟨'\x7b', by simp [display, inner], by decide⟩

end Value

/-! ## Patterns -/

namespace Pattern

/-- The text is a pattern, and it occurs in the other text. -/
def Finds (pattern text : String) : Prop := ∃ p, parse pattern = .ok p ∧ p.occursIn text = true

/-- The empty pattern occurs at the start of every text. -/
theorem finds_empty (text : String) : Finds "" text := by
  refine ⟨⟨{}, []⟩, rfl, ?_⟩
  have hfuel : fuelFor ⟨{}, []⟩ text.toList.length = 3 * text.toList.length + 11 + 1 := by
    simp only [fuelFor, sizeOfSeq]
    omega
  unfold occursIn
  dsimp only
  rw [hfuel]
  unfold searchFrom
  simp [runSeq]

end Pattern

/-! ## Answers -/

namespace Question

variable {step : String} {q : Question} {answer value : Value} {text : String}

/-- What the question asks of a text that is stored for it. -/
structure AdmitsText (q : Question) (text : String) : Prop where
  asked : q.inputType ≠ .confirm
  offered : q.inputType = .choice → q.choices ≠ [] → text ∈ q.choices
  found : ∀ pattern, q.validationPattern = some pattern → Pattern.Finds pattern text
  trimmed : q.inputType ≠ .multiline → trim text = text

/-- What the question asks of a value that is stored for it: a truth value for a confirmation, and otherwise a
text. -/
def Admits (q : Question) : Value → Prop
  | .bool _ => q.inputType = .confirm
  | .text text => q.AdmitsText text
  | _ => False

/-- The text that an answer comes to, with the default in the place of an empty one. -/
def textOf (q : Question) (answer : Value) : String :=
  if q.inputType = .multiline then (q.orDefault answer).display else trim (q.orDefault answer).display

theorem passes_eq_ok_true_iff :
    q.passes text = .ok true ↔ ∀ pattern, q.validationPattern = some pattern → Pattern.Finds pattern text := by
  unfold passes
  cases q.validationPattern with
  | none => simp
  | some pattern =>
    simp only [Option.some.injEq, forall_eq']
    by_cases hempty : pattern = ""
    · subst hempty
      exact iff_of_true rfl (Pattern.finds_empty text)
    · rw [if_neg (by simpa using hempty)]
      unfold Pattern.Finds
      cases Pattern.parse pattern with
      | ok p => simp
      | error flaw => simp

/-- An answer that is no confirmation is accepted if the question admits its text, which is then what is stored. -/
theorem accept_eq_ok_iff (hasked : q.inputType ≠ .confirm) :
    q.accept step answer = .ok value ↔ q.AdmitsText (q.textOf answer) ∧ value = .text (q.textOf answer) := by
  have htrimmed : q.inputType ≠ .multiline → trim (q.textOf answer) = q.textOf answer := fun hline => by
    unfold textOf
    rw [if_neg hline, trim_trim]
  have hadmits : q.AdmitsText (q.textOf answer) ↔
      (q.inputType = .choice → q.choices ≠ [] → q.textOf answer ∈ q.choices) ∧
        q.passes (q.textOf answer) = .ok true := by
    rw [passes_eq_ok_true_iff]
    exact ⟨fun h => ⟨h.offered, h.found⟩, fun h => ⟨hasked, h.1, h.2, htrimmed⟩⟩
  have hstored : q.accept step answer = stored step q (q.orDefault answer) := if_neg hasked
  have htext : (if q.inputType = .multiline then (q.orDefault answer).display else trim (q.orDefault answer).display) =
      q.textOf answer := rfl
  unfold stored at hstored
  dsimp only at hstored
  rw [htext] at hstored
  rw [hstored, hadmits]
  split_ifs with hchoice
  · obtain ⟨htype, hsome, hother⟩ := hchoice
    have hnot : ¬(q.inputType = .choice → q.choices ≠ [] → q.textOf answer ∈ q.choices) := fun h => by
      simp [h htype (by simpa using hsome)] at hother
    simp [hnot]
  · have hoffered : q.inputType = .choice → q.choices ≠ [] → q.textOf answer ∈ q.choices := fun htype hsome => by
      by_contra hother
      exact hchoice ⟨htype, by simpa using hsome, by simpa using hother⟩
    cases hpasses : q.passes (q.textOf answer) with
    | error e => simp
    | ok passed =>
      cases passed with
      | true => exact ⟨fun h => ⟨⟨hoffered, rfl⟩, (Except.ok.inj h).symm⟩, fun h => by rw [h.2]⟩
      | false => simp

/-- A confirmation is accepted as a truth value. -/
theorem confirmed_eq_ok (h : confirmed step answer = .ok value) : ∃ b, value = .bool b := by
  unfold confirmed at h
  split at h
  · exact ⟨_, (Except.ok.inj h).symm⟩
  · dsimp only at h
    split_ifs at h
    · exact ⟨true, (Except.ok.inj h).symm⟩
    · exact ⟨false, (Except.ok.inj h).symm⟩

theorem orDefault_of_not_empty (h : isEmptyAnswer answer = false) : q.orDefault answer = answer := by
  unfold orDefault
  rw [h]
  rfl

theorem orDefault_of_empty (h : isEmptyAnswer answer = true) :
    q.orDefault answer = .text (q.defaultValue.getD "") := by
  unfold orDefault
  rw [if_pos h]

/-- A default that is itself blank does not stand in for itself a second time. -/
theorem orDefault_default {default : String} (h : q.defaultValue = some default) :
    q.orDefault (.text default) = .text default := by
  unfold orDefault
  rw [h]
  split_ifs <;> rfl

/-- An empty answer is accepted or refused as the default would be. -/
theorem accept_of_empty {default : String} (hempty : isEmptyAnswer answer = true) (h : q.defaultValue = some default) :
    q.accept step answer = q.accept step (.text default) := by
  unfold accept
  rw [orDefault_of_empty hempty, orDefault_default h, h]
  rfl

/-- A blank text that an answer comes to is that of the default. -/
theorem orDefault_of_isBlankText_textOf (h : isBlankText (q.textOf answer) = true) :
    q.orDefault (.text (q.textOf answer)) = q.orDefault answer := by
  have hdisplay : isBlankText (q.orDefault answer).display = true := by
    unfold textOf at h
    split_ifs at h
    · exact h
    · rwa [isBlankText_trim] at h
  have hagain : isEmptyAnswer (.text (q.textOf answer)) = true := h
  rw [orDefault_of_empty hagain]
  cases hempty : isEmptyAnswer answer with
  | true => rw [orDefault_of_empty hempty]
  | false =>
    -- An answer that is not empty is no blank text, and no other value has one.
    rw [orDefault_of_not_empty hempty] at hdisplay
    cases answer with
    | text s =>
      have hblank : isBlankText s = true := hdisplay
      exact absurd (hempty.symm.trans hblank) (by decide)
    | _ =>
      rw [Value.isBlankText_display (by simp)] at hdisplay
      cases hdisplay

/-- The text that an answer comes to comes to itself. -/
theorem textOf_textOf (q : Question) (answer : Value) : q.textOf (.text (q.textOf answer)) = q.textOf answer := by
  cases hblank : isBlankText (q.textOf answer) with
  | true =>
    -- The default stands in again, as it did the first time.
    have hsame := orDefault_of_isBlankText_textOf hblank
    unfold textOf at hsame ⊢
    rw [hsame]
  | false =>
    have hself : q.orDefault (.text (q.textOf answer)) = .text (q.textOf answer) := orDefault_of_not_empty hblank
    unfold textOf at hself ⊢
    rw [hself]
    split_ifs
    · rfl
    · exact trim_trim _

/-- A choice without blanks around it is accepted as it is, if no default stands in for it. -/
theorem accept_choice {choice : String} (htype : q.inputType = .choice) (hpattern : q.validationPattern.getD "" = "")
    (hchoice : choice ∈ q.choices) (htrim : trim choice = choice) (hself : q.orDefault (.text choice) = .text choice) :
    q.accept step (.text choice) = .ok (.text choice) := by
  have hasked : q.inputType ≠ .confirm := by simp [htype]
  have htext : q.textOf (.text choice) = choice := by
    unfold textOf
    rw [hself, if_neg (by simp [htype])]
    exact htrim
  refine (accept_eq_ok_iff hasked).mpr ?_
  rw [htext]
  refine ⟨⟨hasked, fun _ _ => hchoice, fun pattern hp => ?_, fun _ => htrim⟩, rfl⟩
  rw [hp, Option.getD_some] at hpattern
  exact hpattern ▸ Pattern.finds_empty choice

/-- What is stored for an answer is what the question asks for, and it is accepted as it is if it is given as an
answer in turn. An empty answer is accepted or refused as the default would be. -/
theorem accepted_answer_is_admitted_and_stable (step : String) (q : Question) (answer : Value) :
    (∀ value, q.accept step answer = .ok value → q.Admits value ∧ q.accept step value = .ok value) ∧
      (isEmptyAnswer answer = true → ∀ default, q.defaultValue = some default →
        q.accept step answer = q.accept step (.text default)) := by
  refine ⟨fun value h => ?_, fun hempty default => accept_of_empty hempty⟩
  by_cases hasked : q.inputType = .confirm
  · unfold accept at h
    rw [if_pos hasked] at h
    obtain ⟨b, rfl⟩ := confirmed_eq_ok h
    exact ⟨hasked, if_pos hasked⟩
  · obtain ⟨hadmits, rfl⟩ := (accept_eq_ok_iff hasked).mp h
    refine ⟨hadmits, (accept_eq_ok_iff hasked).mpr ?_⟩
    rw [textOf_textOf]
    exact ⟨hadmits, rfl⟩

def releaseQuestion : Question where
  prompt := "Which release?"
  defaultValue := some "v1"
  validationPattern := some "v"

theorem release_is_admitted_and_stable :
    releaseQuestion.accept "pick" (.text " v2 ") = .ok (.text "v2") ∧ releaseQuestion.Admits (.text "v2") ∧
      releaseQuestion.accept "pick" (.text "v2") = .ok (.text "v2") ∧
      releaseQuestion.accept "pick" (.text " ") = releaseQuestion.accept "pick" (.text "v1") := by
  have haccept : releaseQuestion.accept "pick" (.text " v2 ") = .ok (.text "v2") := rfl
  obtain ⟨hadmits, hagain⟩ := (accepted_answer_is_admitted_and_stable "pick" releaseQuestion (.text " v2 ")).1 _ haccept
  have hblank := (accepted_answer_is_admitted_and_stable "pick" releaseQuestion (.text " ")).2 (by decide) "v1" rfl
  exact ⟨haccept, hadmits, hagain, hblank⟩

/-- A confirmation is a word for yes or no, whatever the pattern of the question. -/
def sureQuestion : Question where
  prompt := "Sure?"
  inputType := .confirm
  validationPattern := some "maybe"

theorem confirmation_is_not_searched_for_pattern :
    sureQuestion.accept "sure" (.text "yes") = .ok (.bool true) ∧ sureQuestion.validationPattern = some "maybe" ∧
      ¬Pattern.Finds "maybe" "yes" ∧ ¬∃ text, Value.bool true = .text text ∧ Pattern.Finds "maybe" text := by
  refine ⟨rfl, rfl, ?_, ?_⟩
  · rintro ⟨p, hparse, hfound⟩
    cases hparse
    exact absurd hfound (by decide)
  · rintro ⟨text, htext, -⟩
    cases htext

end Question

end Runbook
