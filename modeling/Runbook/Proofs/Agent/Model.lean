import Runbook.Agent.Model
import Runbook.Proofs.Text.Cutting

/-! Providers as texts. A text is read as a known provider with a model exactly if it is what is written for one, and
else it is a model of another provider. So what is written for a known provider with a model means the same under every
other one, however many colons its model has. -/

namespace Runbook.Provider

open Text

/-- A known provider with a model. -/
structure IsNamed (p : Provider) : Prop where
  known : p.name ∈ Provider.known
  model_ne : p.model ≠ ""

/-- The first colon behind the name of a known provider is the one that was written there. -/
theorem colon_notMem_of_known {name : String} (h : name ∈ known) : ':' ∉ name.toList :=
  forall_of_all (p := fun name : String => ':' ∉ name.toList) (by decide) name h

theorem isWord_of_known {name : String} (h : name ∈ known) : IsWord name := by
  simp only [known, List.mem_cons, List.not_mem_nil, or_false] at h
  rcases h with rfl | rfl | rfl <;> exact ⟨by decide, forall_of_all (by decide)⟩

theorem split?_eq_some_iff_display {spec : String} {p : Provider} :
    split? spec ":" = some (p.name, p.model) ↔ spec = p.display ∧ ':' ∉ p.name.toList := by
  have hcolon : ":" = String.singleton ':' := rfl
  rw [display, hcolon]
  exact split?_eq_some_iff

/-- What is written for a known provider with a model is read as that. -/
theorem parse_display {p : Provider} (h : p.IsNamed) (fallback : String) : parse p.display fallback = p := by
  have hsplit : split? p.display ":" = some (p.name, p.model) :=
    split?_eq_some_iff_display.mpr ⟨rfl, colon_notMem_of_known h.known⟩
  have hcheck : (!p.model.isEmpty && known.contains p.name) = true := by simp [h.known, h.model_ne]
  rw [parse, hsplit]
  exact if_pos hcheck

/-- Nothing else is read in this way. -/
theorem parse_cases (spec fallback : String) :
    ((parse spec fallback).IsNamed ∧ spec = (parse spec fallback).display) ∨ parse spec fallback = ⟨fallback, spec⟩ := by
  rw [parse]
  cases hsplit : split? spec ":" with
  | none => exact .inr rfl
  | some parts =>
    obtain ⟨name, model⟩ := parts
    dsimp only
    split_ifs with hcheck
    · simp only [Bool.and_eq_true, Bool.not_eq_true', List.contains_iff_mem] at hcheck
      exact .inl ⟨⟨hcheck.2, by simpa using hcheck.1⟩, (split?_eq_some_iff_display (p := ⟨name, model⟩)).mp hsplit |>.1⟩
    · exact .inr rfl

/-- What is read is a known provider with a model, if the provider that else counts is known. -/
theorem isNamed_parse {spec fallback : String} (hspec : spec ≠ "") (h : fallback ∈ known) :
    (parse spec fallback).IsNamed := by
  rcases parse_cases spec fallback with ⟨hnamed, -⟩ | hbare
  · exact hnamed
  · rw [hbare]
    exact ⟨h, hspec⟩

/-- Around what is written for a text without blanks around it, there are none either. -/
theorem trim_display_parse {spec fallback : String} (hspec : spec ≠ "") (htrim : trim spec = spec)
    (h : fallback ∈ known) : trim (parse spec fallback).display = (parse spec fallback).display := by
  rcases parse_cases spec fallback with ⟨-, hdisplay⟩ | hbare
  · rw [← hdisplay, htrim]
  · have hends : HasEnds spec.toList := htrim ▸ hasEnds_trim (htrim.symm ▸ hspec)
    rw [hbare]
    apply trim_eq_self
    simpa [display] using (isWord_of_known h).hasEnds.join hends ":".toList

theorem length_display (p : Provider) : p.display.length = p.name.length + 1 + p.model.length := by
  simp only [display, String.length_append]
  rfl

theorem display_ne_empty (p : Provider) : p.display ≠ "" := by
  intro h
  have hlength := p.length_display
  rw [h, String.length_empty] at hlength
  omega

theorem display_ne_model (p : Provider) : p.display ≠ p.model := by
  intro h
  have hlength := p.length_display
  rw [h] at hlength
  omega

/-- What is written means the same under every provider only for a known one with a model. -/
theorem isNamed_iff_parse_display (p : Provider) : p.IsNamed ↔ ∀ fallback, parse p.display fallback = p := by
  constructor
  · exact parse_display
  · intro h
    rcases parse_cases p.display p.name with ⟨hnamed, -⟩ | hbare
    · rwa [h] at hnamed
    · rw [h] at hbare
      exact absurd (congrArg Provider.model hbare).symm p.display_ne_model

end Runbook.Provider
