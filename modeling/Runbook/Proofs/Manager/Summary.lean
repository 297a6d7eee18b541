import Runbook.Proofs.Execution.Failing
import Runbook.Proofs.Execution.Timeline
import Runbook.Proofs.Manager.Soundness
import Runbook.Proofs.Session.Summary

/-! Whatever is done with a session, its summary accounts for it: each record is of a step of the workflow, and the
session stops for one reason at one of its steps. -/

namespace Runbook

/-- Every record is of a step of the workflow, and what the session failed with is a failure of the engine. -/
structure Session.IsOnRecord (w : Workflow) (s : Session) : Prop where
  recorded : ∀ r ∈ s.history, r.stepId ∈ w.stepIds
  raised : ∀ b, s.lastError = some b → ∃ f : Failure, b = Engine.errorFields f

variable {w : Workflow} {s t : Session}

namespace Session

theorem IsOnRecord.congr (h : s.IsOnRecord w) (hhistory : t.history = s.history) (hlast : t.lastError = s.lastError) :
    t.IsOnRecord w :=
  ⟨hhistory ▸ h.recorded, hlast ▸ h.raised⟩

theorem IsOnRecord.append {r : StepRecord} (h : s.IsOnRecord w) (hr : r.stepId ∈ w.stepIds)
    (hhistory : t.history = s.history ++ [r]) (hlast : t.lastError = s.lastError) : t.IsOnRecord w where
  recorded q hq := by
    rw [hhistory] at hq
    rcases List.mem_append.mp hq with hq | hq
    · exact h.recorded q hq
    · rw [List.mem_singleton.mp hq]
      exact hr
  raised := hlast ▸ h.raised

theorem IsOnRecord.failed {σ : Type} (h : s.IsOnRecord w) (e : Engine σ) (f : Failure) : (e.failed s f).IsOnRecord w where
  recorded := h.recorded
  raised _ hb := ⟨f, (Option.some.inj hb).symm⟩

theorem IsOnRecord.resumed {σ : Type} (h : s.IsOnRecord w) (e : Engine σ) : (e.resumed s).IsOnRecord w :=
  ⟨h.recorded, nofun⟩

/-- The failure of a session is read back as it is. -/
theorem IsOnRecord.stored (h : s.IsOnRecord w) : s.stored.IsOnRecord w where
  recorded q hq := by
    obtain ⟨r, hr, rfl⟩ := List.mem_map.mp hq
    exact h.recorded r hr
  raised b hb := by
    obtain ⟨c, hc, rfl⟩ := Option.map_eq_some_iff.mp hb
    obtain ⟨f, rfl⟩ := h.raised c hc
    exact ⟨f, (Engine.isPortable_errorFields f).stored_eq⟩

/-- The failure of a session has a message. -/
theorem IsOnRecord.told (h : s.IsOnRecord w) : ∃ error, s.errorMessage = .ok error := by
  unfold errorMessage
  cases hlast : s.lastError with
  | none => exact ⟨none, rfl⟩
  | some b =>
    obtain ⟨f, rfl⟩ := h.raised b hlast
    exact ⟨some f.message, rfl⟩

end Session

namespace Engine

variable {σ : Type} {e : Engine σ} {step : Step}

end Engine

namespace Manager

variable {γ : Type} {m : Manager γ} {id : String} {x : World γ}

end Manager

end Runbook
