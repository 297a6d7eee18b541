import Runbook.Proofs.Manager.Reached
import Runbook.Proofs.Workflow.Build

/-! Every session that is saved is in one of the states of a session: it waits, it has failed, it is
completed, or none of these, and then it is at a step of its workflow. -/

namespace Runbook

/-- The flags, the current step and the count of jumps of a session that may be saved. -/
structure Session.Sound (w : Workflow) (cap : ℤ) (s : Session) : Prop where
  completed_iff : s.completed = true ↔ s.currentStep = none
  current : s.completed = false → ∃ id ∈ w.stepIds, s.currentStep = some id
  exclusive : [s.paused, s.completed, s.failed].count true ≤ 1
  failed_iff : s.failed = true ↔ s.lastError.isSome = true
  nonneg : 0 ≤ s.iterations
  bounded : s.iterations ≤ cap

namespace Workflow

theorem mem_stepIds_of_indexOf? {w : Workflow} {id : String} {i : ℕ} (h : w.indexOf? id = some i) :
    id ∈ w.stepIds := by
  obtain ⟨hi, hid, -⟩ := List.findIdx?_eq_some_iff_getElem.mp h
  rw [beq_iff_eq] at hid
  exact List.mem_map.mpr ⟨_, List.getElem_mem hi, hid⟩

theorem mem_stepIds_of_nextStepId? {w : Workflow} {id next : String} (h : w.nextStepId? id = some next) :
    next ∈ w.stepIds := by
  unfold nextStepId? at h
  split at h
  · obtain ⟨step, hstep, rfl⟩ := Option.map_eq_some_iff.mp h
    exact List.mem_map_of_mem (List.mem_of_getElem? hstep)
  · cases h

end Workflow

namespace Engine

variable {σ : Type} {e : Engine σ} {w : Workflow} {s t : Session} {step : Step}

/-- A redirection goes to a step of the workflow, and one backward is counted within the bound at its step. -/
theorem target_eq_ok {o : Outcome} {next : Option String} {iterations : ℤ}
    (h : e.target w s step o = .ok (next, iterations)) :
    (∀ id, next = some id → id ∈ w.stepIds) ∧
      (iterations = s.iterations ∨ iterations = s.iterations + 1 ∧ iterations ≤ e.limitAt step) := by
  unfold target at h
  split at h
  · obtain ⟨rfl, rfl⟩ := Prod.mk.inj (Except.ok.inj h)
    exact ⟨fun id hid => Workflow.mem_stepIds_of_nextStepId? hid, .inl rfl⟩
  · rename_i id hnext
    split at h
    · cases h
    · rename_i i hi
      have hmem : ∀ other, some id = some other → other ∈ w.stepIds := by
        rintro _ ⟨⟩
        exact Workflow.mem_stepIds_of_indexOf? hi
      split_ifs at h with hback
      · dsimp only at h
        split_ifs at h with hlimit
        obtain ⟨rfl, rfl⟩ := Prod.mk.inj (Except.ok.inj h)
        exact ⟨hmem, .inr ⟨rfl, not_lt.mp hlimit⟩⟩
      · obtain ⟨rfl, rfl⟩ := Prod.mk.inj (Except.ok.inj h)
        exact ⟨hmem, .inl rfl⟩

end Engine

namespace Manager

variable {γ : Type} {m : Manager γ} {w : Workflow} {id : String} {x : World γ}

end Manager

end Runbook
