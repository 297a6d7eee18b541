import Runbook.Proofs.Manager.Reached
import Runbook.Proofs.Session.History

/-! The history of every session that is saved is a walk of its workflow to the step at which the session
is. -/

namespace Runbook

namespace Engine

open Execution

variable {σ : Type} {e : Engine σ} {w : Workflow} {s t : Session} {step : Step}

/-- What a step that succeeds writes shows its redirection and its question. -/
theorem writes_of_performed {x : σ} {o : Outcome} (h : (e.performed s step x).1 = .ok o) :
    Workflow.Writes step.task (.obj o.output) o.nextStep o.request.isSome := by
  cases htask : step.task with
  | conditional check onTrue onFalse =>
    have hfill : (step.fill s.variables).task = .conditional check onTrue onFalse := by
      rw [Step.fill, htask, Task.fill]
    obtain ⟨holds, target, -, rfl⟩ := perform_conditional e.services hfill x o h
    exact .conditional check onTrue onFalse target holds
  | loop target condition maxIterations =>
    have hfill : (step.fill s.variables).task = .loop target condition maxIterations := by
      rw [Step.fill, htask, Task.fill]
    obtain ⟨again, rfl⟩ := perform_loop e.services hfill x o h
    exact .loop target condition maxIterations again s.iterations
  | interactive q =>
    have hfill : (step.fill s.variables).task =
        .interactive { q with prompt := Template.fill q.prompt s.variables } := by
      rw [Step.fill, htask, Task.fill]
    obtain rfl := perform_interactive e.services hfill x o h
    refine .question q _ ?_
    simp [Bindings.names, InputRequest.toFields]
  | _ =>
    have hflow : (step.fill s.variables).task.isFlow = false := by
      rw [Step.fill, Task.isFlow_fill, htask]
      rfl
    obtain ⟨hnext, hrequest, -⟩ := plain_perform e.services s hflow x o h
    rw [hnext, hrequest]
    exact .plain rfl _

/-- The target of a step and the count of jumps are those that its redirection shows. -/
theorem target_spec {o : Outcome} {next : Option String} {iterations : ℤ}
    (h : e.target w s step o = .ok (next, iterations)) :
    next = (match o.nextStep with
      | some id => some id
      | none => w.nextStepId? step.id) ∧
    iterations = s.iterations + if w.goesBack step.id o.nextStep then 1 else 0 := by
  unfold target at h
  split at h
  · rename_i hnext
    obtain ⟨rfl, rfl⟩ := Prod.mk.inj (Except.ok.inj h)
    simp [hnext, Workflow.goesBack]
  · rename_i id hnext
    split at h
    · cases h
    · rename_i i hi
      split_ifs at h with hback
      · dsimp only at h
        split_ifs at h
        obtain ⟨rfl, rfl⟩ := Prod.mk.inj (Except.ok.inj h)
        simp [hnext, Workflow.goesBack, hi, hback]
      · obtain ⟨rfl, rfl⟩ := Prod.mk.inj (Except.ok.inj h)
        simp [hnext, Workflow.goesBack, hi, hback]

theorem walk_afterFailure (h : s.IsLegibleWalk w) (hstep : stepOf? w s = some step) (o : Option Outcome)
    (message : String) : (e.afterFailure s step o message).IsLegibleWalk w := by
  have hcurrent := (stepOf?_eq_some hstep).1
  refine h.append hcurrent (fun hsuccess => absurd hsuccess Bool.false_ne_true) rfl hcurrent ?_
  exact (add_zero s.iterations).symm

theorem walk_afterSuccess (h : s.IsLegibleWalk w) (hstep : stepOf? w s = some step) {o : Outcome} {x : σ}
    (hdone : (e.performed s step x).1 = .ok o) {next : Option String} {iterations : ℤ}
    (htarget : e.target w s step o = .ok (next, iterations)) :
    (e.afterSuccess s step o next iterations).IsLegibleWalk w := by
  obtain ⟨hcurrent, hget⟩ := stepOf?_eq_some hstep
  obtain ⟨hnext, hiterations⟩ := target_spec htarget
  have hwrites := writes_of_performed hdone
  set r := e.successRecord step o
  have hasks : w.isAsking r = o.request.isSome := Workflow.isAsking_of_writes hget hwrites
  have hredirects : w.redirect? r = o.nextStep := Workflow.redirect?_of_writes hget hwrites
  have hlegible : w.Legible r := by
    intro _ other hother
    obtain rfl := Option.some.inj (hget.symm.trans hother)
    exact ⟨_, _, hwrites⟩
  have hback : w.isBackward r = w.goesBack step.id o.nextStep := by
    rw [Workflow.isBackward, hredirects]
    rfl
  have hpointer : w.pointerAfter r = if o.request.isSome then some step.id else next := by
    rw [Workflow.pointerAfter, hasks, hredirects, hnext]
    rfl
  rw [afterSuccess_eq]
  split_ifs with hrequest
  · refine h.append hcurrent hlegible rfl ?_ ?_
    · rw [hpointer, if_pos hrequest]
      exact hcurrent
    · rw [hback]
      exact hiterations
  · refine h.append hcurrent hlegible ?_ ?_ ?_
    · cases next <;> rfl
    · rw [hpointer, if_neg hrequest]
      cases next <;> rfl
    · rw [hback, ← hiterations]
      cases next <;> rfl

theorem walk_turn (h : s.IsLegibleWalk w) (hturn : Turn e w s t) : t.IsLegibleWalk w := by
  cases hturn with
  | stopped => exact h.congr rfl rfl rfl
  | lost hlost => exact h.congr rfl rfl rfl
  | finished hstep hdone hsuccess htarget => exact walk_afterSuccess h hstep hdone htarget
  | interrupted hstep => exact (walk_afterFailure h hstep _ _).congr rfl rfl rfl
  | broken hstep => exact (walk_afterFailure h hstep _ _).congr rfl rfl rfl

theorem walk_afterAnswer (h : s.IsLegibleWalk w) (hstep : stepOf? w s = some step) {q : Question}
    (htask : step.task = .interactive q) (name : String) (value shown : Value) :
    (e.afterAnswer w s step name value shown).IsLegibleWalk w := by
  obtain ⟨hcurrent, hget⟩ := stepOf?_eq_some hstep
  set r : StepRecord := {
    stepId := step.id
    action := step.action
    success := true
    output := .obj [("answer", shown), ("variable", .text name)]
    timestamp := e.now } with hr
  have hwrites : Workflow.Writes step.task r.output none false := htask ▸ .answer q shown name
  have hasks : w.isAsking r = false := Workflow.isAsking_of_writes hget hwrites
  have hredirects : w.redirect? r = none := Workflow.redirect?_of_writes hget hwrites
  have hlegible : w.Legible r := by
    intro _ other hother
    obtain rfl := Option.some.inj (hget.symm.trans hother)
    exact ⟨_, _, hwrites⟩
  have hback : w.isBackward r = false := by
    rw [Workflow.isBackward, hredirects]
    rfl
  have hpointer : w.pointerAfter r = w.nextStepId? step.id := by
    rw [Workflow.pointerAfter, hasks, hredirects]
    rfl
  have hafter : e.afterAnswer w s step name value shown =
      (({ s with «variables» := s.variables.set name value }).record r e.now).moveTo
        (w.nextStepId? step.id) e.now := rfl
  rw [hafter]
  refine h.append hcurrent hlegible ?_ ?_ ?_
  · cases w.nextStepId? step.id <;> rfl
  · rw [hpointer]
    cases w.nextStepId? step.id <;> rfl
  · rw [hback, if_neg Bool.false_ne_true, add_zero]
    cases w.nextStepId? step.id <;> rfl

end Engine

namespace Manager

variable {γ : Type} {m : Manager γ} {w : Workflow} {id : String} {x : World γ}

theorem walk_initial (w : Workflow) (given : Bindings) (id now : String) :
    (Repository.initial w given id now).IsLegibleWalk w where
  walk before r after h := by
    have := congrArg List.length h
    simp [Repository.initial] at this
  current := rfl
  iterations := rfl
  legible r hr := nomatch hr

end Manager

end Runbook
