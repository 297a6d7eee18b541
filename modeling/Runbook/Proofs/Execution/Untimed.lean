import Runbook.Proofs.Execution.Turn
import Runbook.Proofs.Session.Untimed

/-! What a session comes to does not depend on its times, nor on the time at which an engine works. -/

namespace Runbook

open Session

variable {σ : Type} {s t : Session}

theorem Execution.perform_eq (h : SameButTimes s t) (v : Services σ) (step : Step) :
    perform v t step = perform v s step := by
  unfold perform
  cases step.task with
  | conditional check onTrue onFalse =>
    dsimp only
    unfold conditional checkBindings
    rw [h.currentStep_eq, h.variables_eq, h.iterations_eq, h.length_history]
  | loop target condition maxIterations =>
    dsimp only
    unfold loop loopBindings
    rw [h.variables_eq, h.iterations_eq]
  | _ => rfl

theorem Session.SameButTimes.moveTo (h : SameButTimes s t) (target : Option String) (now now' : String) :
    SameButTimes (s.moveTo target now) (t.moveTo target now') := by
  cases target with
  | none => exact { h with currentStep_eq := rfl, completed_eq := rfl }
  | some id => exact { h with currentStep_eq := rfl }

theorem Session.SameButTimes.record (h : SameButTimes s t) {r r' : StepRecord} (hr : r'.untimed = r.untimed)
    (now now' : String) : SameButTimes (s.record r now) (t.record r' now') where
  name_eq := h.name_eq
  id_eq := h.id_eq
  currentStep_eq := h.currentStep_eq
  variables_eq := h.variables_eq
  history_eq := by
    simp only [Session.record, List.map_append, List.map_cons, List.map_nil]
    rw [h.history_eq, hr]
  iterations_eq := h.iterations_eq
  paused_eq := h.paused_eq
  completed_eq := h.completed_eq
  failed_eq := h.failed_eq
  lastError_eq := h.lastError_eq

namespace Engine

variable {e e' : Engine σ} {w : Workflow} {step : Step}

theorem stepOf?_eq (h : SameButTimes s t) : stepOf? w t = stepOf? w s := by
  unfold stepOf?
  rw [h.currentStep_eq]

theorem performed_eq (hservices : e'.services = e.services) (h : SameButTimes s t) (step : Step) (x : σ) :
    e'.performed t step x = e.performed s step x := by
  unfold performed
  rw [hservices, Execution.perform_eq h, h.variables_eq]

theorem judge_eq (hmax : e'.maxIterations = e.maxIterations) (h : SameButTimes s t) (o : Outcome) :
    e'.judge w t step o = e.judge w s step o := by
  unfold judge target limitAt
  rw [hmax, h.iterations_eq]

theorem named_eq (h : SameButTimes s t) (f : Failure) : named t f = named s f := by
  unfold named
  rw [h.key_eq, h.name_eq]

theorem unknownStep_eq (h : SameButTimes s t) : unknownStep w t = unknownStep w s := by
  unfold unknownStep
  rw [h.currentStep_eq]

theorem sameButTimes_afterSuccess (e e' : Engine σ) (step : Step) (h : SameButTimes s t) (o : Outcome)
    (target : Option String) (iterations : ℤ) :
    SameButTimes (e.afterSuccess s step o target iterations) (e'.afterSuccess t step o target iterations) := by
  have hset : SameButTimes { s with «variables» := s.variables.update o.exports, iterations }
      { t with «variables» := t.variables.update o.exports, iterations } :=
    { h with variables_eq := congrArg (·.update o.exports) h.variables_eq, iterations_eq := rfl }
  unfold afterSuccess
  dsimp only
  split_ifs
  · exact { hset.record (by rfl) e.now e'.now with paused_eq := rfl }
  · exact (hset.record (by rfl) e.now e'.now).moveTo _ _ _

theorem sameButTimes_stopped (h : SameButTimes s t) : SameButTimes (e.stopped s) (e'.stopped t) :=
  { h with paused_eq := rfl }

theorem sameButTimes_failed (h : SameButTimes s t) (f : Failure) : SameButTimes (e.failed s f) (e'.failed t f) :=
  { h with failed_eq := rfl, lastError_eq := rfl }

theorem sameButTimes_resumed (h : SameButTimes s t) : SameButTimes (e.resumed s) (e'.resumed t) :=
  { h with paused_eq := rfl, failed_eq := rfl, lastError_eq := rfl }

theorem sameButTimes_afterFailure (e e' : Engine σ) (step : Step) (h : SameButTimes s t) (o : Option Outcome) (message : String) :
    SameButTimes (e.afterFailure s step o message) (e'.afterFailure t step o message) := by
  have hset : SameButTimes { s with «variables» := s.variables.update ((o.map Outcome.exports).getD []) }
      { t with «variables» := t.variables.update ((o.map Outcome.exports).getD []) } :=
    { h with variables_eq := congrArg (·.update ((o.map Outcome.exports).getD [])) h.variables_eq }
  unfold afterFailure
  refine hset.record ?_ e.now e'.now
  rfl

/-- What is saved and how a run ends then is the same, times apart. -/
structure SameEnd (a b : Session × Except Fault Session) : Prop where
  saved : SameButTimes a.1 b.1
  ending : b.2.map untimed = a.2.map untimed

theorem sameEnd_stopping (h : SameButTimes s t) : SameEnd (e.stopping s) (e'.stopping t) :=
  ⟨sameButTimes_stopped h, congrArg Except.ok (untimed_eq_iff.mpr (sameButTimes_stopped h))⟩

theorem sameEnd_failing (h : SameButTimes s t) (f : Failure) : SameEnd (e.failing s f) (e'.failing t f) := by
  unfold failing
  rw [named_eq h]
  exact ⟨sameButTimes_failed h _, rfl⟩

theorem sameEnd_settledFailure (h : SameButTimes s t) (o : Option Outcome) (f : Fault) (stop : Bool) :
    SameEnd (e.settledFailure w s step o f stop) (e'.settledFailure w t step o f stop) := by
  have hfailure : stepFailure w t step f = stepFailure w s step f := by
    unfold stepFailure
    rw [h.key_eq]
  have hafter := sameButTimes_afterFailure e e' step h o (stepFailure w s step f).message
  unfold settledFailure
  rw [hfailure]
  dsimp only
  split_ifs
  · exact sameEnd_stopping hafter
  · exact sameEnd_failing hafter _

/-- What becomes of a session by what its step came to is the same, times apart. -/
theorem sameEnd_settled (hmax : e'.maxIterations = e.maxIterations) (h : SameButTimes s t) (stop : Bool)
    (r : Except Fault Outcome) : SameEnd (e.settled w s step stop r) (e'.settled w t step stop r) := by
  unfold settled
  cases r with
  | error f => exact sameEnd_settledFailure h none f stop
  | ok o =>
    dsimp only
    rw [judge_eq hmax h]
    cases e.judge w s step o with
    | error f => exact sameEnd_settledFailure h (some o) f stop
    | ok p =>
      have hafter := sameButTimes_afterSuccess e e' step h o p.1 p.2
      exact ⟨hafter, congrArg Except.ok (untimed_eq_iff.mpr hafter)⟩

theorem sameButTimes_afterAnswer (e e' : Engine σ) (w : Workflow) (s : Session) (step : Step) (name : String)
    (value shown : Value) :
    SameButTimes (e.afterAnswer w s step name value shown) (e'.afterAnswer w s step name value shown) := by
  unfold afterAnswer
  refine ((SameButTimes.refl { s with «variables» := s.variables.set name value }).record ?_ _ _).moveTo _ _ _
  rfl

/-- The session that goes on is the same, times apart, or an answer is refused by the same fault. -/
theorem reopened_cases (e e' : Engine σ) (w : Workflow) (s : Session) (answer : Option Value) :
    (∃ f, e.reopened w s answer = .error f ∧ e'.reopened w s answer = .error f) ∨
      ∃ t u, e.reopened w s answer = .ok t ∧ e'.reopened w s answer = .ok u ∧ SameButTimes t u := by
  cases answer with
  | none => exact .inr ⟨s, s, rfl, rfl, .refl s⟩
  | some a =>
    unfold reopened answered
    dsimp only
    split
    · rename_i step _
      split
      · rename_i q _ _
        cases q.accept step.id a with
        | error f => exact .inl ⟨f, rfl, rfl⟩
        | ok value => exact .inr ⟨_, _, rfl, rfl, sameButTimes_afterAnswer e e' w s step _ value _⟩
      · exact .inl ⟨_, rfl, rfl⟩
    · exact .inl ⟨_, rfl, rfl⟩

end Engine

end Runbook
