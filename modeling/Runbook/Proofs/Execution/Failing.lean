import Runbook.Proofs.Execution.Passes
import Runbook.Proofs.Fault.Classify
import Runbook.Proofs.Session.RoundTrip

/-! Steps that fail. Whatever a step fails with becomes a failure with hints that names where it arose, and the
session that is saved has one record more and is at the same step. -/

namespace Runbook

namespace Engine

variable {σ : Type} {e : Engine σ} {w : Workflow} {s t : Session} {step : Step} {o : Option Outcome} {f : Fault}
  {r : Except Fault Outcome} {x y : σ}

/-! ## The failure of a step -/

theorem id_ne_empty (hstep : stepOf? w s = some step) : step.id ≠ "" := by
  obtain ⟨-, hid, -⟩ := stepOf?_eq_some_iff.mp hstep
  exact hid

/-- The failure with which a run ends at a step. -/
def raisedFailure (w : Workflow) (s : Session) (step : Step) (f : Fault) : Failure := named s (stepFailure w s step f)

theorem message_raisedFailure (w : Workflow) (s : Session) (step : Step) (f : Fault) :
    (raisedFailure w s step f).message = (stepFailure w s step f).message :=
  Failure.message_advised _

theorem hints_raisedFailure_ne_nil (w : Workflow) (s : Session) (step : Step) (f : Fault) :
    (raisedFailure w s step f).hints ≠ [] :=
  (Fault.failure _).hints_classify_ne_nil _

theorem context_raisedFailure (w : Workflow) (s : Session) (step : Step) (f : Fault) :
    (raisedFailure w s step f).context =
      (f.givenContext.fill { step := some step.id, workflow := some w.name, session := some s.key.display }).fill
        { workflow := some s.name, session := some s.key.display } := by
  unfold raisedFailure named
  rw [Fault.context_classify]
  exact congrArg (Context.fill · _) (f.context_classify _)

theorem step_raisedFailure (hstep : stepOf? w s = some step) (f : Fault) :
    (raisedFailure w s step f).context.step = orElseText f.givenContext.step (some step.id) := by
  have hid : isGiven (some step.id) = true := by simpa [isGiven] using id_ne_empty hstep
  rw [context_raisedFailure]
  exact Context.orElseText_orElseText _ hid _

theorem workflow_raisedFailure (hname : w.name ≠ "") (s : Session) (step : Step) (f : Fault) :
    (raisedFailure w s step f).context.workflow = orElseText f.givenContext.workflow (some w.name) := by
  have hworkflow : isGiven (some w.name) = true := by simpa [isGiven] using hname
  rw [context_raisedFailure]
  exact Context.orElseText_orElseText _ hworkflow _

theorem session_raisedFailure (w : Workflow) (s : Session) (step : Step) (f : Fault) :
    (raisedFailure w s step f).context.session = orElseText f.givenContext.session (some s.key.display) := by
  have hsession : isGiven (some s.key.display) = true := by simp [isGiven, SessionKey.display]
  rw [context_raisedFailure]
  exact Context.orElseText_orElseText _ hsession _

theorem isPortable_errorFields (g : Failure) : (errorFields g).IsPortable := by
  have hoption (a : Option String) : (optionText a).IsPortable := by
    cases a with
    | none => exact .null
    | some t => exact .text t
  have hhints : (Value.list (g.hints.map .text)).IsPortable := by
    refine .list fun v hv => ?_
    obtain ⟨hint, -, rfl⟩ := List.mem_map.mp hv
    exact .text hint
  have heq : errorFields g = [
      ("type", .text g.kind.label), ("category", .text g.category.name), ("message", .text g.message),
      ("hints", .list (g.hints.map .text)), ("step", optionText g.context.step),
      ("workflow", optionText g.context.workflow), ("session", optionText g.context.session),
      ("retryable", .bool g.retryable)] := rfl
  rw [heq]
  refine ⟨by simp [Bindings.names], ?_⟩
  simp only [List.forall_mem_cons]
  exact ⟨.text _, .text _, .text _, hhints, hoption _, hoption _, hoption _, .bool _, List.forall_mem_nil _⟩

/-! ## The session after it -/

/-- What a step failed with: what it raised, or what was wrong with its outcome. -/
inductive Fails (e : Engine σ) (w : Workflow) (s : Session) (step : Step) :
    Except Fault Outcome → Option Outcome → Fault → Prop where
  | raised {f : Fault} (h : isAbrupt f = false) : Fails e w s step (.error f) none f
  | judged {o : Outcome} {f : Fault} (h : e.judge w s step o = .error f) : Fails e w s step (.ok o) (some o) f

/-- The session has one record more, of a failed step, and is where it was. Its variables have changed by the exports
of the outcome, if there was one. -/
structure Recorded (s : Session) (step : Step) (o : Option Outcome) (message : String) (d : Session) : Prop where
  key_eq : d.key = s.key
  currentStep_eq : d.currentStep = s.currentStep
  iterations_eq : d.iterations = s.iterations
  completed_eq : d.completed = s.completed
  variables_eq : d.variables = s.variables.update ((o.map Outcome.exports).getD [])
  history_eq : ∃ r : StepRecord, d.history = s.history ++ [r] ∧ r.stepId = step.id ∧ r.action = step.action ∧
    r.success = false ∧ r.output = (o.map fun o => Value.obj o.output).getD .null ∧ r.error = some message

theorem settledFailure_false (e : Engine σ) (w : Workflow) (s : Session) (step : Step) (o : Option Outcome) (f : Fault) :
    e.settledFailure w s step o f false =
      (e.failed (e.afterFailure s step o (stepFailure w s step f).message) (raisedFailure w s step f),
        .error (.failure (raisedFailure w s step f))) := rfl

/-- A session that is asked to stop meanwhile pauses at the step. -/
theorem settledFailure_true (e : Engine σ) (w : Workflow) (s : Session) (step : Step) (o : Option Outcome) (f : Fault) :
    e.settledFailure w s step o f true =
      e.stopping (e.afterFailure s step o (stepFailure w s step f).message) := rfl

theorem recorded_settledFailure (e : Engine σ) (w : Workflow) (s : Session) (step : Step) (o : Option Outcome)
    (f : Fault) (stop : Bool) :
    Recorded s step o (raisedFailure w s step f).message (e.settledFailure w s step o f stop).1 := by
  rw [message_raisedFailure]
  cases stop <;> exact ⟨rfl, rfl, rfl, rfl, rfl, _, rfl, rfl, rfl, rfl, rfl, rfl⟩

/-- Where a step fails without an outcome, the session can be written as before. -/
theorem isPortable_settledFailure (hs : s.IsPortable) (w : Workflow) (step : Step) (f : Fault) (stop : Bool) :
    (e.settledFailure w s step none f stop).1.IsPortable := by
  have houtputs : ∀ r ∈ (e.settledFailure w s step none f stop).1.history, r.output.IsPortable := by
    obtain ⟨r, hhistory, -, -, -, houtput, -⟩ := (recorded_settledFailure e w s step none f stop).history_eq
    intro r' hr'
    rw [hhistory, List.mem_append, List.mem_singleton] at hr'
    rcases hr' with hr' | rfl
    · exact hs.outputs r' hr'
    · rw [houtput]
      exact .null
  refine ⟨?_, houtputs, ?_⟩
  · rw [(recorded_settledFailure e w s step none f stop).variables_eq]
    exact hs.variables_
  · cases stop with
    | true => exact hs.lastError
    | false =>
      rintro b hb
      obtain rfl := Option.some.inj hb
      exact isPortable_errorFields _

theorem Fails.runStep_eq (h : e.Fails w s step (e.performed s step x).1 o f) :
    e.runStep w s step x =
      e.settle (e.settledFailure w s step o f (e.cancelled (e.performed s step x).2)) (e.performed s step x).2 := by
  rw [runStep_apply]
  dsimp only
  generalize (e.performed s step x).1 = r at h
  cases h with
  | raised h => simp [h, settled]
  | judged h => simp [h, settled]

/-- A run ends with a turn after which it does not go on. -/
theorem run_eq_runStep (hpaused : s.paused = false) (hopen : s.completed = false) (hgo : e.cancelled x = false)
    (hstep : stepOf? w s = some step) (hends : ∀ t, (e.runStep w s step x).1 = .ok t → t.paused = true) :
    e.run w s x = e.runStep w s step x := by
  rw [run_apply hpaused, runFrom_succ]
  simp only [hopen, hgo, hstep, Bool.false_eq_true, if_false]
  rcases hturn : e.runStep w s step x with ⟨f | t, y⟩
  · rfl
  · dsimp only
    rw [if_pos (hends t (congrArg Prod.fst hturn))]

/-- A run ends with a step that fails. -/
theorem Fails.run_eq (hpaused : s.paused = false) (hopen : s.completed = false) (hgo : e.cancelled x = false)
    (hstep : stepOf? w s = some step) (h : e.Fails w s step (e.performed s step x).1 o f) :
    e.run w s x =
      e.settle (e.settledFailure w s step o f (e.cancelled (e.performed s step x).2)) (e.performed s step x).2 := by
  rw [run_eq_runStep hpaused hopen hgo hstep, h.runStep_eq]
  intro t ht
  rw [h.runStep_eq] at ht
  exact (settledFailure_eq_ok (settle_eq_ok ht)).2

/-- One that ends the run at once leaves no record. -/
theorem run_eq_of_isAbrupt (hpaused : s.paused = false) (hopen : s.completed = false) (hgo : e.cancelled x = false)
    (hstep : stepOf? w s = some step) (hperformed : (e.performed s step x).1 = .error f) (h : isAbrupt f = true) :
    e.run w s x = (.error f, (e.performed s step x).2) := by
  have hturn : e.runStep w s step x = (.error f, (e.performed s step x).2) := by
    rw [runStep_apply]
    dsimp only
    rw [hperformed]
    dsimp only
    rw [if_pos h]
  rw [run_eq_runStep hpaused hopen hgo hstep, hturn]
  intro t ht
  rw [hturn] at ht
  cases ht

end Engine

end Runbook
