import Runbook.Proofs.Execution.Turn
import Runbook.Proofs.Session.Secrecy

/-! Answers that are kept secret: steps that do not read the variable of a password do the same whatever the answer
was, and what becomes of the session then differs in that variable alone. -/

namespace Runbook

open Session

variable {σ : Type} {v : String} {s t : Session}

/-- No step of the workflow reads a variable: no text has a placeholder for it, and no condition looks up a name
that is equal to it up to case. -/
structure Workflow.Conceals (w : Workflow) (v : String) : Prop where
  templates : ∀ step ∈ w.steps, ∀ t ∈ step.task.templates, v ∉ Template.placeholders t
  conditions : ∀ step ∈ w.steps, ∀ c ∈ step.task.conditions, ∀ n ∈ (Condition.read c).names,
    Unicode.toLower n ≠ Unicode.toLower v

/-! ## Answers to passwords -/

namespace Question

variable {q : Question}

/-- An answer to a password is stored as a text or refused, by a fault that is the same for all answers. -/
theorem exists_refusal (hq : q.inputType = .password) (step : String) :
    ∃ f, ∀ a, (∃ p, q.accept step a = .ok (.text p)) ∨ q.accept step a = .error f := by
  have hpasses : (∃ f, ∀ text, q.passes text = .error f) ∨ ∀ text, ∃ b, q.passes text = .ok b := by
    unfold passes
    cases q.validationPattern with
    | none => exact .inr fun text => ⟨_, rfl⟩
    | some pattern =>
      dsimp only
      split_ifs
      · exact .inr fun text => ⟨_, rfl⟩
      · cases Pattern.parse pattern with
        | ok p => exact .inr fun text => ⟨_, rfl⟩
        | error flaw => exact .inl ⟨_, fun text => rfl⟩
  have haccept (a : Value) : q.accept step a = q.stored step (q.orDefault a) := by
    unfold accept
    rw [hq]
    exact if_neg (by decide)
  have hstored (a : Value) : ∃ text, q.stored step a = (q.passes text).bind fun passed =>
      if passed then .ok (.text text)
      else .error (refused step ("does not match " ++ Text.quoted (q.validationPattern.getD ""))) := by
    unfold stored
    rw [hq, if_neg fun h => absurd h.1 (by decide)]
    refine ⟨Text.trim a.display, ?_⟩
    rw [if_neg (by decide : ¬InputType.password = .multiline)]
    cases q.passes (Text.trim a.display) with
    | error e => rfl
    | ok passed => cases passed <;> rfl
  rcases hpasses with ⟨f, hf⟩ | hb
  · refine ⟨f, fun a => .inr ?_⟩
    obtain ⟨text, htext⟩ := hstored (q.orDefault a)
    rw [haccept, htext, hf]
    rfl
  · refine ⟨refused step ("does not match " ++ Text.quoted (q.validationPattern.getD "")), fun a => ?_⟩
    obtain ⟨text, htext⟩ := hstored (q.orDefault a)
    obtain ⟨b, hb⟩ := hb text
    rw [haccept, htext, hb]
    cases b with
    | true => exact .inl ⟨text, rfl⟩
    | false => exact .inr rfl

end Question

/-! ## Steps -/

namespace Execution

theorem perform_eq_of_sameBut (h : SameBut v s t) {step : Step}
    (hv : ∀ c ∈ step.task.conditions, ∀ n ∈ (Condition.read c).names, Unicode.toLower n ≠ Unicode.toLower v)
    (services : Services σ) : perform services t step = perform services s step := by
  have hcheck : (checkBindings s).SameBut v (checkBindings t) := by
    unfold checkBindings
    rw [h.currentStep_eq, h.iterations_eq, h.history_eq]
    exact h.variables_.update (.refl v _)
  have hloop : (loopBindings s).SameBut v (loopBindings t) := by
    unfold loopBindings
    rw [h.iterations_eq]
    exact h.variables_.update (.refl v _)
  exact perform_congr services h.iterations_eq (fun c hc => Condition.evaluate_eq hcheck (hv c hc))
    fun c hc => Condition.evaluate_eq hloop (hv c hc)

end Execution

namespace Engine

variable {e : Engine σ} {w : Workflow} {step : Step}

theorem stepOf?_eq_of_sameBut (h : SameBut v s t) : stepOf? w t = stepOf? w s := by
  unfold stepOf?
  rw [h.currentStep_eq]

theorem mem_steps_of_stepOf? (h : stepOf? w s = some step) : step ∈ w.steps :=
  List.mem_of_find?_eq_some (stepOf?_eq_some h).2

/-- A step that does not read the variable comes to the same. -/
theorem performed_eq_of_sameBut (hw : w.Conceals v) (h : SameBut v s t) (hstep : step ∈ w.steps) (x : σ) :
    e.performed t step x = e.performed s step x := by
  have hfill : step.fill t.variables = step.fill s.variables :=
    congrArg (fun task => { step with task }) (Task.fill_eq h.variables_ (hw.templates step hstep))
  have hconditions : (step.fill s.variables).task.conditions = step.task.conditions :=
    Task.conditions_fill s.variables step.task
  unfold performed
  rw [hfill, Execution.perform_eq_of_sameBut h (hconditions ▸ hw.conditions step hstep)]

theorem judge_eq_of_sameBut (h : SameBut v s t) (o : Outcome) : e.judge w t step o = e.judge w s step o := by
  unfold judge target
  rw [h.iterations_eq]

theorem named_eq_of_sameBut (h : SameBut v s t) (f : Failure) : named t f = named s f := by
  unfold named
  rw [h.key_eq, h.name_eq]

theorem unknownStep_eq_of_sameBut (h : SameBut v s t) : unknownStep w t = unknownStep w s := by
  unfold unknownStep
  rw [h.currentStep_eq]

theorem stepFailure_eq_of_sameBut (h : SameBut v s t) (f : Fault) :
    stepFailure w t step f = stepFailure w s step f := by
  unfold stepFailure
  rw [h.key_eq]

end Engine

namespace Session.SameBut

variable {e : Engine σ} {w : Workflow} {step : Step}

theorem record (h : SameBut v s t) (r : StepRecord) (now : String) : SameBut v (s.record r now) (t.record r now) :=
  { h with history_eq := congrArg (· ++ [r]) h.history_eq, updatedAt_eq := rfl }

theorem moveTo (h : SameBut v s t) (target : Option String) (now : String) :
    SameBut v (s.moveTo target now) (t.moveTo target now) := by
  cases target with
  | none => exact { h with completed_eq := rfl, currentStep_eq := rfl, updatedAt_eq := rfl }
  | some id => exact { h with currentStep_eq := rfl, updatedAt_eq := rfl }

theorem stopped (h : SameBut v s t) : SameBut v (e.stopped s) (e.stopped t) :=
  { h with paused_eq := rfl, updatedAt_eq := rfl }

theorem failed (h : SameBut v s t) (f : Failure) : SameBut v (e.failed s f) (e.failed t f) :=
  { h with failed_eq := rfl, lastError_eq := rfl, updatedAt_eq := rfl }

theorem resumed (h : SameBut v s t) : SameBut v (e.resumed s) (e.resumed t) :=
  { h with paused_eq := rfl, failed_eq := rfl, lastError_eq := rfl, updatedAt_eq := rfl }

theorem afterSuccess (h : SameBut v s t) (o : Outcome) (target : Option String) (iterations : ℤ) :
    SameBut v (e.afterSuccess s step o target iterations) (e.afterSuccess t step o target iterations) := by
  have hset : SameBut v { s with «variables» := s.variables.update o.exports, iterations }
      { t with «variables» := t.variables.update o.exports, iterations } :=
    { h with variables_ := h.variables_.update (.refl v _), iterations_eq := rfl }
  unfold Engine.afterSuccess
  dsimp only
  split_ifs
  · exact { hset.record _ e.now with paused_eq := rfl }
  · exact (hset.record _ e.now).moveTo _ _

theorem afterFailure (h : SameBut v s t) (o : Option Outcome) (message : String) :
    SameBut v (e.afterFailure s step o message) (e.afterFailure t step o message) := by
  have hset : SameBut v { s with «variables» := s.variables.update ((o.map Outcome.exports).getD []) }
      { t with «variables» := t.variables.update ((o.map Outcome.exports).getD []) } :=
    { h with variables_ := h.variables_.update (.refl v _) }
  exact hset.record _ e.now

/-- An answer shows in the variable alone if what the history shows is the same. -/
theorem afterAnswer (h : SameBut v s t) {name : String} {a b : Value} (hab : Bindings.SameEntry v (name, a) (name, b))
    (shown : Value) : SameBut v (e.afterAnswer w s step name a shown) (e.afterAnswer w t step name b shown) := by
  have hset : SameBut v { s with «variables» := s.variables.set name a }
      { t with «variables» := t.variables.set name b } :=
    { h with variables_ := h.variables_.set hab }
  exact (hset.record _ e.now).moveTo _ _

end Session.SameBut

/-! ## Results -/

/-- The same fault, or sessions that are the same but for the variable. -/
inductive SameResult (v : String) : Except Fault Session → Except Fault Session → Prop where
  | fault (f : Fault) : SameResult v (.error f) (.error f)
  | session {s t : Session} (h : SameBut v s t) : SameResult v (.ok s) (.ok t)

theorem SameResult.refl (v : String) (r : Except Fault Session) : SameResult v r r := by
  cases r with
  | error f => exact .fault f
  | ok s => exact .session (.refl v s)

theorem SameResult.or {r r' : Except Fault Session} (h : SameResult v r r') :
    (∃ f, r = .error f ∧ r' = .error f) ∨ ∃ s t, r = .ok s ∧ r' = .ok t ∧ SameBut v s t := by
  cases h with
  | fault f => exact .inl ⟨f, rfl, rfl⟩
  | session h => exact .inr ⟨_, _, rfl, rfl, h⟩

/-- What is saved and how a run ends then is the same but for the variable. -/
structure SameSettled (v : String) (a b : Session × Except Fault Session) : Prop where
  saved : SameBut v a.1 b.1
  ending : SameResult v a.2 b.2

namespace Engine

variable {e : Engine σ} {w : Workflow} {step : Step}

theorem sameSettled_stopping (h : SameBut v s t) : SameSettled v (e.stopping s) (e.stopping t) :=
  ⟨h.stopped, .session h.stopped⟩

theorem sameSettled_failing (h : SameBut v s t) (f : Failure) : SameSettled v (e.failing s f) (e.failing t f) := by
  unfold failing
  rw [named_eq_of_sameBut h]
  exact ⟨h.failed _, .fault _⟩

theorem sameSettled_settledFailure (h : SameBut v s t) (o : Option Outcome) (f : Fault) (stop : Bool) :
    SameSettled v (e.settledFailure w s step o f stop) (e.settledFailure w t step o f stop) := by
  have hafter : SameBut v (e.afterFailure s step o (stepFailure w s step f).message)
      (e.afterFailure t step o (stepFailure w s step f).message) := h.afterFailure o _
  unfold settledFailure
  rw [stepFailure_eq_of_sameBut h]
  dsimp only
  split_ifs
  · exact sameSettled_stopping hafter
  · exact sameSettled_failing hafter _

/-- What becomes of a session by what its step came to is the same but for the variable. -/
theorem sameSettled_settled (h : SameBut v s t) (stop : Bool) (r : Except Fault Outcome) :
    SameSettled v (e.settled w s step stop r) (e.settled w t step stop r) := by
  unfold settled
  cases r with
  | error f => exact sameSettled_settledFailure h none f stop
  | ok o =>
    dsimp only
    rw [judge_eq_of_sameBut h]
    cases e.judge w s step o with
    | error f => exact sameSettled_settledFailure h (some o) f stop
    | ok p => exact ⟨h.afterSuccess o p.1 p.2, .session (h.afterSuccess o p.1 p.2)⟩

/-! ## Answers -/

/-- The answers are given to a password that is stored in the variable, and both are accepted or both refused. -/
def GivesPassword (w : Workflow) (s : Session) (v : String) (a b : Value) : Prop :=
  ∃ step q, stepOf? w s = some step ∧ step.task = .interactive q ∧ q.inputType = .password ∧
    Step.answerVariable step.id q = v ∧ ((q.accept step.id a).isOk = (q.accept step.id b).isOk)

/-- The same answer or none, or two answers to the password. -/
inductive SameAnswer (w : Workflow) (s : Session) (v : String) : Option Value → Option Value → Prop where
  | same (answer : Option Value) : SameAnswer w s v answer answer
  | password {a b : Value} (h : GivesPassword w s v a b) : SameAnswer w s v (some a) (some b)

/-- The session that goes on is the same but for the variable, or the answers are refused by the same fault. -/
theorem sameResult_reopened (h : SameBut v s t) {answer answer' : Option Value}
    (hanswer : SameAnswer w s v answer answer') :
    SameResult v (e.reopened w s answer) (e.reopened w t answer') := by
  cases hanswer with
  | same answer =>
    cases answer with
    | none => exact .session h
    | some a =>
      unfold reopened answered notWaiting
      dsimp only
      rw [stepOf?_eq_of_sameBut h, h.paused_eq, h.key_eq]
      split
      · rename_i step _
        split
        · rename_i q _ _
          cases q.accept step.id a with
          | error f => exact .fault f
          | ok x => exact .session (h.afterAnswer (.refl v _) _)
        · exact .fault _
      · exact .fault _
  | @password a b hgives =>
    obtain ⟨step, q, hstep, htask, hpassword, hname, hboth⟩ := hgives
    unfold reopened answered notWaiting
    dsimp only
    rw [stepOf?_eq_of_sameBut h, h.paused_eq, h.key_eq, hstep]
    dsimp only
    rw [htask]
    cases s.paused with
    | false => exact .fault _
    | true =>
      obtain ⟨f, hf⟩ := q.exists_refusal hpassword step.id
      dsimp only
      rcases hf a with ⟨x, hx⟩ | hx <;> rcases hf b with ⟨y, hy⟩ | hy
      all_goals
        rw [hx, hy] at hboth ⊢
      · have hentry : Bindings.SameEntry v (Step.answerVariable step.id q, .text x)
            (Step.answerVariable step.id q, .text y) := ⟨rfl, .inr ⟨hname, ⟨x, rfl⟩, y, rfl⟩⟩
        rw [hpassword]
        exact .session (h.afterAnswer hentry _)
      · cases hboth
      · cases hboth
      · exact .fault f

end Engine

end Runbook
