import Runbook.Decimal.Binary64
import Runbook.Session.State

/-! How far a session got, step by step. -/

namespace Runbook

inductive StepStatus where
  | pending
  | completed
  | failed
  | paused
deriving DecidableEq, Repr

def StepStatus.name : StepStatus → String
  | .pending => "pending"
  | .completed => "completed"
  | .failed => "failed"
  | .paused => "paused"

/-- A step of the workflow with the count of its records in the history. -/
structure StepProgress where
  step : Step
  status : StepStatus
  runs : Nat

structure Summary where
  workflow : String
  session : SessionKey
  status : SessionStatus
  failedStep : Option String
  currentStep : Option String
  error : Option String
  iterations : Int
  steps : List StepProgress

namespace Session

def runsOf (s : Session) (id : String) : Nat := (s.history.filter (·.stepId == id)).length

/-- Whether the last record of a step is a success. -/
def lastSucceeded (s : Session) (id : String) : Bool :=
  ((s.history.reverse.find? (·.stepId == id)).map (·.success)).getD false

/-- The step at which the session failed counts as failed, else the one at which it paused as paused. -/
def stepStatus (s : Session) (id : String) : StepStatus :=
  if s.failed && s.currentStep == some id then .failed
  else if s.paused && s.currentStep == some id then .paused
  else if s.lastSucceeded id then .completed
  else .pending

def progress (s : Session) (step : Step) : StepProgress :=
  ⟨step, s.stepStatus step.id, s.runsOf step.id⟩

/-- The message of the failure that stopped the session; a document without one has none. -/
def errorMessage (s : Session) : Checked (Option String) :=
  match s.lastError with
  | none => .ok none
  | some b => ((Schema.optional Schema.text) ((b.get? "message").getD .null)).below (.name "error")

def summary (s : Session) (w : Workflow) : Checked Summary :=
  s.errorMessage.map fun error => {
    workflow := w.name
    session := s.key
    status := s.status
    failedStep := if s.failed then s.currentStep else none
    currentStep := s.currentStep
    error
    iterations := s.iterations
    steps := w.steps.map s.progress }

end Session

namespace Summary

def completedSteps (s : Summary) : Nat := (s.steps.filter (·.status = .completed)).length

/-- A number rounded to tenths; a tie goes to the even tenth. -/
def toTenths (x : Binary64) : Binary64 :=
  match x with
  | .finite neg sig exp _ =>
    let (n, d) := Binary64.ratio sig exp
    .ofRatio neg (Binary64.roundDiv (n * 10) d) 10
  | x => x

/-- The share of completed steps in percent, with one decimal. -/
def percent (s : Summary) : Binary64 :=
  let total := s.steps.length
  if total = 0 then .ofRatio false 100 1
  else toTenths (.ofRatio false (100 * s.completedSteps) total)

/-- The progress of the step at which the session is. -/
def current? (s : Summary) : Option StepProgress :=
  s.steps.find? fun p => s.currentStep == some p.step.id

end Summary

namespace StepProgress

def toValue (p : StepProgress) : Value := .obj [
  ("id", .text p.step.id), ("action", .text p.step.action),
  ("description", optionText p.step.description), ("status", .text p.status.name),
  ("runs", .int p.runs)]

end StepProgress

namespace Summary

def toValue (s : Summary) : Value := .obj [
  ("workflow", .text s.workflow), ("session", .text s.session.display),
  ("status", .text s.status.name), ("total_steps", .int s.steps.length),
  ("completed_steps", .int s.completedSteps), ("percent", .num s.percent),
  ("current_step", (s.current?.map StepProgress.toValue).getD .null),
  ("failed_step", optionText s.failedStep), ("error", optionText s.error),
  ("iteration_count", .int s.iterations), ("steps", .list (s.steps.map StepProgress.toValue))]

end Summary

end Runbook
