import Runbook.Condition
import Runbook.Execution.Prompt
import Runbook.Execution.PullRequest
import Runbook.Session.State

/-! What the steps do. A step sees the session but does not change it. -/

namespace Runbook.Execution

variable {σ : Type}

/-- The names that a conditional step sees beside the variables. -/
def checkBindings (s : Session) : Bindings :=
  s.variables.update [
    ("iterationCount", .int s.iterations), ("stepCount", .int s.history.length),
    ("currentStep", optionText s.currentStep)]

def conditional (s : Session) (check onTrue : String) (onFalse : Option String) :
    Except Fault Outcome := do
  let holds ← Condition.evaluate check (checkBindings s)
  let target := if holds then some onTrue else onFalse
  return {
    output := [("condition", .text check), ("result", .bool holds), ("nextStep", optionText target)]
    nextStep := target }

/-- The names that a loop step sees beside the variables. -/
def loopBindings (s : Session) : Bindings := s.variables.update [("iteration", .int s.iterations)]

def loop (s : Session) (target condition : String) : Except Fault Outcome := do
  let again ← Condition.evaluate condition (loopBindings s)
  return {
    output := [
      ("condition", .text condition), ("shouldLoop", .bool again), ("targetStep", .text target),
      ("iteration", .int s.iterations)]
    nextStep := if again then some target else none }

/-- A question is not answered here; the session waits. -/
def interactive (step : String) (q : Question) : Outcome :=
  let request : InputRequest := ⟨step, q⟩
  { output := ("waitingForInput", .bool true) :: request.toFields, request := some request }

def fileExists (v : Services σ) (step file : String) : Act σ Outcome := do
  let found ← v.fileExists v.workDir file
  return {
    output := [("file", .text file), ("exists", .bool found)]
    exports := [(step ++ "_exists", .bool found), ("fileExists", .bool found)] }

/-- Performs a step whose placeholders are filled. -/
def perform (v : Services σ) (s : Session) (step : Step) : Act σ Outcome :=
  match step.task with
  | .switchModel model => switchModel v step.id model
  | .conditional check onTrue onFalse => Act.ofExcept (conditional s check onTrue onFalse)
  | .loop target condition _ => Act.ofExcept (loop s target condition)
  | .interactive q => pure (interactive step.id q)
  | .shell command timeout => shell v step.id command timeout
  | .git action message base => git v step.id action message base
  | .aiPrompt prompt model => aiPrompt v step.id prompt model
  | .pullRequest p => pullRequest v step.id p
  | .fileExists file => fileExists v step.id file

end Runbook.Execution
