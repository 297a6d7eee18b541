import Runbook.Decimal.Shortest
import Runbook.Execution.Services
import Runbook.Text.Basic
import Runbook.Value.Basic
import Runbook.Workflow.Document
import Runbook.Workflow.Git

/-! What a step comes to, and steps that run commands: shell lines and git. -/

namespace Runbook

/-- What a human is asked before the session goes on. -/
structure InputRequest where
  stepId : String
  question : Question

namespace InputRequest

def toFields (r : InputRequest) : List (String × Value) :=
  let q := r.question
  [("stepId", .text r.stepId), ("prompt", .text q.prompt), ("inputType", .text q.inputType.name),
    ("choices", .list (q.choices.map .text)), ("defaultValue", optionText q.defaultValue),
    ("validationPattern", optionText q.validationPattern), ("timeoutMs", optionNumber q.timeoutMs),
    ("variable", .text (Step.answerVariable r.stepId q))]

def toValue (r : InputRequest) : Value := .obj r.toFields

end InputRequest

/-- An operation that ran and failed has an outcome without success. `exports` are the variables that the step
sets, and `nextStep` is where it leads if not to the step after it. -/
structure Outcome where
  output : List (String × Value) := []
  success : Bool := true
  error : Option String := none
  nextStep : Option String := none
  exports : Bindings := []
  request : Option InputRequest := none

end Runbook

namespace Runbook.Execution

open Text

variable {σ : Type}

/-- A step's failure to do its work. -/
def broken (step message : String) : Failure where
  kind := .execution
  message
  context := { step := some step }

/-- A process that did not start or did not finish in time is a failure of the step. -/
def commandFault (step label : String) (c : Command) (timeout : Binary64) (e : Fault) : Fault :=
  match e with
  | .incident i =>
    if i.kind = .processTimeout then
      .failure { broken step (label ++ " timed out after " ++ Decimal.general timeout ++ "s: " ++
        c.display) with category := .timeout, cause := some i.kind.label }
    else if i.kind = .processSpawn then
      .failure { broken step (label ++ " failed to start: " ++ i.text) with
        retryable := false, cause := some i.kind.label }
    else e
  | e => e

/-- The timeout of a step, unless it is missing or zero. -/
def timeoutOr (timeout : Option Binary64) (default : Binary64) : Binary64 :=
  match timeout with
  | some t => if t.isZero then default else t
  | none => default

def runCommand (v : Services σ) (step label : String) (c : Command) (timeout : Option Binary64) :
    Act σ ProcessResult :=
  match v.runner with
  | none => throw (.failure (broken step (label ++ " failed: no process runner configured")))
  | some r =>
    let seconds := timeoutOr timeout v.shellTimeout
    (r.execute c v.workDir seconds).reword (commandFault step label c seconds)

/-- The text without colons and blanks at its end. -/
def withoutColons (s : String) : String :=
  String.ofList (s.toList.reverse.dropWhile fun c => c == ':' || c == ' ').reverse

/-- The end of what a failed command printed, its errors if there are any. -/
def failureText (start stderr stdout : String) : String :=
  withoutColons (start ++ ": " ++ excerpt (if stderr.isEmpty then stdout else stderr) outputLimit)

def shell (v : Services σ) (step command : String) (timeout : Option Binary64) : Act σ Outcome := do
  let r ← runCommand v step "Shell command" (.line command) timeout
  let failed : Option String :=
    if r.ok then none
    else some (failureText s!"Shell command failed with exit code {r.exitCode}" r.stderr r.stdout)
  return {
    output := [
      ("command", .text command), ("stdout", .text r.stdout), ("stderr", .text r.stderr),
      ("exitCode", .int r.exitCode)]
    success := r.ok
    error := failed
    exports := [
      (step ++ "_stdout", .text (trim r.stdout)), (step ++ "_stderr", .text (trim r.stderr)),
      (step ++ "_exitCode", .int r.exitCode)] }

/-- Runs commands in turn up to the first that fails. -/
def runAll (v : Services σ) (step : String) : List (List String) → Act σ (List ProcessResult)
  | [] => return []
  | argv :: rest => do
    let r ← runCommand v step "Git command" (.words argv) none
    if r.ok then return r :: (← runAll v step rest) else return [r]

def gitOutcome (action : GitAction) (commands : List (List String)) (results : List ProcessResult) :
    Outcome :=
  let stdout := joinWith "" (results.map (·.stdout))
  let stderr := joinWith "" (results.map (·.stderr))
  let code := (results.getLast?.map (·.exitCode)).getD 0
  {
    output := [
      ("action", .text action.name), ("commands", .list (commands.map fun c => .text (Git.display c))),
      ("stdout", .text stdout), ("stderr", .text stderr), ("exitCode", .int code)]
    success := code == 0
    error :=
      if code == 0 then none
      else
        some (failureText ("Git command failed: git " ++ action.name ++ s!" exited with {code}")
          stderr stdout) }

def git (v : Services σ) (step : String) (action : GitAction) (message base : Option String) :
    Act σ Outcome := do
  let commands ← Act.ofExcept (Git.commands step action message base)
  let results ← runAll v step commands
  return gitOutcome action commands results

end Runbook.Execution
