import Runbook.Execution.Perform
import Runbook.Fault.Classify
import Runbook.Workflow.Answer
import Runbook.Workflow.Fill

/-! Sessions as state machines: a pending session runs until it is paused, completed or failed, and a paused
or failed one goes on from its current step. The session is saved after every step, also after one that
failed. -/

namespace Runbook

open Text

/-- How sessions are saved, whether the run was asked to stop, and the time, which stands still during an
operation. At most `maxIterations` jumps lead backward in a session. -/
structure Engine (σ : Type) where
  services : Services σ
  save : Session → Act σ Unit
  cancelled : σ → Bool
  now : String
  maxIterations : Int

namespace Session

/-- Goes on to a step, or ends where there is none. -/
def moveTo (s : Session) (target : Option String) (now : String) : Session :=
  match target with
  | none => { s with completed := true, currentStep := none, updatedAt := now }
  | some id => { s with currentStep := some id, updatedAt := now }

end Session

namespace Engine

variable {σ : Type}

def maskedAnswer : String := "********"

/-- The bound of jumps backward at a step. -/
def limitAt (e : Engine σ) (step : Step) : Int :=
  match step.task with
  | .loop _ _ (some m) => if m = 0 then e.maxIterations else min e.maxIterations m
  | _ => e.maxIterations

/-- Where a step with an outcome leads, and the count of jumps backward then. -/
def target (e : Engine σ) (w : Workflow) (s : Session) (step : Step) (o : Outcome) :
    Except Fault (Option String × Int) :=
  match o.nextStep with
  | none => .ok (w.nextStepId? step.id, s.iterations)
  | some id =>
    match w.indexOf? id with
    | none =>
      .error <| .failure {
        kind := .unknownStep
        message := "Step not found: " ++ step.id ++ " redirects to unknown step " ++ quoted id
        context := { step := some step.id } }
    | some i =>
      if (w.indexOf? step.id).any (i ≤ ·) then
        let limit := e.limitAt step
        if limit < s.iterations + 1 then
          .error <| .failure {
            kind := .loopBound
            message := s!"Max iterations exceeded ({limit}) at step " ++ step.id
            context := { step := some step.id }
            limit := some limit }
        else .ok (some id, s.iterations + 1)
      else .ok (some id, s.iterations)

/-- Where a step leads if it succeeded. -/
def judge (e : Engine σ) (w : Workflow) (s : Session) (step : Step) (o : Outcome) :
    Except Fault (Option String × Int) :=
  if o.success then e.target w s step o
  else
    let message := orElseText o.error none
    .error <| .failure <|
      Execution.broken step.id (message.getD ("Step " ++ step.id ++ " failed"))

/-- The fields of a failure by their names. -/
def errorFields (f : Failure) : Bindings :=
  match f.toValue with
  | .map es => es.filterMap fun (k, v) => k.asText?.map fun name => (name, v)
  | _ => []

/-- A failure with the names of the workflow and the session. -/
def named (s : Session) (f : Failure) : Failure :=
  (Fault.failure f).classify { workflow := some s.name, session := some s.key.display }

/-- The session as it stops at a failure. -/
def failed (e : Engine σ) (s : Session) (f : Failure) : Session :=
  { s with failed := true, lastError := some (errorFields f), updatedAt := e.now }

/-- The session as it stops because it was asked to. -/
def stopped (e : Engine σ) (s : Session) : Session := { s with paused := true, updatedAt := e.now }

/-- Saves the session as failed; the failure names the workflow and the session. -/
def fail (e : Engine σ) (s : Session) (f : Failure) : Act σ Failure := do
  let f := named s f
  e.save (e.failed s f)
  return f

/-- The failure that a fault at a step is. -/
def stepFailure (w : Workflow) (s : Session) (step : Step) (f : Fault) : Failure :=
  f.classify { step := some step.id, workflow := some w.name, session := some s.key.display }

/-- The session after a step that did not succeed. The variables of an outcome count, if there is one. -/
def afterFailure (e : Engine σ) (s : Session) (step : Step) (o : Option Outcome)
    (message : String) : Session :=
  let exports : Bindings := (o.map Outcome.exports).getD []
  let output : Value := (o.map fun o => Value.obj o.output).getD .null
  let s := { s with «variables» := s.variables.update exports }
  s.record {
    stepId := step.id
    action := step.action
    success := false
    output
    error := some message
    timestamp := e.now } e.now

/-- Records a step that did not succeed. If the run was asked to stop meanwhile, the session pauses at the
step, else it fails there. -/
def failStep (e : Engine σ) (w : Workflow) (s : Session) (step : Step) (o : Option Outcome)
    (f : Fault) : Act σ Session := do
  let failure := stepFailure w s step f
  let s := e.afterFailure s step o failure.message
  if ← Act.view e.cancelled then
    e.save (e.stopped s)
    return e.stopped s
  else
    let failure ← e.fail s failure
    throw (.failure failure)

/-- The session after a step that succeeded: with a question it pauses there, else it goes on. -/
def afterSuccess (e : Engine σ) (s : Session) (step : Step) (o : Outcome) (target : Option String)
    (iterations : Int) : Session :=
  let s := { s with «variables» := s.variables.update o.exports, iterations }
  let s := s.record {
    stepId := step.id
    action := step.action
    success := true
    output := .obj o.output
    timestamp := e.now } e.now
  if o.request.isSome then { s with paused := true } else s.moveTo target e.now

/-- Records a step that succeeded. -/
def finishStep (e : Engine σ) (s : Session) (step : Step) (o : Outcome) (target : Option String)
    (iterations : Int) : Act σ Session := do
  let s := e.afterSuccess s step o target iterations
  e.save s
  return s

/-- Whether a fault ends the run at once, without a record. -/
def isAbrupt : Fault → Bool
  | .incident i => i.kind.isAbrupt
  | _ => false

def runStep (e : Engine σ) (w : Workflow) (s : Session) (step : Step) : Act σ Session := do
  match ← (Execution.perform e.services s (step.fill s.variables)).observe with
  | .error f => if isAbrupt f then throw f else e.failStep w s step none f
  | .ok o =>
    match e.judge w s step o with
    | .error f => e.failStep w s step (some o) f
    | .ok (target, iterations) => e.finishStep s step o target iterations

/-- The step at which the session is; an empty id is none. -/
def stepOf? (w : Workflow) (s : Session) : Option Step :=
  match s.currentStep with
  | some id => if id.isEmpty then none else w.getStep? id
  | none => none

def unknownStep (w : Workflow) (s : Session) : Failure where
  kind := .unknownStep
  message :=
    "Step not found: " ++ ((s.currentStep.map quoted).getD "None") ++ " is not a step of workflow " ++
      w.name
  context := { step := s.currentStep }

/-- Runs steps until the session is completed, paused or failed. -/
def runFrom (e : Engine σ) (w : Workflow) : Nat → Session → Act σ Session
  | 0, s => return s
  | fuel + 1, s => do
    if s.completed then return s
    if ← Act.view e.cancelled then
      e.save (e.stopped s)
      return e.stopped s
    match stepOf? w s with
    | none =>
      let f ← e.fail s (unknownStep w s)
      throw (.failure f)
    | some step =>
      let s ← e.runStep w s step
      if s.paused then return s else runFrom e w fuel s

/-- No run performs more steps: between two jumps backward each step is performed once at most. -/
def stepBound (e : Engine σ) (w : Workflow) (s : Session) : Nat :=
  w.steps.length * (e.maxIterations - s.iterations + 1).toNat.max 1

def run (e : Engine σ) (w : Workflow) (s : Session) : Act σ Session :=
  if s.completed then pure s
  else e.runFrom w (e.stepBound w s + 1) { s with paused := false }

def notWaiting (w : Workflow) (s : Session) : Fault :=
  .failure {
    kind := .state
    message := "Session " ++ s.key.display ++ " is not waiting for input"
    hints := ["Resume without an answer to continue the session"]
    context := { workflow := some w.name, session := some s.key.display } }

/-- The session after an answer, of which the history shows no more than `shown`. -/
def afterAnswer (e : Engine σ) (w : Workflow) (s : Session) (step : Step) (name : String)
    (value shown : Value) : Session :=
  let s := { s with «variables» := s.variables.set name value }
  let s := s.record {
    stepId := step.id
    action := step.action
    success := true
    output := .obj [("answer", shown), ("variable", .text name)]
    timestamp := e.now } e.now
  s.moveTo (w.nextStepId? step.id) e.now

/-- The session with an answer to the question at which it is paused. A password is not shown in the
history. -/
def answered (e : Engine σ) (w : Workflow) (s : Session) (answer : Value) : Except Fault Session :=
  match stepOf? w s with
  | some step =>
    match step.task, s.paused with
    | .interactive q, true => do
      let value ← q.accept step.id answer
      let shown := if q.inputType = .password then .text maskedAnswer else value
      return e.afterAnswer w s step (Step.answerVariable step.id q) value shown
    | _, _ => .error (notWaiting w s)
  | none => .error (notWaiting w s)

/-- The session as it goes on after a pause or a failure. -/
def resumed (e : Engine σ) (s : Session) : Session :=
  { s with failed := false, lastError := none, paused := false, updatedAt := e.now }

/-- Goes on with a paused or failed session. An answer moves it past the question at which it waits; without
one the current step is performed again. -/
def resume (e : Engine σ) (w : Workflow) (s : Session) (answer : Option Value) : Act σ Session := do
  if s.completed then return s
  let s ← Act.ofExcept <|
    match answer with
    | some a => e.answered w s a
    | none => .ok s
  e.save (e.resumed s)
  e.run w (e.resumed s)

end Engine

end Runbook
