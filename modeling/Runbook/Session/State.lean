import Runbook.Schema
import Runbook.Session.Key
import Runbook.Workflow.Document

/-! Sessions: the execution record of one run of a workflow. A session is saved as a document of JSON values
and read back from one. -/

namespace Runbook

/-- One entry of the history. -/
structure StepRecord where
  stepId : String
  action : String := ""
  success : Bool
  output : Value := .null
  error : Option String := none
  timestamp : String

/-- `iterations` counts the jumps backward, and `lastError` is the document of the failure that stopped the
session. -/
structure Session where
  name : String
  id : String
  currentStep : Option String
  «variables» : Bindings := []
  history : List StepRecord := []
  iterations : Int := 0
  paused : Bool := false
  completed : Bool := false
  failed : Bool := false
  lastError : Option Bindings := none
  createdAt : String
  updatedAt : String

inductive SessionStatus where
  | pending
  | running
  | paused
  | completed
  | failed
deriving DecidableEq, Repr

def SessionStatus.name : SessionStatus → String
  | .pending => "pending"
  | .running => "running"
  | .paused => "paused"
  | .completed => "completed"
  | .failed => "failed"

namespace StepRecord

def toValue (r : StepRecord) : Except Fault Value := do
  let output ← r.output.plain
  return .obj [
    ("stepId", .text r.stepId), ("action", .text r.action), ("success", .bool r.success),
    ("output", output), ("error", optionText r.error), ("timestamp", .text r.timestamp)]

open Schema in
/-- A record without a timestamp gets the present one. -/
def ofValue (now : String) (v : Value) : Checked StepRecord :=
  match v with
  | .map _ =>
    ((((((required v ["stepId", "step_id"] text).map StepRecord.mk).ap
      (withDefault v ["action"] text "")).ap
      (required v ["success"] bool)).ap
      (withDefault v ["output"] .ok .null)).ap
      (maybe v ["error"] text)).ap
      (withDefault v ["timestamp"] text now)
  | _ => wrong "model_type" "Input should be a valid dictionary or instance of StepExecution"

end StepRecord

namespace Session

def key (s : Session) : SessionKey := ⟨s.name, s.id⟩

def status (s : Session) : SessionStatus :=
  if s.completed then .completed
  else if s.failed then .failed
  else if s.paused then .paused
  else if s.history.isEmpty then .pending
  else .running

def touch (s : Session) (now : String) : Session := { s with updatedAt := now }

/-- Appends to the history. -/
def record (s : Session) (r : StepRecord) (now : String) : Session :=
  { s with history := s.history ++ [r], updatedAt := now }

/-- The document of the last failure, null where there is none. -/
def errorValue : Option Bindings → Except Fault Value
  | some b => Value.plainBindings b
  | none => .ok .null

/-- The session as a document. -/
def toValue (s : Session) : Except Fault Value := do
  let vars ← Value.plainBindings s.variables
  let history ← s.history.mapM StepRecord.toValue
  let lastError ← errorValue s.lastError
  return .obj [
    ("name", .text s.name), ("sessionId", .text s.id), ("currentStep", optionText s.currentStep),
    ("variables", vars), ("history", .list history), ("iterationCount", .int s.iterations),
    ("paused", .bool s.paused), ("completed", .bool s.completed), ("failed", .bool s.failed),
    ("lastError", lastError), ("createdAt", .text s.createdAt), ("updatedAt", .text s.updatedAt)]

open Schema in
/-- A session from its document; a time that is missing is the present one. -/
def ofValue (now : String) (v : Value) : Checked Session :=
  match v with
  | .map _ =>
    ((((((((((((required v ["name"] text).map Session.mk).ap
      (required v ["sessionId", "session_id"] text)).ap
      (required v ["currentStep", "current_step"] (optional text))).ap
      (withDefault v ["variables"] bindings [])).ap
      (withDefault v ["history"] (list (StepRecord.ofValue now)) [])).ap
      (withDefault v ["iterationCount", "iteration_count"] int 0)).ap
      (withDefault v ["paused"] bool false)).ap
      (withDefault v ["completed"] bool false)).ap
      (withDefault v ["failed"] bool false)).ap
      (maybe v ["lastError", "last_error"] bindings)).ap
      (withDefault v ["createdAt", "created_at"] text now)).ap
      (withDefault v ["updatedAt", "updated_at"] text now)
  | _ => wrong "model_type" "Input should be a valid dictionary or instance of WorkflowState"

end Session

end Runbook
