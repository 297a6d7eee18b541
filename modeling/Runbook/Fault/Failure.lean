import Runbook.Fault.Incident

/-! Failures of the workflow engine: a category, hints that tell what to do, and the workflow, step and
session in which they arise. -/

namespace Runbook

open Text

inductive Category where
  | validation
  | execution
  | permission
  | network
  | timeout
  | state
  | unknown
deriving DecidableEq, Repr

namespace Category

def name : Category → String
  | .validation => "validation"
  | .execution => "execution"
  | .permission => "permission"
  | .network => "network"
  | .timeout => "timeout"
  | .state => "state"
  | .unknown => "unknown"

def all : List Category :=
  [.validation, .execution, .permission, .network, .timeout, .state, .unknown]

def ofName? (s : String) : Option Category := all.find? (·.name == s)

end Category

inductive FailureKind where
  | general
  | validation
  | execution
  | state
  | loopBound
  | unknownStep
  | workflowNotFound
  | sessionNotFound
deriving DecidableEq, Repr

namespace FailureKind

def label : FailureKind → String
  | .general => "WorkflowError"
  | .validation => "ValidationError"
  | .execution => "ExecutionError"
  | .state => "StateError"
  | .loopBound => "LoopBoundError"
  | .unknownStep => "UnknownStepError"
  | .workflowNotFound => "WorkflowNotFoundError"
  | .sessionNotFound => "SessionNotFoundError"

def all : List FailureKind :=
  [.general, .validation, .execution, .state, .loopBound, .unknownStep, .workflowNotFound,
    .sessionNotFound]

def ofLabel? (s : String) : Option FailureKind := all.find? (·.label == s)

def category : FailureKind → Category
  | .general => .unknown
  | .validation => .validation
  | .execution => .execution
  | .state => .state
  | .loopBound => .execution
  | .unknownStep => .state
  | .workflowNotFound => .validation
  | .sessionNotFound => .state

/-- Only a step whose operation failed is worth another try as it stands. -/
def retryable : FailureKind → Bool
  | .execution => true
  | _ => false

end FailureKind

/-- Where a failure arises. -/
structure Context where
  step : Option String := none
  workflow : Option String := none
  session : Option String := none
deriving DecidableEq, Repr

/-- `problems` lists what a validation found, `limit` is the bound that a loop exceeded and `cause` the
label of the failure behind this one. -/
structure Failure where
  kind : FailureKind
  message : String
  category : Category := kind.category
  hints : List String := []
  context : Context := {}
  retryable : Bool := kind.retryable
  cause : Option String := none
  problems : List Value := []
  limit : Option Int := none

/-- The first of the two that is present and not empty, else the second. -/
def orElseText (a b : Option String) : Option String :=
  match a with
  | some s => if s.isEmpty then b else some s
  | none => b

def isGiven : Option String → Bool
  | some s => !s.isEmpty
  | none => false

namespace Context

/-- Fills in what is missing. -/
def fill (c more : Context) : Context where
  step := orElseText c.step more.step
  workflow := orElseText c.workflow more.workflow
  session := orElseText c.session more.session

end Context

namespace Failure

/-- Names what the failure does not name yet. -/
def inContext (f : Failure) (c : Context) : Failure := { f with context := f.context.fill c }

/-- Appends the hints that are not there yet. -/
def addHints (f : Failure) (hints : List String) : Failure :=
  { f with hints := hints.foldl (fun hs h => if hs.contains h then hs else hs ++ [h]) f.hints }

/-- The failure as it is stored with a session. -/
def toValue (f : Failure) : Value := .obj [
  ("type", .text f.kind.label),
  ("category", .text f.category.name),
  ("message", .text f.message),
  ("hints", .list (f.hints.map .text)),
  ("step", optionText f.context.step),
  ("workflow", optionText f.context.workflow),
  ("session", optionText f.context.session),
  ("retryable", .bool f.retryable)]

def numbered (hints : List String) : List String :=
  (hints.zipIdx 1).map fun (h, i) => s!"  {i}. {h}"

/-- A line of the report about a name that may be missing. -/
def namedLine (label : String) (name : Option String) : List String :=
  match name with
  | some s => if s.isEmpty then [] else [label ++ ": " ++ s]
  | none => []

/-- The report for people: the context, the category and the numbered hints. -/
def fullMessage (f : Failure) : String :=
  joinWith "\n" <|
    ["Error: " ++ f.message] ++ namedLine "Workflow" f.context.workflow ++
    namedLine "Step" f.context.step ++ ["Category: " ++ f.category.name] ++
    (if f.hints.isEmpty then [] else "Suggestions:" :: numbered f.hints) ++
    (match f.context.session with
      | some s =>
        if f.retryable && !s.isEmpty then ["This error is retryable. Resume with session " ++ s]
        else []
      | none => [])

end Failure

/-- A step of the way to a field of a document. -/
inductive PathPart where
  | name (s : String)
  | index (n : Int)
deriving DecidableEq, Repr

namespace PathPart

def display : PathPart → String
  | .name s => s
  | .index n => intText n

def toValue : PathPart → Value
  | .name s => .text s
  | .index n => .int n

end PathPart

/-- A field whose value does not have the declared form. -/
structure FieldError where
  path : List PathPart
  type : String
  message : String
deriving DecidableEq, Repr

namespace FieldError

def at_ (e : FieldError) (part : PathPart) : FieldError := { e with path := part :: e.path }

/-- The path with points and the message. -/
def display (e : FieldError) : String := joinWith "." (e.path.map (·.display)) ++ ": " ++ e.message

end FieldError

/-- What an operation can end with in place of its result. -/
inductive Fault where
  | failure (f : Failure)
  | schema (errors : List FieldError)
  | incident (i : Incident)

namespace Fault

def label : Fault → String
  | .failure f => f.kind.label
  | .schema _ => IncidentKind.label .schema
  | .incident i => i.kind.label

/-- A failure without a text, worded by its kind alone. -/
def ofKind (kind : IncidentKind) (text : String) : Fault := .incident ⟨kind, text, 0, false⟩

end Fault

end Runbook
