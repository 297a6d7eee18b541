import Runbook.Agent.Model
import Runbook.Api.Endpoint
import Runbook.Json.Reader
import Runbook.Manager
import Runbook.Pattern.Search
import Runbook.Schema
import Runbook.Text.Utf8

/-! The HTTP interface of the application. -/

namespace Runbook.Api

open Text

/-! ## Bodies

A body is a JSON document with a few fields. No body, and null, stand for a document without any field. -/

section Bodies

open Schema

/-- What a request to start a session asks for. -/
structure RunRequest where
  «variables» : Bindings := []
  id : Option String := none

/-- Why a body is refused. An integer may have too many digits to be read. -/
inductive BodyError where
  | notJson (place : Nat)
  | unreadable
  | fields (errors : List FieldError)

def maxId : Nat := 128

def isIdChar (c : Char) : Bool := c.isAlphanum || c = '_' || c = '-'

/-- An id of a session has letters and digits, low lines and hyphens. -/
def sessionId (v : Value) : Checked String :=
  match text v with
  | .bad es => .bad es
  | .ok s =>
    if maxId < s.length then
      wrong "string_too_long" s!"String should have at most {maxId} characters"
    else if s.isEmpty || !s.toList.all isIdChar then
      wrong "string_pattern_mismatch" "String should match pattern '^[A-Za-z0-9_-]+$'"
    else .ok s

def notFields {α : Type} : Checked α :=
  wrong "model_attributes_type" "Input should be a valid dictionary or object to extract fields from"

def RunRequest.ofValue (v : Value) : Checked RunRequest :=
  if v.isMap then
    ((withDefault v ["variables"] bindings []).map RunRequest.mk).ap
      (maybe v ["session_id"] sessionId)
  else notFields

/-- The answer in a request to go on with a session. -/
def answerOf (v : Value) : Checked Value := if v.isMap then .ok (v.field "answer") else notFields

/-- Reads a body, none if it is empty or null. -/
def readBody {α : Type} (read : Value → Checked α) (body : String) :
    Except BodyError (Option α) :=
  if body.isEmpty then .ok none
  else
    let text := String.ofList (match body.toList with
      | '\ufeff' :: rest => rest
      | cs => cs)
    match Json.parse text with
    | .error .hugeInteger => .error .unreadable
    | .error (.at _ left) => .error (.notJson (text.length - left))
    | .ok .null => .ok none
    | .ok doc =>
      match (read doc).below (.name "body") with
      | .ok a => .ok (some a)
      | .bad es => .error (.fields es)

/-- The problems of a body as the interface shows them. -/
def BodyError.details : BodyError → List FieldError
  | .notJson place => [⟨[.name "body", .index place], "json_invalid", "JSON decode error"⟩]
  | .unreadable => []
  | .fields errors => errors

end Bodies

/-! ## Requests -/

/-- The path is written with percent codes. -/
structure Request where
  method : Method
  path : String
  query : Option String := none
  body : String := ""

inductive Content where
  | document (v : Value)
  | text (s : String)

structure Response where
  status : Nat
  content : Content

/-- What the interface shows and drives. -/
structure Service (γ : Type) where
  manager : Manager γ
  models : ModelService (World γ)
  provider : String

namespace Response

def detailed (status : Nat) (detail : Value) : Response :=
  ⟨status, .document (.obj [("detail", detail)])⟩

def plain (status : Nat) (detail : String) : Response := detailed status (.text detail)

/-- The answer where the interface itself broke down. -/
def broken : Response := ⟨500, .text "Internal Server Error"⟩

end Response

/-! ## Failures -/

/-- The status that a failure of the engine is answered with. -/
def statusOf (f : Failure) : Nat :=
  if f.kind = .workflowNotFound ∨ f.kind = .sessionNotFound then 404
  else if f.kind = .validation ∨ f.category = .validation then 422
  else if f.kind = .state ∨ f.kind = .loopBound ∨ f.category = .state then 409
  else 502

mutual

/-- Whether a value can stand in a JSON document as it is: without numbers that are not finite, and without
bytes, dates and sets. -/
def isJson : Value → Bool
  | .num x => x.isFinite
  | .bytes _ => false
  | .date _ => false
  | .moment _ => false
  | .set _ => false
  | .list xs => areJson xs
  | .tuple xs => areJson xs
  | .map es => areJsonEntries es
  | _ => true

def areJson : List Value → Bool
  | [] => true
  | v :: vs => isJson v && areJson vs

def areJsonEntries : List (Value × Value) → Bool
  | [] => true
  | (k, v) :: es => (Json.keyText? k).isSome && isJson v && areJsonEntries es

end

/-- The answer to a failure of the engine: its parts, and its problems if it has any. -/
def failed (f : Failure) : Response :=
  let parts := match f.toValue with
    | .map es => es
    | _ => []
  let problems := if f.problems.isEmpty then [] else [(Value.text "problems", Value.list f.problems)]
  if areJson f.problems then .detailed (statusOf f) (.map (parts ++ problems)) else .broken

def fieldErrorValue (e : FieldError) : Value := .obj [
  ("loc", .list (e.path.map (·.toValue))), ("type", .text e.type), ("msg", .text e.message)]

def refusedBody (e : BodyError) : Response :=
  match e with
  | .unreadable => .plain 400 "There was an error parsing the body"
  | e => .detailed 422 (.list (e.details.map fieldErrorValue))

/-! ## Endpoints -/

variable {γ : Type}

/-- The answer with a document, which has JSON values only. -/
def documented (v : Value) : Act (World γ) Response := do
  return ⟨200, .document (← Act.ofExcept v.plain)⟩

def session (s : Standing) : Except Fault Value := do
  let doc ← s.toValue
  return .obj [
    ("session", doc.field "session"), ("workflow", doc.field "workflow"),
    ("status", doc.field "status"), ("state", doc.field "state"),
    ("input_request", doc.field "inputRequest")]

def sessionEntry (s : Session) : Value := .obj [
  ("session", .text s.key.display), ("workflow", .text s.name), ("status", .text s.status.name),
  ("currentStep", optionText s.currentStep), ("updatedAt", .text s.updatedAt)]

namespace Service

def health (a : Service γ) : Act (World γ) Response := do
  let available ← a.models.isAvailable
  let listed ← Manager.ofFiles fun f => Library.list f a.manager.directories
  documented <| .obj [
    ("status", .text "ok"), ("service", .text "codi-workflows"), ("llm_provider", .text a.provider),
    ("llm_available", .bool available), ("workflows", .int listed.length)]

def workflows (a : Service γ) : Act (World γ) Response := do
  let dirs := a.manager.directories
  let listed ← Manager.ofFiles fun f => Library.list f dirs
  documented <| .obj [
    ("directories", .list (dirs.map .text)), ("workflows", .list (listed.map Library.Listing.toValue))]

def sessions (a : Service γ) (now : String) (workflow : Option String) : Act (World γ) Response := do
  documented (.obj [("sessions", .list ((← a.manager.sessions now workflow).map sessionEntry))])

/-- Any failure but one of the engine is answered with one and the same text. -/
def guarded (act : Act (World γ) Standing) (message : String) : Act (World γ) Response := do
  match ← act.observe with
  | .ok standing => documented (← Act.ofExcept (session standing))
  | .error (.failure f) => return failed f
  | .error _ => return .plain 500 message

def run (a : Service γ) (now name body : String) : Act (World γ) Response := do
  match readBody RunRequest.ofValue body with
  | .error e => return refusedBody e
  | .ok asked =>
    let r := asked.getD {}
    guarded (a.manager.startNamed now name r.variables r.id {}) "Workflow execution failed"

def resume (a : Service γ) (now : String) (key : SessionKey) (body : String) :
    Act (World γ) Response := do
  match readBody answerOf body with
  | .error e => return refusedBody e
  | .ok asked =>
    let answer := match asked with
      | some .null => none
      | asked => asked
    guarded (a.manager.resume now key answer {}) "Workflow resume failed"

/-- The answer of an endpoint. -/
def answer (a : Service γ) (now : String) (r : Request) : Endpoint → Act (World γ) Response
  | .health => a.health
  | .workflows => a.workflows
  | .workflow name => do documented (← Act.ofExcept (← a.manager.get name).toValue)
  | .validation name => do
    let report ← Manager.ofFiles fun f => Library.validate f a.manager.directories name
    documented report.toValue
  | .run name => a.run now name r.body
  | .sessions => a.sessions now ((r.query).bind (queryValue? · "workflow"))
  | .session name id => do
    documented (← Act.ofExcept (← a.manager.loadSession now ⟨name, id⟩).toValue)
  | .summary name id => do documented (← a.manager.summary now ⟨name, id⟩).toValue
  | .resume name id => a.resume now ⟨name, id⟩ r.body
  | .abandon name id => do
    a.manager.abandon ⟨name, id⟩
    documented (.obj [("deleted", .bool true), ("session", .text (name ++ "/" ++ id))])

/-- The answer to a request. There always is one. -/
def respond (a : Service γ) (now : String) (r : Request) (w : World γ) : Response × World γ :=
  match Target.of r.method (unescape r.path) with
  | .nowhere => (.plain 404 "Not Found", w)
  | .otherMethod => (.plain 405 "Method Not Allowed", w)
  | .withoutSlash => (⟨307, .text ""⟩, w)
  | .endpoint e =>
    match a.answer now r e w with
    | (.ok response, v) => (response, v)
    | (.error (.failure f), v) => (failed f, v)
    | (.error _, v) => (.broken, v)

end Service

end Runbook.Api
