import Runbook.Agent.Model
import Runbook.Http.Exchange
import Runbook.Schema

/-! Model services with chat completions: the answer is the first of several choices. -/

namespace Runbook

structure Completions where
  baseUrl : String
  apiKey : String := ""
  maxTokens : Option Int := none
  defaultModel : String := "default"
deriving DecidableEq, Repr

namespace Completions

open Http

variable {σ : Type}

def headers (c : Completions) : List (String × String) :=
  [("accept", "*/*"), ("content-type", "application/json")] ++
  if c.apiKey.isEmpty then [] else [("authorization", "Bearer " ++ c.apiKey)]

def url (c : Completions) (path : String) : Url := .ofText (trimSlashes c.baseUrl ++ path)

def noMember (v : Value) (name : String) : Fault :=
  .ofKind .member ("'" ++ v.typeName ++ "' object has no attribute '" ++ name ++ "'")

/-- The member of a map, null where there is none. -/
def member (v : Value) (name : String) : Except Fault Value :=
  if v.isMap then .ok (v.field name) else .error (noMember v "get")

/-- The first of the choices. -/
def firstChoice (choices : Value) : Except Fault Value :=
  if !choices.holds then .ok (.map [])
  else
    match choices with
    | .list (first :: _) => .ok first
    | .text s => .ok (.text (String.ofList (s.toList.take 1)))
    | .map _ => .error (.ofKind .key "0")
    | v => .error (.ofKind .type ("'" ++ v.typeName ++ "' object is not subscriptable"))

/-- The text of the answer; an answer without one is empty. -/
def contentOf (doc : Value) : Except Fault String := do
  let choice ← firstChoice (← member doc "choices")
  if !choice.isMap then throw (noMember choice "get")
  let message := (choice.get? "message").getD (.map [])
  if !message.isMap then throw (noMember message "get")
  let content := message.field "content"
  if !content.holds then return ""
  ((Schema.text content).below (.name "content")).toExcept.mapError .schema

def ids : List Value → Except Fault (List String)
  | [] => .ok []
  | v :: vs => do
    let id ← member v "id"
    let rest ← ids vs
    match id with
    | .text s => return if s.isEmpty then rest else s :: rest
    | _ => return rest

/-- The names in a listing of models; those without a name are left out. -/
def namesOf (doc : Value) : Except Fault (List String) :=
  if !doc.isMap then .error (noMember doc "get")
  else
    match (doc.get? "data").getD (.list []) with
    | .list vs => ids vs
    | .map es => if es.isEmpty then .ok [] else .error (noMember (.text "") "get")
    | .text s => if s.isEmpty then .ok [] else .error (noMember (.text s) "get")
    | v => .error (.ofKind .type ("'" ++ v.typeName ++ "' object is not iterable"))

def requestBody (c : Completions) (messages : List Message) (model : String) (warmth : Binary64) :
    Value :=
  .obj <| [("model", .text model), ("messages", .list (messages.map Message.toValue)),
    ("temperature", .num warmth), ("stream", .bool false)] ++
    match c.maxTokens with
    | some n => [("max_tokens", .int n)]
    | none => []

def documentOf (r : Reply) : Except Fault Value :=
  if r.succeeded then r.document.mapError .incident else .error (.incident (statusRejected r))

def generate (c : Completions) (send : Transport σ) (messages : List Message)
    (model : Option String) (warmth : Binary64) : Act σ ModelReply := do
  let model := modelOr model c.defaultModel
  let reply ← send {
    method := "POST", url := c.url "/chat/completions", headers := c.headers
    body := some (c.requestBody messages model warmth) }
  let doc ← Act.ofExcept (documentOf reply)
  return ⟨← Act.ofExcept (contentOf doc), model⟩

def askModels (c : Completions) (send : Transport σ) : Act σ Reply :=
  send { method := "GET", url := c.url "/models", headers := c.headers }

/-- Whether an exchange ended with the wanted answer; one that failed did not. -/
def orElse {α : Type} (act : Act σ α) (other : α) : Act σ α := do
  match ← act.observe with
  | .ok a => return a
  | .error (.incident i) => if isExchange i.kind then return other else throw (.incident i)
  | .error e => throw e

def isAvailable (c : Completions) (send : Transport σ) : Act σ Bool :=
  orElse (do return (← c.askModels send).status == 200) false

/-- The names of the models, none where the service cannot be reached. -/
def models (c : Completions) (send : Transport σ) : Act σ (List String) := do
  let doc ← orElse (do return some (← Act.ofExcept (documentOf (← c.askModels send)))) none
  match doc with
  | some doc => Act.ofExcept (namesOf doc)
  | none => return []

def service (c : Completions) (send : Transport σ) : ModelService σ where
  generate := c.generate send
  models := c.models send
  isAvailable := c.isAvailable send

end Completions

end Runbook
