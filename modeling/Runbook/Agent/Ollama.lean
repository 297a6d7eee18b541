import Runbook.Agent.Completions

/-! The model service of an Ollama server. -/

namespace Runbook

open Text

structure Ollama where
  host : String
  contextLength : Option Int := none
  predictLength : Option Int := none
  defaultModel : String
deriving DecidableEq, Repr

namespace Ollama

open Http

variable {σ : Type}

def defaultPort : String := "11434"

/-- The scheme and what follows it; a host without a scheme is asked by plain HTTP. -/
def splitHost (host : String) : String × String × String :=
  match split? host "://" with
  | some (scheme, rest) =>
    if rest.isEmpty then ("http", host, defaultPort)
    else (scheme, rest, (Url.defaultPort scheme).getD defaultPort)
  | none => ("http", host, defaultPort)

/-- The address of the server, with the port that Ollama listens on unless a scheme or a port is given. -/
def baseUrl (o : Ollama) : String :=
  let (scheme, rest, port) := splitHost o.host
  let (authority, path) := Url.before ['/', '?', '#'] rest
  let (path, _) := Url.before ['?', '#'] path
  let (host, given) := Url.splitPort ((splitLast? authority '@').getD ("", authority)).2
  let host := if host.isEmpty then "127.0.0.1" else Url.lowered host
  let port := match given with
    | some p => if p.isEmpty || p.toList.all (· = '0') then port else p
    | none => port
  let inner := trimSlashes (String.ofList (path.toList.dropWhile (· = '/')))
  scheme ++ "://" ++ host ++ ":" ++ port ++ (if inner.isEmpty then "" else "/" ++ inner)

def headers : List (String × String) :=
  [("accept", "application/json"), ("content-type", "application/json")]

def options (o : Ollama) (warmth : Binary64) : Value :=
  let given (name : String) (n : Option Int) : List (String × Value) :=
    (n.map fun n => (name, Value.int n)).toList
  .obj ([("temperature", .num warmth)] ++ given "num_ctx" o.contextLength ++
    given "num_predict" o.predictLength)

/-- The failure of a refused request, with the error that the reply names. -/
def refused (r : Reply) : Fault :=
  let reply (error : Value) : Fault :=
    .ofKind .badReply (error.display ++ " (status code: " ++ intText r.status ++ ")")
  match Json.parse r.text with
  | .ok doc =>
    if doc.isMap then reply ((doc.get? "error").getD (.text r.text))
    else Completions.noMember doc "get"
  | .error .hugeInteger => .ofKind .refusedValue (Json.Fail.message "" .hugeInteger)
  | .error _ => reply (.text r.text)

def unreachable : String :=
  "Failed to connect to Ollama. Please check that Ollama is downloaded, running and accessible. " ++
  "https://ollama.com/download"

def connectionFault (e : Fault) : Fault :=
  match e with
  | .incident i => if i.kind = .connectFailed then .ofKind .connection unreachable else e
  | e => e

def ask (o : Ollama) (send : Transport σ) (method path : String) (body : Option Value) :
    Act σ Value := do
  let reply ← (send { method, url := .ofText (o.baseUrl ++ path), headers, body }).reword
    connectionFault
  if !reply.succeeded then throw (refused reply)
  let doc ← Act.ofExcept (reply.document.mapError .incident)
  if !doc.isMap then
    throw (.ofKind .type ("argument after ** must be a mapping, not " ++ doc.typeName))
  return doc

/-! ## Replies -/

open Schema

def notRecord {α : Type} (name : String) : Checked α :=
  wrong "model_type" ("Input should be a valid dictionary or instance of " ++ name)

def notSequence {α : Type} (v : Value) : Checked α :=
  if v.isText then wrong "sequence_str" "'str' instances are not allowed as a Sequence value"
  else wrong "is_instance_of" "Input should be an instance of Sequence"

/-- Checks that a value is a list or null, and each of its items. -/
def listOf (check : Value → Checked Unit) (v : Value) : Checked Unit :=
  match v with
  | .null => .ok ()
  | .list vs => (Schema.items check 0 vs).map fun _ => ()
  | v => notSequence v

def record (name : String) (check : Value → Checked Unit) (v : Value) : Checked Unit :=
  if v.isMap then check v else notRecord name

def both (a b : Checked Unit) : Checked Unit := (a.map fun _ => fun _ => ()).ap b

/-- A field of a type that may be missing or null. -/
def perhaps {α : Type} (v : Value) (name : String) (read : Value → Checked α) : Checked Unit :=
  (maybe v [name] read).map fun _ => ()

def function (v : Value) : Checked Unit :=
  both ((required v ["name"] text).map fun _ => ()) <|
    (required v ["arguments"] fun a =>
      if a.isMap then .ok () else wrong "mapping_type" "Input should be a valid mapping")

def toolCall (v : Value) : Checked Unit := required v ["function"] (record "Function" function)

/-- The content of a message, which has a role. -/
def message (v : Value) : Checked (Option String) :=
  if !v.isMap then notRecord "Message"
  else
    (((((required v ["role"] text).map fun _ content (_ _ _ : Unit) => content).ap
      (maybe v ["content"] text)).ap
      (perhaps v "thinking" text)).ap
      (perhaps v "tool_name" text)).ap
      (perhaps v "tool_calls" (listOf (record "ToolCall" toolCall)))

/-- The model that a reply names, and its content. -/
def chatReply (v : Value) : Checked (Option String × Option String) :=
  let counts := ["total_duration", "load_duration", "prompt_eval_count", "prompt_eval_duration",
    "eval_count", "eval_duration"].foldl (fun acc name => both acc (perhaps v name int)) (.ok ())
  (((((((maybe v ["model"] text).map fun model (_ _ _ _ : Unit) content => (model, content)).ap
    (perhaps v "created_at" text)).ap
    (perhaps v "done" bool)).ap
    (perhaps v "done_reason" text)).ap
    counts).ap
    (required v ["message"] message))

/-- The name in an entry of the listing. -/
def listedName (v : Value) : Checked (Option String) :=
  if v.isMap then maybe v ["model"] text else notRecord "Model"

def listing (v : Value) : Checked (List String) :=
  (required v ["models"] fun ms =>
    match ms with
    | .list vs => Schema.items listedName 0 vs
    | v => notSequence v).map
    fun names => names.filterMap fun n => n.filter (!·.isEmpty)

def checked {α : Type} (c : Checked α) : Except Fault α := c.toExcept.mapError .schema

/-- A message as it is sent: a content only if it is not empty, but always a role. -/
def sent (m : Message) : Checked Value :=
  if m.role.isEmpty then Schema.missing "role"
  else
    .ok <| .obj <| ("role", .text m.role) ::
      if m.content.isEmpty then [] else [("content", .text m.content)]

def sentAll : List Message → Checked (List Value)
  | [] => .ok []
  | m :: ms =>
    match sent m with
    | .ok v => (sentAll ms).map (v :: ·)
    | .bad errors => .bad errors

def namedModel (model : String) : Checked String :=
  if model.isEmpty then
    (wrong "string_too_short" "String should have at least 1 character").below (.name "model")
  else .ok model

def generate (o : Ollama) (send : Transport σ) (messages : List Message) (model : Option String)
    (warmth : Binary64) : Act σ ModelReply := do
  let sent ← Act.ofExcept (checked (sentAll messages))
  let model ← Act.ofExcept (checked (namedModel (modelOr model o.defaultModel)))
  let doc ← o.ask send "POST" "/api/chat" <| some <| .obj [
    ("model", .text model), ("messages", .list sent),
    ("stream", .bool false), ("options", o.options warmth)]
  let (named, content) ← Act.ofExcept (checked (chatReply doc))
  return ⟨content.getD "", modelOr named model⟩

/-- Connection failures count as an empty listing. -/
def models (o : Ollama) (send : Transport σ) : Act σ (List String) := do
  match ← (o.ask send "GET" "/api/tags" none).observe with
  | .ok doc => Act.ofExcept (checked (listing doc))
  | .error (.incident i) =>
    if isExchange i.kind || i.kind.isConnection then return [] else throw (.incident i)
  | .error e => throw e

def isAvailable (o : Ollama) (send : Transport σ) : Act σ Bool :=
  Completions.orElse (do
    let url := Url.ofText (trimSlashes o.host ++ "/api/tags")
    return (← send { method := "GET", url, headers := [("accept", "*/*")] }).status == 200) false

def service (o : Ollama) (send : Transport σ) : ModelService σ where
  generate := o.generate send
  models := o.models send
  isAvailable := o.isAvailable send

end Ollama

end Runbook
