import Runbook.Execution.Services
import Runbook.Http.Exchange
import Runbook.Json.Printer
import Runbook.Schema

/-! Pull requests on GitHub. A reply whose status is 400 or more is a rejection with the text that the
reply gives; without a reply the service is unavailable. -/

namespace Runbook

open Text

structure GitHub where
  token : String
  apiUrl : String := "https://api.github.com"
deriving DecidableEq, Repr

namespace GitHub

open Http

def apiVersion : String := "2022-11-28"

def headers (g : GitHub) : List (String × String) :=
  [("accept", "application/vnd.github+json"), ("x-github-api-version", apiVersion),
    ("user-agent", "codi-workflows")] ++
  if g.token.isEmpty then [] else [("authorization", "Bearer " ++ g.token)]

/-- The rejection that a reply tells of: by its message, else by its text, else by its status. -/
def rejection (r : Reply) : Fault :=
  let rejected (detail : String) : Fault :=
    .incident ⟨.hostingRejected, if detail.isEmpty then "HTTP " ++ intText r.status else detail,
      r.status, false⟩
  match r.document with
  | .error _ => rejected r.text
  | .ok doc =>
    if !doc.isMap then
      .ofKind .member ("'" ++ doc.typeName ++ "' object has no attribute 'get'")
    else
      let message := doc.field "message"
      if message.holds then rejected message.display else rejected r.text

def unavailable (method path : String) (e : Fault) : Fault :=
  match e with
  | .incident i =>
    if i.kind.isTransportTimeout then
      .incident ⟨.hostingUnavailable, method ++ " " ++ path ++ " timed out", 0, true⟩
    else if i.kind.isTransport then
      .incident ⟨.hostingUnavailable, method ++ " " ++ path ++ " failed: " ++ i.text, 0, false⟩
    else e
  | e => e

/-- What a reply answers; an empty one answers an empty document. -/
def answer (r : Reply) : Except Fault Value :=
  if r.isRefused then .error (rejection r)
  else if r.status = 204 ∨ r.content.isEmpty then .ok (.map [])
  else r.document.mapError .incident

variable {σ : Type}

def call (g : GitHub) (send : Transport σ) (method path : String) (query : Option String)
    (body : Option Value) : Act σ Value := do
  let url := { Url.ofText (trimSlashes g.apiUrl ++ path) with query }
  let reply ← (send { method, url, headers := g.headers, body }).reword (unavailable method path)
  Act.ofExcept (answer reply)

open Schema in
/-- A pull request from its document. The address for a browser goes before that of the interface. -/
def pullRequest (doc : Value) : Except Fault PullRequest :=
  match doc with
  | .map _ =>
    match doc.get? "number" with
    | none => .error (.ofKind .key "'number'")
    | some number =>
      let page := doc.field "html_url"
      let address := if page.holds then page else (doc.get? "url").getD (.text "")
      let read : Checked PullRequest :=
        (((((int number).below (.name "number")).map PullRequest.mk).ap
          ((text address).below (.name "url"))).ap
          (withDefault doc ["title"] text "")).ap
          (withDefault doc ["state"] text "open")
      read.toExcept.mapError .schema
  | .list _ => .error (.ofKind .type "list indices must be integers or slices, not str")
  | .text _ => .error (.ofKind .type "string indices must be integers, not 'str'")
  | doc => .error (.ofKind .type ("'" ++ doc.typeName ++ "' object is not subscriptable"))

/-- The first of the pull requests in a document. -/
def firstPullRequest (doc : Value) : Except Fault (Option PullRequest) :=
  if !doc.holds then .ok none
  else
    match doc with
    | .list (first :: _) => (pullRequest first).map some
    | .text s => (pullRequest (.text (String.ofList (s.toList.take 1)))).map some
    | .map _ => .error (.ofKind .key "0")
    | doc => .error (.ofKind .type ("'" ++ doc.typeName ++ "' object is not subscriptable"))

def pullsPath (repo : String) : String := "/repos/" ++ repo ++ "/pulls"

def create (g : GitHub) (send : Transport σ) (d : PullRequestDraft) : Act σ PullRequest := do
  let doc ← g.call send "POST" (pullsPath d.repo) none <| some <| .obj [
    ("title", .text d.title), ("head", .text d.head), ("base", .text d.base), ("body", .text d.body)]
  Act.ofExcept (pullRequest doc)

def newestFirst : String := "state=open&sort=created&direction=desc&per_page=1"

def latest (g : GitHub) (send : Transport σ) (repo : String) : Act σ (Option PullRequest) := do
  Act.ofExcept (firstPullRequest (← g.call send "GET" (pullsPath repo) (some newestFirst) none))

def merge (g : GitHub) (send : Transport σ) (repo : String) (number : Int) : Act σ Value :=
  g.call send "PUT" (pullsPath repo ++ "/" ++ intText number ++ "/merge") none none

/-- The hosting service that the steps of workflows use. -/
def hosting (g : GitHub) (send : Transport σ) : Hosting σ where
  create := g.create send
  latest := g.latest send
  merge := g.merge send

end GitHub

end Runbook
