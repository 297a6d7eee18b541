import Runbook.Execution.Command
import Runbook.Naming

/-! Steps on pull requests: open one, look at the latest, merge it. -/

namespace Runbook.Execution

open Text

variable {σ : Type}

/-- A rejection by the hosting service, or its absence, is a failure of the step. -/
def hostingFault (step : String) (action : PullRequestAction) (e : Fault) : Fault :=
  match e with
  | .incident i =>
    if i.kind = .hostingRejected then
      .failure { broken step
        ("Pull request " ++ action.verb ++ s!" rejected (HTTP {i.status}): " ++ i.text) with
        category := if i.status = 401 ∨ i.status = 403 then .permission else .execution
        retryable := decide (500 ≤ i.status)
        cause := some i.kind.label }
    else if i.kind = .hostingUnavailable then
      .failure { broken step
        ("Pull request service " ++ (if i.timedOut then "timed out" else "unreachable") ++ ": " ++
          i.text) with
        category := if i.timedOut then .timeout else .network
        cause := some i.kind.label }
    else e
  | e => e

def refusal (step message : String) (hints : List String) : Fault :=
  .failure { kind := .validation, message, hints, context := { step := some step } }

def repoOf (v : Services σ) (step : String) (repo : Option String) : Except Fault String :=
  match orElseText repo v.defaultRepo with
  | some r =>
    if r.isEmpty then .error (refusal step s!"Pull request step {step} has no repository" noRepoHints)
    else .ok r
  | none => .error (refusal step s!"Pull request step {step} has no repository" noRepoHints)
where
  noRepoHints : List String := ["Add `repo: owner/name` to the step or set github.repository"]

/-- The branch that is checked out. -/
def currentBranch (v : Services σ) (step : String) : Act σ String := do
  let r ← runCommand v step "Git command" (.words ["git", "rev-parse", "--abbrev-ref", "HEAD"]) none
  let branch := trim r.stdout
  if !r.ok || branch.isEmpty || branch == "HEAD" then
    throw <| .failure { broken step
      "Git command failed: cannot determine the current branch for the pull request head" with
      hints := ["Set `head:` on the step explicitly"] }
  else return branch

def defaultPullRequestBase : String := "main"

def checkBranchName (step branch : String) : Except Fault Unit :=
  if Naming.isSafeBranch branch then .ok ()
  else .error (refusal step ("Invalid branch name: " ++ quoted branch) [])

def urlExport (step : String) (p : PullRequest) : Bindings := [(step ++ "_url", .text p.url)]

/-- Opens a pull request with a title that is valid. -/
def createPullRequest (v : Services σ) (h : Hosting σ) (step : String) (p : PullRequestStep)
    (title head : String) : Act σ Outcome := do
  let base := Git.given p.base defaultPullRequestBase
  Act.ofExcept (checkBranchName step head)
  Act.ofExcept (checkBranchName step base)
  let repo ← Act.ofExcept (repoOf v step p.repo)
  let opened ← (h.create ⟨repo, title, head, base, p.body.getD ""⟩).reword
    (hostingFault step .create)
  return {
    output := [
      ("url", .text opened.url), ("number", .int opened.number),
      ("title", .text (if opened.title.isEmpty then title else opened.title))]
    exports := urlExport step opened }

/-- The branch that the step names, else the one that is checked out. -/
def headOf (v : Services σ) (step : String) (p : PullRequestStep) : Act σ String :=
  match p.head with
  | some b => if b.isEmpty then currentBranch v step else pure b
  | none => currentBranch v step

def openPullRequest (v : Services σ) (h : Hosting σ) (step : String) (p : PullRequestStep) :
    Act σ Outcome :=
  let title := p.title.getD ""
  if !Naming.isValidTitle title then
    throw <| refusal step
      (if title.isEmpty then "PR create action must have a title"
        else "Invalid pull request title: " ++ quoted title)
      ["Titles are 1-256 characters without line breaks"]
  else do createPullRequest v h step p title (← headOf v step p)

def noPullRequest : String := "No open pull request found"

def reviewPullRequest (v : Services σ) (h : Hosting σ) (step : String) (p : PullRequestStep) :
    Act σ Outcome := do
  let repo ← Act.ofExcept (repoOf v step p.repo)
  match ← (h.latest repo).reword (hostingFault step .review) with
  | none =>
    return { output := [("pullRequest", .null)], success := false, error := some noPullRequest }
  | some pr =>
    return {
      output := [("pullRequest", pr.toValue), ("url", .text pr.url), ("number", .int pr.number)]
      exports := urlExport step pr }

def mergePullRequest (v : Services σ) (h : Hosting σ) (step : String) (p : PullRequestStep) :
    Act σ Outcome := do
  let repo ← Act.ofExcept (repoOf v step p.repo)
  match ← (h.latest repo).reword (hostingFault step .merge) with
  | none =>
    return { output := [("merged", .bool false)], success := false, error := some noPullRequest }
  | some pr =>
    let payload ← (h.merge repo pr.number).reword (hostingFault step .merge)
    if !payload.isMap then
      throw (.ofKind .member ("'" ++ payload.typeName ++ "' object has no attribute 'get'"))
    let merged := ((payload.get? "merged").getD (.bool true)).holds
    return {
      output := [
        ("merged", .bool merged), ("number", .int pr.number), ("url", .text pr.url),
        ("sha", payload.field "sha")]
      exports := urlExport step pr }

def pullRequest (v : Services σ) (step : String) (p : PullRequestStep) : Act σ Outcome :=
  match v.hosting with
  | none =>
    throw <| .failure { broken step "Pull request step needs a source hosting client" with
      hints := ["Set github.token (or GITHUB_TOKEN) in the configuration"], retryable := false }
  | some h =>
    match p.action with
    | .create => openPullRequest v h step p
    | .review => reviewPullRequest v h step p
    | .merge => mergePullRequest v h step p

end Runbook.Execution
