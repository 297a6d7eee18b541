import Runbook.Fault.Failure
import Runbook.Unicode.Lowercase

/-! Every failure as a failure of the engine with hints. The hints come from a guide by fragments of the
message; the category from the kind of the failure, else from words of the message. -/

namespace Runbook

open Text

/-- What a guide says about messages with a fragment. -/
structure Advice where
  fragment : String
  hints : List String
  retryable : Bool

/-- The first fragment that a message has decides, so `git push exited` stands before the entry for
git commands in general. -/
def guide : List Advice := [
  ⟨"workflow not found",
    ["Check the workflow name spelling",
      "List available workflows to see what is installed",
      "Ensure workflow files exist in ~/.codi/workflows/, .codi/workflows/ or ./workflows/"],
    false⟩,
  ⟨"invalid yaml",
    ["Check YAML syntax: indentation and missing colons are the usual suspects",
      "Quote strings that contain special characters such as ':' or '#'",
      "Validate the workflow to get the full list of problems"],
    false⟩,
  ⟨"step not found",
    ["Verify the step id exists in the workflow",
      "Check for typos in onTrue, onFalse and to references",
      "If the workflow file was edited after the session started, abandon the session and run it again"],
    false⟩,
  ⟨"git push exited",
    ["Check remote connectivity and credentials",
      "Pull and rebase if the remote has new commits"],
    true⟩,
  ⟨"git command failed",
    ["Ensure git is installed and accessible",
      "Check remote connectivity with git remote -v and git fetch",
      "Run the git command manually to see the full error"],
    true⟩,
  ⟨"shell command failed",
    ["Review the command for syntax errors",
      "Ensure all required tools are installed",
      "Run the command in a regular terminal to reproduce"],
    true⟩,
  ⟨"state file not found",
    ["The session may never have been started",
      "List saved sessions to find the right session id",
      "Run the workflow again to start a new session"],
    false⟩,
  ⟨"corrupt state",
    ["Inspect the state file by hand",
      "Abandon the session and run the workflow again if the file cannot be repaired"],
    false⟩,
  ⟨"max iterations exceeded",
    ["Review the loop condition, it may never become false",
      "Raise workflow.max_iterations in the configuration if the loop is legitimately long",
      "Set maxIterations on the loop step to bound it explicitly"],
    false⟩,
  ⟨"timed out",
    ["Check whether the process or service is hung",
      "Increase the timeout for the step",
      "Break long-running work into smaller steps"],
    true⟩,
  ⟨"permission denied",
    ["Check file and directory permissions",
      "Check the access token's scopes for the repository"],
    false⟩,
  ⟨"ai generation failed",
    ["Verify the AI provider is running and reachable",
      "Try a simpler prompt to rule out model issues",
      "Switch to a different model"],
    true⟩,
  ⟨"model not found",
    ["Check the model name for your provider",
      "Pull the model first (e.g. ollama pull <model>)"],
    true⟩,
  ⟨"agent not available",
    ["Ensure an AI provider is configured and running",
      "Check llm.provider and the provider host in the configuration"],
    true⟩,
  ⟨"pull request",
    ["Check that the head branch is pushed to the remote",
      "Check the repository name and the GitHub token"],
    true⟩]

def defaultHints : List String :=
  ["Review the workflow configuration", "Inspect the session history for the failing step"]

/-- Words that tell the category of a message, the first list with a hit first. -/
def categoryWords : List (Category × List String) := [
  (.validation, ["validation", "invalid", "must have", "must specify"]),
  (.permission, ["permission", "denied", "forbidden", "unauthorized"]),
  (.timeout, ["timeout", "timed out"]),
  (.network, ["network", "connection", "unreachable"]),
  (.state, ["state file", "corrupt state"])]

/-- What the guide says about a message. -/
def adviceFor? (message : String) : Option Advice :=
  let low := Unicode.toLower message
  guide.find? fun a => hasPart low a.fragment

def Category.ofMessage (message : String) : Category :=
  let low := Unicode.toLower message
  match categoryWords.find? fun (_, words) => words.any (hasPart low) with
  | some (c, _) => c
  | none => .execution

/-- The category that the kind of a failure decides. -/
def IncidentKind.category? (k : IncidentKind) : Option Category :=
  if k = .timeout ∨ k.isTransportTimeout then some .timeout
  else if k = .permission then some .permission
  else if k.isConnection ∨ k.isTransport then some .network
  else if k.isSystem then some .execution
  else none

namespace Failure

/-- The kind of failure that a category stands for. -/
def kindOf : Category → FailureKind
  | .validation => .validation
  | .unknown => .general
  | .state => .general
  | _ => .execution

/-- Gives a failure without hints those of the guide, else the default ones. -/
def advised (f : Failure) : Failure :=
  if f.hints.isEmpty then
    match adviceFor? f.message with
    | some a => f.addHints a.hints
    | none => f.addHints defaultHints
  else f

end Failure

/-- The failure that an outer failure becomes before hints are given. -/
def Failure.ofMessage (kind? : Option Category) (message label : String) : Failure :=
  let category := kind?.getD (Category.ofMessage message)
  let kind := Failure.kindOf category
  { kind, message, category, cause := some label
    retryable := ((adviceFor? message).map (·.retryable)).getD kind.retryable }

namespace Fault

/-- The text of a rejected document: a count of the errors, then each with its path. -/
def schemaText (errors : List FieldError) : String :=
  joinWith "\n" (s!"{errors.length} validation errors" ::
    errors.flatMap fun e => [joinWith "." (e.path.map (·.display)), "  " ++ e.message])

/-- Turns any fault into a failure with at least one hint, and names what it does not name yet. -/
def classify (e : Fault) (c : Context) : Failure :=
  let f :=
    match e with
    | .failure f => f
    | .schema errors =>
      Failure.ofMessage none (schemaText errors) (IncidentKind.label .schema)
    | .incident i => Failure.ofMessage i.kind.category? i.message i.kind.label
  f.advised.inContext c

end Fault

end Runbook
