import Runbook.Naming
import Runbook.Text.Quoted
import Runbook.Fault.Failure
import Runbook.Workflow.Basic

/-! The git commands of a step, as argument vectors that no shell reads, and their text for people. -/

namespace Runbook.Git

open Text

/-- Backslashes and double quotes get a backslash before them. -/
def escapeMessage (message : String) : String :=
  String.ofList (message.toList.flatMap fun c => if c = '\\' || c = '"' then ['\\', c] else [c])

/-- A commit message is shown in double quotes. -/
def display (argv : List String) : String :=
  match argv with
  | "git" :: "commit" :: "-m" :: message :: _ => "git commit -m \"" ++ escapeMessage message ++ "\""
  | argv => joinWith " " argv

def defaultBase : String := "main"

def invalid (step message : String) (hints : List String) : Fault :=
  .failure { kind := .validation, message, hints, context := { step := some step } }

/-- The text, or the other one if it is missing or empty. -/
def given (s : Option String) (other : String) : String :=
  match s with
  | some t => if t.isEmpty then other else t
  | none => other

/-- The commands in the order in which they are run. -/
def commands (step : String) (action : GitAction) (message base : Option String) :
    Except Fault (List (List String)) :=
  match action with
  | .commit =>
    match message with
    | none => .error (invalid step "Git commit action must have a message" [])
    | some m =>
      if isBlankText m then .error (invalid step "Git commit message cannot be empty" [])
      else .ok [["git", "commit", "-m", m]]
  | .push => .ok [["git", "push"]]
  | .pull => .ok [["git", "pull"]]
  | .sync =>
    let branch := given base defaultBase
    if Naming.isSafeBranch branch then
      .ok [["git", "fetch", "origin", branch], ["git", "reset", "--hard", "origin/" ++ branch]]
    else
      .error (invalid step ("Invalid base branch for sync: " ++ quoted branch)
        ["Use a plain branch name such as main or develop"])

end Runbook.Git
