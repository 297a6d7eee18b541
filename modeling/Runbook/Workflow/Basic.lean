import Runbook.Value.Basic

/-! Workflows: named sequences of steps. -/

namespace Runbook

inductive InputType where
  | text
  | password
  | confirm
  | choice
  | multiline
deriving DecidableEq, Repr

namespace InputType

def name : InputType → String
  | .text => "text"
  | .password => "password"
  | .confirm => "confirm"
  | .choice => "choice"
  | .multiline => "multiline"

def all : List InputType := [.text, .password, .confirm, .choice, .multiline]

def ofName? (s : String) : Option InputType := all.find? (·.name == s)

end InputType

/-- A question to a human; the answer is bound to a variable. -/
structure Question where
  prompt : String
  inputType : InputType := .text
  choices : List String := []
  defaultValue : Option String := none
  validationPattern : Option String := none
  timeoutMs : Option Binary64 := none
  answerName : Option String := none

inductive GitAction where
  | commit
  | push
  | pull
  | sync
deriving DecidableEq, Repr

inductive PullRequestAction where
  | create
  | review
  | merge
deriving DecidableEq, Repr

structure PullRequestStep where
  action : PullRequestAction
  title : Option String := none
  body : Option String := none
  base : Option String := none
  head : Option String := none
  repo : Option String := none

/-- What a step does. -/
inductive Task where
  | switchModel (model : Option String)
  | conditional (check onTrue : String) (onFalse : Option String)
  | loop (target condition : String) (maxIterations : Option Int)
  | interactive (q : Question)
  | shell (command : String) (timeout : Option Binary64)
  | git (action : GitAction) (message base : Option String)
  | aiPrompt (prompt : String) (model : Option String)
  | pullRequest (p : PullRequestStep)
  | fileExists (file : String)

structure Step where
  id : String
  description : Option String := none
  task : Task

namespace GitAction

def name : GitAction → String
  | .commit => "commit"
  | .push => "push"
  | .pull => "pull"
  | .sync => "sync"

end GitAction

namespace PullRequestAction

def verb : PullRequestAction → String
  | .create => "create"
  | .review => "review"
  | .merge => "merge"

def name (a : PullRequestAction) : String := a.verb ++ "-pr"

end PullRequestAction

namespace Task

/-- The word for the kind of task. -/
def action : Task → String
  | .switchModel _ => "switch-model"
  | .conditional .. => "conditional"
  | .loop .. => "loop"
  | .interactive _ => "interactive"
  | .shell .. => "shell"
  | .git a _ _ => a.name
  | .aiPrompt .. => "ai-prompt"
  | .pullRequest p => p.action.name
  | .fileExists _ => "check-file-exists"

end Task

def knownActions : List String :=
  ["switch-model", "conditional", "loop", "interactive", "shell", "commit", "push", "pull", "sync",
    "ai-prompt", "create-pr", "review-pr", "merge-pr", "check-file-exists"]

namespace Step

def action (s : Step) : String := s.task.action

/-- The variable to which an answer to the step is bound. -/
def answerVariable (id : String) (q : Question) : String :=
  match q.answerName with
  | some v => if v.isEmpty then id ++ "_input" else v
  | none => id ++ "_input"

end Step

structure Workflow where
  name : String
  description : Option String := none
  version : Option String := none
  interactive : Bool := false
  persistent : Bool := false
  «variables» : Bindings := []
  steps : List Step

namespace Workflow

def stepIds (w : Workflow) : List String := w.steps.map (·.id)

def getStep? (w : Workflow) (id : String) : Option Step := w.steps.find? (·.id == id)

/-- The place of the first step with the id. -/
def indexOf? (w : Workflow) (id : String) : Option Nat := w.steps.findIdx? (·.id == id)

/-- The id of the step after the one with the given id. -/
def nextStepId? (w : Workflow) (id : String) : Option String :=
  match w.indexOf? id with
  | some i => (w.steps[i + 1]?).map (·.id)
  | none => none

end Workflow

end Runbook
