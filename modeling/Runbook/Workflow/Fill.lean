import Runbook.Template
import Runbook.Workflow.Basic

/-! Steps with the values of the placeholders in their texts. Ids, targets, conditions, choices and the
other settings of a question stay as they are. -/

namespace Runbook

namespace Task

def fillOption (b : Bindings) (s : Option String) : Option String := s.map (Template.fill · b)

def fill (b : Bindings) : Task → Task
  | .switchModel model => .switchModel (fillOption b model)
  | .conditional check onTrue onFalse => .conditional check onTrue onFalse
  | .loop target condition maxIterations => .loop target condition maxIterations
  | .interactive q => .interactive { q with prompt := Template.fill q.prompt b }
  | .shell command timeout => .shell (Template.fill command b) timeout
  | .git action message base => .git action (fillOption b message) (fillOption b base)
  | .aiPrompt prompt model => .aiPrompt (Template.fill prompt b) (fillOption b model)
  | .pullRequest p => .pullRequest {
      p with
      title := fillOption b p.title
      body := fillOption b p.body
      base := fillOption b p.base
      head := fillOption b p.head
      repo := fillOption b p.repo }
  | .fileExists file => .fileExists (Template.fill file b)

/-- The texts of a task in which placeholders are filled. -/
def templates : Task → List String
  | .switchModel model => model.toList
  | .conditional .. => []
  | .loop .. => []
  | .interactive q => [q.prompt]
  | .shell command _ => [command]
  | .git _ message base => message.toList ++ base.toList
  | .aiPrompt prompt model => [prompt] ++ model.toList
  | .pullRequest p =>
    p.title.toList ++ p.body.toList ++ p.base.toList ++ p.head.toList ++ p.repo.toList
  | .fileExists file => [file]

end Task

namespace Step

def fill (s : Step) (b : Bindings) : Step := { s with task := s.task.fill b }

/-- Whether some text of the step can have placeholders. -/
def hasTemplates (s : Step) : Bool := s.task.templates.any Template.isTemplate

end Step

end Runbook
