import Runbook.Workflow.Report
import Runbook.Yaml.Node.Value

/-! Workflows from the text of a document. -/

namespace Runbook.Workflow

/-- The failure of a text that is no document, with the place it comes from. -/
def unreadable (text : String) (origin : Option String) (e : Yaml.Error) : Failure where
  kind := .validation
  message :=
    "Invalid YAML" ++ ((origin.filter (!·.isEmpty)).map (" in " ++ ·)).getD "" ++ ": " ++
      e.message text.toList
  hints := ["Check indentation and quoting", "Validate the file with a YAML linter"]
  cause := some e.kind.label

/-- The document of a text. -/
def documentOf (text : String) (origin : Option String) : Except Fault Value :=
  match Yaml.read text with
  | .ok v => .ok v
  | .error e =>
    if e.isOfDocument then .error (.failure (unreadable text origin e))
    else .error (.ofKind e.kind "")

def ofText (text : String) (origin : Option String) : Except Fault Workflow := do
  build (← documentOf text origin)

end Runbook.Workflow
