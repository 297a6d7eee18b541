import Runbook.Naming
import Runbook.Text.Quoted
import Runbook.Fault.Failure

/-! Keys of sessions: the name of a workflow and an id, written with a slash between them. -/

namespace Runbook

open Text

structure SessionKey where
  workflow : String
  id : String
deriving DecidableEq, Repr

namespace SessionKey

def display (k : SessionKey) : String := k.workflow ++ "/" ++ k.id

/-- The id is what follows the last slash; neither part is empty. -/
def parse? (s : String) : Option SessionKey :=
  match splitLast? s '/' with
  | none => none
  | some (workflow, id) => if workflow.isEmpty || id.isEmpty then none else some ⟨workflow, id⟩

def malformed (s : String) : String :=
  "Invalid session key: " ++ quoted s ++ " (expected '<workflow>/<session>')"

def parse (s : String) : Except Fault SessionKey :=
  match parse? s with
  | some k => .ok k
  | none => .error (.ofKind .value (malformed s))

/-- An id has 1 to 128 letters, digits, hyphens and low lines; a line feed at the end is let pass. -/
def isValidId (id : String) : Bool :=
  let cs := Naming.body id.toList
  1 ≤ cs.length && cs.length ≤ 128 && cs.all Naming.isSafeNameChar

def fileSuffix : String := ".json"

/-- The place of the session's file below the state directory. -/
def path (k : SessionKey) : Except Fault String :=
  if isValidId k.id then .ok (Naming.safeName k.workflow ++ "/" ++ k.id ++ fileSuffix)
  else .error <| .failure {
    kind := .state
    message := "Invalid session id: " ++ quoted k.id
    hints := ["Session ids contain only letters, digits, '-' and '_'"]
    context := { session := some k.display } }

end SessionKey

end Runbook
