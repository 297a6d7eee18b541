import Runbook.Files.Basic
import Runbook.Workflow.Document
import Runbook.Workflow.Source

/-! Workflow files in directories: which there are, and which of them defines a workflow of a given name. A
workflow goes by the stem of its file or by the name in its document. -/

namespace Runbook.Library

open Text

def suffixes : List String := [".yaml", ".yml"]

/-- The workflow files of a directory in the order of their names; none of one that is missing or cannot be
read. -/
def filesIn (f : Files) (dir : PathName) : Except Fault (List PathName) :=
  let found : Except Incident (List PathName) := do
    if !(← f.isDirectory dir) then return []
    let (place, _) ← f.locate dir
    let candidates := ((f.namesIn place).map dir.child).filter fun p => suffixes.contains p.suffix
    candidates.filterM f.isFile
  match found with
  | .ok ps => .ok ps
  | .error i => if i.kind.isSystem then .ok [] else .error (.incident i)

/-- The workflow files of the directories in turn. -/
def files (f : Files) : List String → Except Fault (List PathName)
  | [] => .ok []
  | dir :: dirs => do
    let dir ← (f.expandHome (.ofText dir)).mapError .incident
    let found ← filesIn f dir
    return found ++ (← files f dirs)

/-- The document of a workflow file. -/
def document (f : Files) (p : PathName) : Except Fault Value :=
  match f.readText p with
  | .ok text => Workflow.documentOf text (some p.display)
  | .error i =>
    if i.kind.isSystem then
      .error <| .failure {
        kind := .validation
        message := "Cannot read workflow file " ++ p.display ++ ": " ++ i.text
        hints := ["Check that the file exists and is readable"]
        cause := some i.kind.label }
    else .error (.incident i)

def load (f : Files) (p : PathName) : Except Fault Workflow := do
  Workflow.build (← document f p)

/-- Whether a fault tells that a document is no workflow. -/
def isInvalid : Fault → Bool
  | .failure e => e.kind = .validation
  | _ => false

structure Listing where
  name : String
  file : String
  valid : Bool
  error : Option String := none
  description : Option String := none
deriving DecidableEq, Repr

namespace Listing

def toValue (l : Listing) : Value := .obj [
  ("name", .text l.name), ("file", .text l.file), ("valid", .bool l.valid),
  ("error", optionText l.error), ("description", optionText l.description)]

end Listing

/-- The entry of a file. A file that is no workflow has one with the failure. -/
def listing (f : Files) (p : PathName) : Except Fault Listing :=
  match load f p with
  | .ok w => .ok ⟨w.name, p.display, true, none, w.description⟩
  | .error (.failure e) =>
    if e.kind = .validation then .ok ⟨p.stem, p.display, false, some e.message, none⟩
    else .error (.failure e)
  | .error e => .error e

/-- The entries without those whose name came before. -/
def firstOfName : List Listing → List Listing
  | [] => []
  | l :: rest => l :: (firstOfName rest).filter (·.name != l.name)

def list (f : Files) (dirs : List String) : Except Fault (List Listing) := do
  return firstOfName (← (← files f dirs).mapM (listing f))

/-- Whether the document of a file has a name; a file without a document has none. -/
def isNamed (f : Files) (name : String) (p : PathName) : Except Fault Bool :=
  match document f p with
  | .ok doc => .ok (match doc.get? "name" with
    | some (.text n) => n == name
    | _ => false)
  | .error e => if isInvalid e then .ok false else .error e

def firstNamed (f : Files) (name : String) : List PathName → Except Fault (Option PathName)
  | [] => .ok none
  | p :: rest => do if ← isNamed f name p then return some p else firstNamed f name rest

/-- The file that defines a workflow: the first with the name as its stem, else in its document. -/
def find? (f : Files) (dirs : List String) (name : String) : Except Fault (Option PathName) := do
  let ps ← files f dirs
  match ps.find? (·.stem == name) with
  | some p => return some p
  | none => firstNamed f name ps

def byName? (f : Files) (dirs : List String) (name : String) : Except Fault (Option Workflow) := do
  match ← find? f dirs name with
  | some p => return some (← load f p)
  | none => return none

def notFound (name : String) : Fault :=
  .failure {
    kind := .workflowNotFound
    message := "Workflow not found: " ++ name
    context := { workflow := some name } }

def get (f : Files) (dirs : List String) (name : String) : Except Fault Workflow := do
  match ← byName? f dirs name with
  | some w => return w
  | none => throw (notFound name)

/-- The file that a path or a name means; a path needs the suffix of a workflow file. -/
def target (f : Files) (dirs : List String) (nameOrPath : String) : Except Fault PathName := do
  let p ← (f.expandHome (.ofText nameOrPath)).mapError .incident
  let direct ←
    if suffixes.contains p.suffix then (f.isFile p).mapError .incident else pure false
  if direct then return p
  match ← find? f dirs nameOrPath with
  | some q => return q
  | none => throw (notFound nameOrPath)

/-- The report about a workflow file; one without a document has a single problem. -/
def validate (f : Files) (dirs : List String) (nameOrPath : String) : Except Fault Report := do
  let p ← target f dirs nameOrPath
  match document f p with
  | .ok doc => Report.ofValue doc
  | .error (.failure e) =>
    if e.kind = .validation then
      return { problems := [⟨e.message, "Fix the YAML syntax first", .null⟩] }
    else throw (.failure e)
  | .error e => throw e

end Runbook.Library
