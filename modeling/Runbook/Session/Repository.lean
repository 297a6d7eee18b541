import Runbook.Json.Printer
import Runbook.Json.Reader
import Runbook.Session.State
import Runbook.Session.Store

/-! Saved sessions: one JSON file for each, under the name of its workflow and its id. A file that does not
hold the session it is named for is corrupt. -/

namespace Runbook

open Text

namespace Repository

/-- The file of a session as text; an integer of too many digits cannot be written. -/
def fileText (s : Session) : Except Fault String := do
  let doc ← s.toValue
  match Json.pretty? doc with
  | some text => return text
  | none => throw (.ofKind .refusedValue (Json.Fail.message "" .hugeInteger))

/-- Saves a session in place of what was saved before. -/
def save (store : Store) (s : Session) : Act Files Unit := do
  let path ← Act.ofExcept s.key.path
  let text ← Act.ofExcept (fileText s)
  store.write path (Utf8.encode text)

def stateFailure (key : SessionKey) (message : String) (workflow cause : Option String) : Failure where
  kind := .state
  message
  context := { workflow, session := some key.display }
  cause

def corrupt (key : SessionKey) (reason : String) (cause : Option String) : Fault :=
  .failure <| stateFailure key ("Corrupt state file for session " ++ key.display ++ ": " ++ reason)
    (some key.workflow) cause

def notFound (key : SessionKey) (workflow cause : Option String) : Failure :=
  { stateFailure key ("State file not found for session " ++ key.display) workflow cause with
    kind := .sessionNotFound }

/-- The fault of a file that could not be read. -/
def unreadable (key : SessionKey) (e : Fault) : Fault :=
  match e with
  | .incident i =>
    if i.kind = .fileMissing then
      .failure (notFound key (some key.workflow) (some i.kind.label))
    else if i.kind.isSystem then
      .failure <| stateFailure key
        ("Cannot read state file for session " ++ key.display ++ ": " ++ i.text) none
        (some i.kind.label)
    else e
  | e => e

/-- The ways in which bytes fail to be a session. -/
inductive Damage where
  | notText (e : Utf8.Error)
  | notJson (message : String)
  | hugeInteger
  | notSession (errors : List FieldError)

/-- A session from the bytes of its file. -/
def decode (now : String) (bytes : List UInt8) : Except Damage Session :=
  match Utf8.decode bytes with
  | .error e => .error (.notText e)
  | .ok text =>
    match Json.parse text with
    | .error .hugeInteger => .error .hugeInteger
    | .error e => .error (.notJson (e.message text))
    | .ok doc =>
      match Session.ofValue now doc with
      | .ok s => .ok s
      | .bad errors => .error (.notSession errors)

def Damage.fault (key : SessionKey) : Damage → Fault
  | .notText e => corrupt key e.message (some (IncidentKind.label .textDecoding))
  | .notJson message => corrupt key message (some (IncidentKind.label .json))
  | .hugeInteger => .ofKind .refusedValue (Json.Fail.message "" .hugeInteger)
  | .notSession errors =>
    corrupt key s!"does not match the state schema ({errors.length} errors)"
      (some (IncidentKind.label .schema))

/-- Whether a session belongs under a key: equal ids, and names of one directory. -/
def belongs (s : Session) (key : SessionKey) : Bool :=
  s.id == key.id && Naming.safeName s.name == Naming.safeName key.workflow

def load (store : Store) (f : Files) (now : String) (key : SessionKey) : Except Fault Session := do
  let path ← key.path
  let bytes ← (store.read f path).mapError (unreadable key)
  let s ← (decode now bytes).mapError (·.fault key)
  if belongs s key then return s
  else throw (corrupt key ("file holds session " ++ s.key.display) none)

def delete (store : Store) (key : SessionKey) : Act Files Bool := do
  store.delete (← Act.ofExcept key.path)

/-- A session of the listing; a file that holds none is passed over. -/
def listed (store : Store) (f : Files) (now : String) (path : String) :
    Except Fault (Option Session) :=
  match store.read f path with
  | .error (.incident i) => if i.kind.isSystem then .ok none else .error (.incident i)
  | .error e => .error e
  | .ok bytes =>
    match decode now bytes with
    | .ok s => .ok (some s)
    | .error .hugeInteger => .error (Damage.fault ⟨"", ""⟩ .hugeInteger)
    | .error _ => .ok none

/-- The sessions, the one updated last first. -/
def newestFirst (ss : List Session) : List Session :=
  ss.mergeSort fun a b => decide (b.updatedAt ≤ a.updatedAt)

/-- The saved sessions of a workflow, or of all. -/
def list (store : Store) (f : Files) (now : String) (workflow : Option String) :
    Except Fault (List Session) := do
  let name := workflow.filter (!·.isEmpty)
  let paths ← store.keys f ((name.map Naming.safeName).getD "") SessionKey.fileSuffix
  let found ← paths.mapM (listed store f now)
  let sessions := found.filterMap id
  return newestFirst (match name with
    | some n => sessions.filter (·.name == n)
    | none => sessions)

/-- A session that has not begun: the variables given stand over those of the workflow. -/
def initial (w : Workflow) (given : Bindings) (id now : String) : Session where
  name := w.name
  id
  currentStep := w.steps.head?.map (·.id)
  «variables» := w.variables.update given
  createdAt := now
  updatedAt := now

end Repository

end Runbook
