import Runbook.Execution.Engine
import Runbook.Session.Repository
import Runbook.Session.Summary
import Runbook.Workflow.Library

/-! The life of sessions: they are started from a workflow, go on, are looked at and are given up. -/

namespace Runbook

/-- A token by which the run of a session is asked to stop between two steps. The first reason counts. -/
structure Token where
  cancelled : Bool := false
  reason : Option String := none
deriving DecidableEq, Repr

namespace Token

def defaultReason : String := "cancelled"

def cancel (t : Token) (reason : String) : Token :=
  if t.cancelled then t else ⟨true, some reason⟩

theorem cancel_cancelled (t : Token) (reason : String) : (t.cancel reason).cancelled = true := by
  cases h : t.cancelled <;> simp [cancel, h]

theorem cancel_cancel (t : Token) (r r' : String) : (t.cancel r).cancel r' = t.cancel r := by
  cases h : t.cancelled <;> simp [cancel, h]

end Token

/-- The files, the token of the operation under way, the sessions saved so far with the newest first, and the
rest of the world, which is the collaborators' own. -/
structure World (γ : Type) where
  files : Files
  token : Token := {}
  saves : List Session := []
  partners : γ

namespace World

variable {γ : Type} {α : Type}

/-- An operation on the files alone. -/
def onFiles (act : Act Files α) : Act (World γ) α :=
  act.within (·.files) fun f w => { w with files := f }

/-- A signal asks the operation under way to stop, and stops the commands that run. -/
def interrupt (stop : Act (World γ) Unit) (signal : String) : Act (World γ) Unit := do
  Act.change fun w => { w with token := w.token.cancel signal }
  stop

/-- Whether there is a file for a step to find. -/
def fileExists (dir : Option String) (path : String) : Act (World γ) Bool := fun w =>
  ((w.files.isThereFrom dir path).mapError .incident, w)

end World

/-- Where sessions are stored, where workflows are looked for, and what their steps work with. An operation
is asked to stop by its token. -/
structure Manager (γ : Type) where
  store : Store
  directories : List String
  services : Services (World γ)
  maxIterations : Int
  newId : Act (World γ) String
  cancelled : World γ → Bool := fun w => w.token.cancelled

/-- A session as an operation leaves it, with its workflow. -/
structure Standing where
  workflow : Workflow
  session : Session

namespace Standing

/-- The question at which the session waits. -/
def inputRequest (s : Standing) : Option InputRequest :=
  if s.session.paused then
    match Engine.stepOf? s.workflow s.session with
    | some step =>
      match (step.fill s.session.variables).task with
      | .interactive q => some ⟨step.id, q⟩
      | _ => none
    | none => none
  else none

def toValue (s : Standing) : Except Fault Value := do
  let state ← s.session.toValue
  return .obj [
    ("session", .text s.session.key.display), ("workflow", .text s.workflow.name),
    ("status", .text s.session.status.name), ("state", state),
    ("inputRequest", (s.inputRequest.map InputRequest.toValue).getD .null)]

end Standing

namespace Manager

variable {γ : Type}

/-- A session is saved in its file, and in the record of what was saved. -/
def save (m : Manager γ) (s : Session) : Act (World γ) Unit := do
  World.onFiles (Repository.save m.store s)
  Act.change fun w => { w with saves := s :: w.saves }

def engine (m : Manager γ) (now : String) : Engine (World γ) where
  services := m.services
  save := m.save
  cancelled := m.cancelled
  now := now
  maxIterations := m.maxIterations

/-- What the files say. -/
def ofFiles {α : Type} (read : Files → Except Fault α) : Act (World γ) α := fun w =>
  (read w.files, w)

def loadSession (m : Manager γ) (now : String) (key : SessionKey) : Act (World γ) Session :=
  ofFiles fun f => Repository.load m.store f now key

def get (m : Manager γ) (name : String) : Act (World γ) Workflow :=
  ofFiles fun f => Library.get f m.directories name

def alreadyThere (w : Workflow) (key : SessionKey) : Fault :=
  .failure {
    kind := .state
    message := "Session " ++ key.display ++ " already exists"
    hints := ["Resume the existing session or pick another session id"]
    context := { workflow := some w.name, session := some key.display } }

/-- Refuses the key of a session that is there, or that cannot be looked at. -/
def checkFree (m : Manager γ) (now : String) (w : Workflow) (key : SessionKey) :
    Act (World γ) Unit := do
  match ← (m.loadSession now key).observe with
  | .ok _ => throw (alreadyThere w key)
  | .error (.failure f) => if f.kind = .sessionNotFound then return else throw (.failure f)
  | .error f => throw f

/-- The id asked for, else a new one. -/
def idOr (m : Manager γ) (id : Option String) : Act (World γ) String :=
  match id with
  | some i => if i.isEmpty then m.newId else pure i
  | none => m.newId

/-- Saves a session that has not begun and runs it. -/
def launch (m : Manager γ) (now : String) (w : Workflow) (given : Bindings) (id : String)
    (token : Token) : Act (World γ) Standing := do
  let s := Repository.initial w given id now
  discard (Act.ofExcept s.key.path)
  m.save s
  Act.change fun world => { world with token }
  return ⟨w, ← (m.engine now).run w s⟩

/-- Starts a session of a workflow under a key that is free. -/
def start (m : Manager γ) (now : String) (w : Workflow) (given : Bindings)
    (id : Option String) (token : Token) : Act (World γ) Standing := do
  match id with
  | some i => m.checkFree now w ⟨w.name, i⟩
  | none => pure ()
  m.launch now w given (← m.idOr id) token

/-- Starts a session of the workflow with a name. -/
def startNamed (m : Manager γ) (now : String) (name : String) (given : Bindings)
    (id : Option String) (token : Token) : Act (World γ) Standing := do
  m.start now (← m.get name) given id token

/-- A session key as it is written. -/
def keyOf (text : String) : Except Fault SessionKey :=
  match SessionKey.parse? text with
  | some k => .ok k
  | none =>
    .error <| .failure {
      kind := .state
      message := SessionKey.malformed text
      hints := ["Session keys look like <workflow>/<session id>"] }

/-- Goes on with a saved session of the workflow that now has its name. -/
def resume (m : Manager γ) (now : String) (key : SessionKey) (answer : Option Value)
    (token : Token) : Act (World γ) Standing := do
  let s ← m.loadSession now key
  let w ← m.get s.name
  Act.change fun world => { world with token }
  return ⟨w, ← (m.engine now).resume w s answer⟩

def summary (m : Manager γ) (now : String) (key : SessionKey) : Act (World γ) Summary := do
  let s ← m.loadSession now key
  let w ← m.get s.name
  Act.ofExcept ((s.summary w).toExcept.mapError .schema)

def sessions (m : Manager γ) (now : String) (name : Option String) :
    Act (World γ) (List Session) :=
  ofFiles fun f => Repository.list m.store f now name

/-- Deletes the file of a session. -/
def delete (m : Manager γ) (key : SessionKey) : Act (World γ) Bool :=
  World.onFiles (Repository.delete m.store key)

/-- Gives up a session that is there. -/
def abandon (m : Manager γ) (key : SessionKey) : Act (World γ) Unit := do
  if !(← m.delete key) then throw (.failure (Repository.notFound key none none))

end Manager

end Runbook
