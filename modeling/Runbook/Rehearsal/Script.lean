import Runbook.Agent.Conversation
import Runbook.Http.Exchange
import Runbook.Manager

/-! Scripts for the partners of a workflow, and notes of what the partners are asked. -/

namespace Runbook.Rehearsal

open Text

/-- What a partner is asked. -/
inductive Note where
  | execute (command : Command) (dir : Option String) (timeout : Binary64)
  | terminate
  | setProvider (p : Provider)
  | chat (prompt : String) (p : Provider)
  | create (d : PullRequestDraft)
  | latest (repo : String)
  | merge (repo : String) (number : Int)
  | generate (messages : List Message) (model : String) (warmth : Binary64)
  | close

namespace Note

def commandValue : Command → Value
  | .line s => .text s
  | .words ws => .list (ws.map .text)

def messageValue (m : Message) : Value := .list [.text m.role, .text m.content]

def toValue : Note → Value
  | .execute c dir timeout => .obj [
    ("execute", commandValue c), ("cwd", optionText dir), ("timeout", .num timeout)]
  | .terminate => .obj [("terminate", .bool true)]
  | .setProvider p => .obj [("setProvider", .text p.display)]
  | .chat prompt p => .obj [("chat", .text prompt), ("provider", .text p.display)]
  | .create d => .obj [("createPr", .obj [
    ("repo", .text d.repo), ("title", .text d.title), ("head", .text d.head), ("base", .text d.base),
    ("body", .text d.body)])]
  | .latest repo => .obj [("latestPr", .text repo)]
  | .merge repo number => .obj [("mergePr", .text repo), ("number", .int number)]
  | .generate messages model warmth => .obj [
    ("generate", .list (messages.map messageValue)), ("model", .text model),
    ("temperature", .num warmth)]
  | .close => .obj [("close", .bool true)]

end Note

/-- What happens to commands with a part in their text: the operation is cancelled or gets a signal, and
then there is a fault or a result. A rule may be used up. -/
structure Rule where
  part : String
  times : Option Int := none
  cancel : Option String := none
  signal : Option String := none
  result : Except Fault ProcessResult

/-- The first rule for a command, and the rules as they are left. -/
def takeRule? (command : String) : List Rule → Option (Rule × List Rule)
  | [] => none
  | r :: rest =>
    if 0 < r.times.getD 1 && hasPart command r.part then
      some (r, { r with times := r.times.map (· - 1) } :: rest)
    else (takeRule? command rest).map fun (found, left) => (found, r :: left)

/-- The answers of the hosting service, and the faults with which it refuses to give them. -/
structure HostingScript where
  pulls : List PullRequest := []
  create : Option Fault := none
  latest : Option Fault := none
  merge : Option Fault := none
  payload : Value := .obj [("merged", .bool true), ("sha", .text "abc123")]
  nextNumber : Int := 42

/-- The answers of a model service. After the replies it tells the number of the call. -/
structure ModelScript where
  replies : List (Except Fault String) := []
  models : Except Fault (List String) := .ok []
  available : Except Fault Bool := .ok true
  calls : Nat := 0

/-- The partners with what is left of their scripts, and with the notes, of which the newest is the first.
`hasToken` and `signals` tell what reaches the operation under way. -/
structure Cast where
  notes : List Note := []
  rules : List Rule := []
  provider : Provider := ⟨"ollama", "base-model"⟩
  replies : List (Except Fault String) := []
  hosting : HostingScript := {}
  models : ModelScript := {}
  responses : List (Except Fault Http.Reply) := []
  requests : List Http.Request := []
  conversation : Conversation := { provider := ⟨"ollama", "base-model"⟩ }
  offered : List String := []
  ids : Nat := 0
  hasToken : Bool := false
  signals : Bool := false

end Runbook.Rehearsal
