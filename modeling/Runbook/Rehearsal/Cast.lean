import Runbook.Application
import Runbook.Rehearsal.Script

/-! Partners that do what their scripts say. -/

namespace Runbook.Rehearsal

open Text

abbrev Stage := World Cast

def change (f : Cast → Cast) : Act Stage Unit := Act.change fun w => { w with partners := f w.partners }

def cast : Act Stage Cast := Act.view (·.partners)

def note (n : Note) : Act Stage Unit := change fun c => { c with notes := n :: c.notes }

/-- The notes so far, which are taken away. -/
def takeNotes (w : Stage) : List Note × Stage :=
  (w.partners.notes.reverse, { w with partners := { w.partners with notes := [] } })

def refuse : Option Fault → Act Stage Unit
  | some e => throw e
  | none => pure ()

/-! ## Commands -/

def terminate : Act Stage Unit := note .terminate

def textOf : Command → String
  | .line s => s
  | .words ws => joinWith " " ws

/-- The cancellation and the signal of a rule, as far as they reach the operation under way. -/
def disturb (r : Rule) : Act Stage Unit := do
  match r.cancel with
  | some reason =>
    if (← cast).hasToken then Act.change fun w => { w with token := w.token.cancel reason }
  | none => pure ()
  match r.signal with
  | some name => if (← cast).signals then World.interrupt terminate name
  | none => pure ()

def execute (c : Command) (dir : Option String) (timeout : Binary64) : Act Stage ProcessResult := do
  note (.execute c dir timeout)
  match takeRule? (textOf c) (← cast).rules with
  | none => return { stdout := "ok\n" }
  | some (r, rules) =>
    change ({ · with rules })
    disturb r
    Act.ofExcept r.result

def runner : Runner Stage where
  execute := execute
  terminate := terminate

/-! ## Answers -/

def setProvider (provider : Provider) : Act Stage Unit := do
  note (.setProvider provider)
  change ({ · with provider })

def chat (prompt : String) : Act Stage String := do
  note (.chat prompt (← cast).provider)
  match (← cast).replies with
  | [] => return "echo: " ++ prompt
  | reply :: rest =>
    change ({ · with replies := rest })
    Act.ofExcept reply

def agent : Agent Stage where
  provider := fun w => w.partners.provider
  setProvider := setProvider
  chat := chat

def changeModels (f : ModelScript → ModelScript) : Act Stage Unit :=
  change fun c => { c with models := f c.models }

def generate (messages : List Message) (model : Option String) (warmth : Binary64) :
    Act Stage ModelReply := do
  let name := model.getD ""
  note (.generate messages name warmth)
  changeModels fun s => { s with calls := s.calls + 1 }
  let s := (← cast).models
  match s.replies with
  | [] => return ⟨"reply " ++ String.ofList (natText s.calls), name⟩
  | reply :: rest =>
    changeModels ({ · with replies := rest })
    return ⟨← Act.ofExcept reply, name⟩

def modelService : ModelService Stage where
  generate := generate
  models := do Act.ofExcept (← cast).models.models
  isAvailable := do Act.ofExcept (← cast).models.available

/-- The agent that holds a conversation with the scripted models. -/
def talk (systemPrompt : String) (warmth : Binary64) : Talk Stage where
  conversation := fun w => w.partners.conversation
  replace := fun c w => { w with partners := { w.partners with conversation := c } }
  services := fun _ => modelService
  systemPrompt := systemPrompt
  warmth := warmth

/-! ## Pull requests -/

def changeHosting (f : HostingScript → HostingScript) : Act Stage Unit :=
  change fun c => { c with hosting := f c.hosting }

def createPull (d : PullRequestDraft) : Act Stage PullRequest := do
  note (.create d)
  let h := (← cast).hosting
  refuse h.create
  let pull : PullRequest := {
    number := h.nextNumber
    url := "https://github.com/" ++ d.repo ++ "/pull/" ++ intText h.nextNumber
    title := d.title }
  changeHosting fun h => { h with pulls := h.pulls ++ [pull], nextNumber := h.nextNumber + 1 }
  return pull

def latestPull (repo : String) : Act Stage (Option PullRequest) := do
  note (.latest repo)
  refuse (← cast).hosting.latest
  return (← cast).hosting.pulls.getLast?

def mergePull (repo : String) (number : Int) : Act Stage Value := do
  note (.merge repo number)
  refuse (← cast).hosting.merge
  changeHosting fun h => { h with pulls := h.pulls.filter (·.number != number) }
  return (← cast).hosting.payload

def hosting : Hosting Stage where
  create := createPull
  latest := latestPull
  merge := mergePull

/-- Every request gets the next reply, and an empty document when none is left. -/
def transport : Http.Transport Stage := fun r => do
  change fun c => { c with requests := r :: c.requests }
  match (← cast).responses with
  | [] => return { content := Utf8.encode "\x7b\x7d" }
  | reply :: rest =>
    change ({ · with responses := rest })
    Act.ofExcept reply

/-! ## The rest of the world -/

def offerModel (model : String) (w : Stage) : Stage :=
  let c := w.partners
  if c.offered.contains model then w
  else { w with partners := { c with offered := c.offered ++ [model] } }

/-- Ids are numbered. -/
def freshId : Act Stage String := do
  change fun c => { c with ids := c.ids + 1 }
  return "gen" ++ String.ofList (padLeft 9 '0' (natText (← cast).ids))

/-- The models of the service are offered when the application starts. -/
def startUp (provider : String) (w : Stage) : Stage :=
  match offeredModels modelService w with
  | (.ok names, w) => names.foldl (fun w n => offerModel (provider ++ ":" ++ n) w) w
  | (.error _, w) => w

/-- When the application ends, commands are stopped and the model service is closed. -/
def shutDown (hasRunner canClose : Bool) : Act Stage Unit := do
  if hasRunner then terminate
  if canClose then note .close

end Runbook.Rehearsal
