import Runbook.Agent.Model
import Runbook.Agent.Reasoning
import Runbook.Execution.Services

/-! A conversation with language models. It goes on when the provider changes. Only exchanges that
succeeded are part of it, and only the last of them. -/

namespace Runbook

/-- The exchanges so far, each a message of the user and one of the assistant, and the names of the
services that were asked for, in order. -/
structure Conversation where
  provider : Provider
  history : List Message := []
  asked : List String := []
deriving DecidableEq, Repr

namespace Conversation

/-- The most messages that are kept. -/
def maxHistory : Nat := 40

/-- How often a request is sent before its failure counts. -/
def attempts : Nat := 3

def systemPrompt : String :=
  "You are a coding assistant running as one step of an automated development workflow. " ++
  "Answer the request directly; your reply may be fed to later steps."

def warmth : Binary64 := .ofRatio false 7 10

/-- The last messages, as many as are kept. -/
def keepLast (ms : List Message) : List Message := ms.drop (ms.length - maxHistory)

/-- Adds an exchange. -/
def add (c : Conversation) (prompt reply : String) : Conversation :=
  { c with history := keepLast (c.history ++ [⟨"user", prompt⟩, ⟨"assistant", reply⟩]) }

def reset (c : Conversation) : Conversation := { c with history := [] }

def noteAsked (c : Conversation) : Conversation :=
  if c.asked.contains c.provider.name then c
  else { c with asked := c.asked ++ [c.provider.name] }

end Conversation

/-- Incidents after which a request is worth another attempt. -/
def IncidentKind.isPassing (k : IncidentKind) : Bool :=
  k = .timeout || k.isConnection || k.isTransport

/-- Tries an operation again while it fails for a while only, so often at most. -/
def Act.retried {σ α : Type} (act : Act σ α) : Nat → Act σ α
  | 0 => act
  | again + 1 => do
    match ← act.observe with
    | .ok a => return a
    | .error (.incident i) => if i.kind.isPassing then act.retried again else throw (.incident i)
    | .error e => throw e

/-- An agent that holds a conversation, where in the world it is found, and its model services by the names
of their providers. -/
structure Talk (σ : Type) where
  conversation : σ → Conversation
  replace : Conversation → σ → σ
  services : String → ModelService σ
  systemPrompt : String := Conversation.systemPrompt
  warmth : Binary64 := Conversation.warmth

namespace Talk

variable {σ : Type}

/-- The failure of an agent whose provider did not answer. -/
def noAnswer (p : Provider) (e : Fault) : Fault :=
  match e with
  | .incident i =>
    if i.kind = .timeout ∨ i.kind.isTransportTimeout then
      .ofKind .agentTimeout (p.display ++ " did not answer in time")
    else if i.kind.isTransport ∨ i.kind.isConnection then
      .ofKind .agentUnavailable (p.display ++ " is unreachable: " ++ i.text)
    else e
  | e => e

def update (t : Talk σ) (f : Conversation → Conversation) : Act σ Unit :=
  Act.change fun s => t.replace (f (t.conversation s)) s

/-- Answers a prompt with the reply of the model, without its reasoning. -/
def chat (t : Talk σ) (prompt : String) : Act σ String := do
  t.update (·.noteAsked)
  let c ← Act.view t.conversation
  let messages := ⟨"system", t.systemPrompt⟩ :: c.history ++ [⟨"user", prompt⟩]
  let ask := (t.services c.provider.name).generate messages (some c.provider.model) t.warmth
  let reply ← (ask.retried (Conversation.attempts - 1)).reword (noAnswer c.provider)
  let content := Reasoning.strip reply.content
  t.update (·.add prompt content)
  return content

def setProvider (t : Talk σ) (p : Provider) : Act σ Unit := t.update ({ · with provider := p })

def reset (t : Talk σ) : Act σ Unit := t.update (·.reset)

/-- The agent of the steps. -/
def agent (t : Talk σ) : Agent σ where
  provider := fun s => (t.conversation s).provider
  setProvider := t.setProvider
  chat := t.chat

end Talk

/-- The models on offer, none where the service does not answer the question. -/
def offeredModels {σ : Type} (service : ModelService σ) : Act σ (List String) := fun s =>
  match service.models s with
  | (.ok names, t) => (.ok names, t)
  | (.error e, t) =>
    match e with
    | .incident i => if i.kind.isAbrupt then (.error e, t) else (.ok [], t)
    | _ => (.ok [], t)

end Runbook
