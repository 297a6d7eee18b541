import Runbook.Agent.Conversation
import Runbook.Manager
import Runbook.Settings.Load

/-! The application that settings describe: which services it talks to, and the manager of its sessions. -/

namespace Runbook

/-- The servers of language models. -/
inductive ModelServer where
  | ollama (o : Ollama)
  | completions (c : Completions)
deriving DecidableEq, Repr

namespace ModelServer

def defaultModel : ModelServer → String
  | .ollama o => o.defaultModel
  | .completions c => c.defaultModel

def service {σ : Type} (s : ModelServer) (send : Http.Transport σ) : ModelService σ :=
  match s with
  | .ollama o => o.service send
  | .completions c => c.service send

end ModelServer

namespace Settings

/-- The server of a provider; a name that is not known means Ollama. -/
def serverOf (s : Settings) (provider : String) : ModelServer :=
  if provider == "lm_studio" || provider == "openai_compatible" then
    .completions (s.completions.server s.model.model)
  else .ollama (s.ollama.server s.model.model)

/-- The provider that the agent begins with. -/
def provider (s : Settings) : Provider := ⟨s.model.provider, s.model.model⟩

/-- Models that are offered from the start. -/
def firstModels (s : Settings) : List String := [s.provider.display]

/-- GitHub, if there is a token for it. -/
def gitHub? (s : Settings) : Option GitHub :=
  if s.gitHub.token.isEmpty then none else some ⟨s.gitHub.token, s.gitHub.apiUrl⟩

/-- The conversation of the agent, over the services of the providers. -/
def conversation (s : Settings) : Conversation := { provider := s.provider }

/-- What the steps work with, besides the settings. -/
structure Partners (σ : Type) where
  runner : Option (Runner σ)
  agent : Option (Agent σ)
  hosting : Option (Hosting σ)
  offerModel : String → σ → σ

variable {γ : Type}

def services (s : Settings) (p : Partners (World γ)) : Services (World γ) where
  runner := p.runner
  agent := p.agent
  hosting := p.hosting
  offerModel := p.offerModel
  fileExists := World.fileExists
  workDir := s.workflow.workDir
  shellTimeout := s.workflow.shellTimeout
  defaultRepo := s.gitHub.repository

def manager (s : Settings) (store : Store) (p : Partners (World γ))
    (newId : Act (World γ) String) : Manager γ where
  store := store
  directories := s.workflow.directories
  services := s.services p
  maxIterations := s.workflow.maxIterations
  newId := newId

end Settings

end Runbook
