import Runbook.Agent.Completions
import Runbook.Agent.Ollama
import Runbook.Hosting.GitHub

/-! The settings of the application, in sections. Each setting has a value of its own where no file and no
variable of the environment gives one. -/

namespace Runbook

structure ServerSettings where
  host : String := "127.0.0.1"
  port : Int := 8000

/-- The provider and the model that steps talk to unless they choose others. -/
structure ModelSettings where
  provider : String := "ollama"
  model : String := "qwen2.5-coder:7b"

structure OllamaSettings where
  host : String := "http://localhost:11434"
  timeout : Int := 120
  contextLength : Option Int := none
  predictLength : Option Int := none

structure CompletionsSettings where
  baseUrl : String := "http://localhost:1234/v1"
  apiKey : String := ""
  timeout : Int := 120
  maxTokens : Option Int := none

/-- Workflows are looked for in the directories in order. At most `maxIterations` jumps lead backward in a
session. -/
structure WorkflowSettings where
  directories : List String := ["~/.codi/workflows", ".codi/workflows", "workflows"]
  stateDirectory : String := "~/.codi/workflows/state"
  maxIterations : Int := 1000
  shellTimeout : Binary64 := .ofRatio false 300 1
  workDir : Option String := none

structure GitHubSettings where
  apiUrl : String := "https://api.github.com"
  token : String := ""
  repository : Option String := none
  timeout : Int := 30

structure SecuritySettings where
  requestsPerMinute : Int := 100
  origins : List String := ["http://localhost:5173"]

structure Settings where
  server : ServerSettings := {}
  model : ModelSettings := {}
  ollama : OllamaSettings := {}
  completions : CompletionsSettings := {}
  workflow : WorkflowSettings := {}
  gitHub : GitHubSettings := {}
  security : SecuritySettings := {}
  logLevel : String := "INFO"
  logFile : String := ""
  logMegabytes : Int := 5
  logBackups : Int := 3

namespace OllamaSettings

def server (s : OllamaSettings) (defaultModel : String) : Ollama where
  host := s.host
  contextLength := s.contextLength
  predictLength := s.predictLength
  defaultModel := defaultModel

end OllamaSettings

namespace CompletionsSettings

def server (s : CompletionsSettings) (defaultModel : String) : Completions where
  baseUrl := s.baseUrl
  apiKey := s.apiKey
  maxTokens := s.maxTokens
  defaultModel := defaultModel

end CompletionsSettings

namespace Settings

def textList (xs : List String) : Value := .list (xs.map .text)

/-- The settings as a document. -/
def toValue (s : Settings) : Value := .obj [
  ("server", .obj [("host", .text s.server.host), ("port", .int s.server.port)]),
  ("llm", .obj [("provider", .text s.model.provider), ("model", .text s.model.model)]),
  ("ollama", .obj [
    ("host", .text s.ollama.host), ("timeout", .int s.ollama.timeout),
    ("num_ctx", optionInt s.ollama.contextLength), ("num_predict", optionInt s.ollama.predictLength)]),
  ("openai_compatible", .obj [
    ("base_url", .text s.completions.baseUrl), ("api_key", .text s.completions.apiKey),
    ("timeout", .int s.completions.timeout), ("max_tokens", optionInt s.completions.maxTokens)]),
  ("workflow", .obj [
    ("directories", textList s.workflow.directories), ("state_dir", .text s.workflow.stateDirectory),
    ("max_iterations", .int s.workflow.maxIterations),
    ("shell_timeout", .num s.workflow.shellTimeout), ("working_dir", optionText s.workflow.workDir)]),
  ("github", .obj [
    ("api_url", .text s.gitHub.apiUrl), ("token", .text s.gitHub.token),
    ("repository", optionText s.gitHub.repository), ("timeout", .int s.gitHub.timeout)]),
  ("security", .obj [
    ("rate_limit_requests_per_minute", .int s.security.requestsPerMinute),
    ("cors_origins", textList s.security.origins)]),
  ("log_level", .text s.logLevel), ("log_file", .text s.logFile),
  ("log_rotation_max_mb", .int s.logMegabytes), ("log_rotation_backups", .int s.logBackups)]

end Settings

end Runbook
