import Runbook.Settings.Basic

/-! Settings from a document. What a section does not name keeps its value; names that are not known are
passed over. -/

namespace Runbook

open Schema

/-- An integer that is not below a bound. -/
def Schema.intAtLeast (bound : Int) (v : Value) : Checked Int :=
  match int v with
  | .ok n =>
    if bound ≤ n then .ok n
    else
      wrong "greater_than_equal"
        ("Input should be greater than or equal to " ++ Text.intText bound)
  | .bad es => .bad es

/-- The fields of a section, which is a map. -/
def Schema.fieldsOf {α : Type} (name : String) (read : Value → Checked α) (v : Value) : Checked α :=
  if v.isMap then read v
  else wrong "model_type" ("Input should be a valid dictionary or instance of " ++ name)

namespace ServerSettings

def ofFields (v : Value) : Checked ServerSettings :=
  let own : ServerSettings := {}
  ((withDefault v ["host"] text own.host).map ServerSettings.mk).ap
    (withDefault v ["port"] int own.port)

end ServerSettings

namespace ModelSettings

def ofFields (v : Value) : Checked ModelSettings :=
  let own : ModelSettings := {}
  ((withDefault v ["provider"] text own.provider).map ModelSettings.mk).ap
    (withDefault v ["model"] text own.model)

end ModelSettings

namespace OllamaSettings

def ofFields (v : Value) : Checked OllamaSettings :=
  let own : OllamaSettings := {}
  ((((withDefault v ["host"] text own.host).map OllamaSettings.mk).ap
    (withDefault v ["timeout"] int own.timeout)).ap
    (maybe v ["num_ctx"] int)).ap
    (maybe v ["num_predict"] int)

end OllamaSettings

namespace CompletionsSettings

def ofFields (v : Value) : Checked CompletionsSettings :=
  let own : CompletionsSettings := {}
  ((((withDefault v ["base_url"] text own.baseUrl).map CompletionsSettings.mk).ap
    (withDefault v ["api_key"] text own.apiKey)).ap
    (withDefault v ["timeout"] int own.timeout)).ap
    (maybe v ["max_tokens"] int)

end CompletionsSettings

namespace WorkflowSettings

def ofFields (v : Value) : Checked WorkflowSettings :=
  let own : WorkflowSettings := {}
  (((((withDefault v ["directories"] (list text) own.directories).map WorkflowSettings.mk).ap
    (withDefault v ["state_dir"] text own.stateDirectory)).ap
    (withDefault v ["max_iterations"] (intAtLeast 1) own.maxIterations)).ap
    (withDefault v ["shell_timeout"] number own.shellTimeout)).ap
    (maybe v ["working_dir"] text)

end WorkflowSettings

namespace GitHubSettings

def ofFields (v : Value) : Checked GitHubSettings :=
  let own : GitHubSettings := {}
  ((((withDefault v ["api_url"] text own.apiUrl).map GitHubSettings.mk).ap
    (withDefault v ["token"] text own.token)).ap
    (maybe v ["repository"] text)).ap
    (withDefault v ["timeout"] int own.timeout)

end GitHubSettings

namespace SecuritySettings

def ofFields (v : Value) : Checked SecuritySettings :=
  let own : SecuritySettings := {}
  ((withDefault v ["rate_limit_requests_per_minute"] int own.requestsPerMinute).map
    SecuritySettings.mk).ap
    (withDefault v ["cors_origins"] (list text) own.origins)

end SecuritySettings

namespace Settings

def ofFields (v : Value) : Checked Settings :=
  let own : Settings := {}
  (((((((((((withDefault v ["server"]
    (fieldsOf "ServerConfig" ServerSettings.ofFields) own.server).map Settings.mk).ap
    (withDefault v ["llm"] (fieldsOf "LLMConfig" ModelSettings.ofFields) own.model)).ap
    (withDefault v ["ollama"] (fieldsOf "OllamaConfig" OllamaSettings.ofFields) own.ollama)).ap
    (withDefault v ["openai_compatible"]
      (fieldsOf "OpenAICompatibleConfig" CompletionsSettings.ofFields) own.completions)).ap
    (withDefault v ["workflow"]
      (fieldsOf "WorkflowConfig" WorkflowSettings.ofFields) own.workflow)).ap
    (withDefault v ["github"] (fieldsOf "GitHubConfig" GitHubSettings.ofFields) own.gitHub)).ap
    (withDefault v ["security"]
      (fieldsOf "SecurityConfig" SecuritySettings.ofFields) own.security)).ap
    (withDefault v ["log_level"] text own.logLevel)).ap
    (withDefault v ["log_file"] text own.logFile)).ap
    (withDefault v ["log_rotation_max_mb"] int own.logMegabytes)).ap
    (withDefault v ["log_rotation_backups"] int own.logBackups)

/-- Settings from a document of sections. -/
def ofValue (v : Value) : Checked Settings := fieldsOf "AppConfig" ofFields v

end Settings

end Runbook
