import Runbook.Settings.Form
import Runbook.Toml.Reader
import Runbook.Unicode.Uppercase

/-! Settings from two files and the environment. A variable of the environment goes before the second
file, the second file before the first, and each of them before the settings' own values. -/

namespace Runbook.Settings

open Text

/-- The variables of the environment. -/
abbrev Environment := String → Option String

/-- The warnings so far, with the newest first. -/
abbrev Loading (α : Type) := Act (List String) α

/-- Sections that are tables in both documents are merged, anything else is replaced. -/
def merge (base more : List (Value × Value)) : List (Value × Value) :=
  more.foldl (fun acc (k, v) =>
    match k with
    | .text name =>
      match Value.lookup? name acc, v with
      | some (.map old), .map new => Json.insertMember acc name (.map (updated old new))
      | _, _ => Json.insertMember acc name v
    | _ => acc) base
where
  /-- The entries of a table with those of another over them. -/
  updated (old new : List (Value × Value)) : List (Value × Value) :=
    new.foldl (fun acc (k, v) =>
      match k with
      | .text name => Json.insertMember acc name v
      | _ => acc) old

def wrongType {α : Type} (v : Value) : Except Fault α :=
  .error (.ofKind .type ("'" ++ v.typeName ++ "' object does not support item assignment"))

/-- Sets a name in a section, which is made if it is not there. -/
def setIn (doc : List (Value × Value)) (table name : String) (v : Value) :
    Except Fault (List (Value × Value)) :=
  match (Value.lookup? table doc).getD (.map []) with
  | .map es => .ok (Json.insertMember doc table (.map (Json.insertMember es name v)))
  | other => wrongType other

/-- A variable of the environment that is set to something. -/
def given (env : Environment) (source : String) : Option String :=
  (env source).filter (!·.isEmpty)

/-- A variable of the environment, and what it sets. An integer is set only by a text that spells one. -/
structure Override where
  source : String
  table : String
  name : String
  read : String → Option Value

def asText (s : String) : Option Value := some (.text s)

def asTrimmed (s : String) : Option Value := some (.text (trim s))

/-- The items between the separators, without the white space around them. -/
def asItems (separator : Char) (keepEmpty : Bool) (s : String) : Option Value :=
  let parts := (splitOn s separator).map trim
  some (.list ((if keepEmpty then parts else parts.filter (!·.isEmpty)).map .text))

def asUpper (s : String) : Option Value := some (.text (Unicode.toUpper s))

def asInteger (s : String) : Option Value := (Decimal.readInt? s).map .int

def overrides : List Override := [
  ⟨"LLM_PROVIDER", "llm", "provider", asText⟩,
  ⟨"LLM_MODEL", "llm", "model", asText⟩,
  ⟨"OLLAMA_HOST", "ollama", "host", asText⟩,
  ⟨"OPENAI_BASE_URL", "openai_compatible", "base_url", asText⟩,
  ⟨"PORT", "server", "port", asInteger⟩,
  ⟨"LOG_LEVEL", "logging", "level", asUpper⟩,
  ⟨"LOG_FILE", "logging", "file", asTrimmed⟩,
  ⟨"CORS_ORIGINS", "security", "cors_origins", asItems ',' true⟩,
  ⟨"RATE_LIMIT_PER_MINUTE", "security", "rate_limit_requests_per_minute", asInteger⟩,
  ⟨"WORKFLOW_DIRS", "workflow", "directories", asItems ':' false⟩,
  ⟨"WORKFLOW_STATE_DIR", "workflow", "state_dir", asTrimmed⟩,
  ⟨"WORKFLOW_MAX_ITERATIONS", "workflow", "max_iterations", asInteger⟩,
  ⟨"GITHUB_TOKEN", "github", "token", asTrimmed⟩,
  ⟨"GITHUB_REPOSITORY", "github", "repository", asTrimmed⟩]

def ignored (source raw : String) : String :=
  "Invalid " ++ source ++ " env value: " ++ quoted raw ++ ", ignoring"

def warn (message : String) : Loading Unit := Act.change (message :: ·)

/-- Sets what a variable gives. One that cannot be read is warned about, unless it is blank. -/
def applyOverride (env : Environment) (o : Override) (doc : List (Value × Value)) :
    Loading (List (Value × Value)) :=
  match given env o.source with
  | none => pure doc
  | some raw =>
    match o.read raw with
    | some v => Act.ofExcept (setIn doc o.table o.name v)
    | none => do
      if !isBlankText raw then warn (ignored o.source raw)
      return doc

def applyAll (env : Environment) : List Override → List (Value × Value) →
    Loading (List (Value × Value))
  | [], doc => pure doc
  | o :: os, doc => do applyAll env os (← applyOverride env o doc)

/-- The entries of a file, none for one that is not there. -/
def entriesOf (file : Option String) : Except Fault (List (Value × Value)) :=
  match file with
  | none => .ok []
  | some text =>
    match Toml.parse text with
    | .ok (.map es) => .ok es
    | .ok _ => .ok []
    | .error _ => .error (.ofKind .toml "")

/-- A section, empty where it is missing or empty of any type. -/
def sectionOf (doc : List (Value × Value)) (name : String) : Except Fault Value :=
  let v := (Value.lookup? name doc).getD .null
  if !v.holds then .ok (.map [])
  else if v.isMap then .ok v
  else .error (.ofKind .type ("argument after ** must be a mapping, not " ++ v.typeName))

def readSection {α : Type} (doc : List (Value × Value)) (name : String)
    (read : Value → Checked α) : Except Fault α := do
  (read (← sectionOf doc name)).toExcept.mapError .schema

/-- The integer that a value stands for: a fraction is cut off, and a text spells an integer. -/
def wholeOf (v : Value) : Except Fault Int :=
  match v with
  | .int n => .ok n
  | .bool b => .ok (if b then 1 else 0)
  | .num .nan => .error (.ofKind .value "cannot convert float NaN to integer")
  | .num (.infinite _) => .error (.ofKind .overflow "cannot convert float infinity to integer")
  | .num x => .ok (x.truncate?.getD 0)
  | .text s =>
    match Decimal.readInt? s with
    | some n => .ok n
    | none => .error (.ofKind .value ("invalid literal for int() with base 10: " ++ quoted s))
  | v => .error (.ofKind .type ("int() argument must not be '" ++ v.typeName ++ "'"))

/-- The name of the log file, which is a text or empty. -/
def logFileOf (v : Value) : Except Fault String :=
  if !v.holds then .ok ""
  else
    match v with
    | .text s => .ok (trim s)
    | v => .error (.ofKind .member ("'" ++ v.typeName ++ "' object has no attribute 'strip'"))

/-- The section about logging, which is looked into before it is checked. -/
def loggingOf (doc : List (Value × Value)) : Except Fault Value :=
  let v := (Value.lookup? "logging" doc).getD .null
  if !v.holds then .ok (.map [])
  else if v.isMap then .ok v
  else .error (.ofKind .member ("'" ++ v.typeName ++ "' object has no attribute 'get'"))

open Schema in
def ofDocument (doc : List (Value × Value)) : Except Fault Settings := do
  let logging ← loggingOf doc
  let server ← readSection doc "server" ServerSettings.ofFields
  let model ← readSection doc "llm" ModelSettings.ofFields
  let ollama ← readSection doc "ollama" OllamaSettings.ofFields
  let completions ← readSection doc "openai_compatible" CompletionsSettings.ofFields
  let workflow ← readSection doc "workflow" WorkflowSettings.ofFields
  let gitHub ← readSection doc "github" GitHubSettings.ofFields
  let security ← readSection doc "security" SecuritySettings.ofFields
  let own : Settings := {}
  let logFile ← logFileOf (logging.field "file")
  let logMegabytes ← wholeOf ((logging.get? "log_rotation_max_mb").getD (.int own.logMegabytes))
  let logBackups ← wholeOf ((logging.get? "log_rotation_backups").getD (.int own.logBackups))
  let level := (text ((logging.get? "level").getD (.text own.logLevel))).below (.name "log_level")
  let logLevel ← level.toExcept.mapError .schema
  return {
    server, model, ollama, completions, workflow, gitHub, security
    logLevel, logFile, logMegabytes, logBackups }

/-- Loads the settings from the default file, the file that stands over it and the environment. -/
def load (first second : Option String) (env : Environment) : Loading Settings := do
  let base ← Act.ofExcept (entriesOf first)
  let more ← Act.ofExcept (entriesOf second)
  let doc ← applyAll env overrides (merge base more)
  Act.ofExcept (ofDocument doc)

end Runbook.Settings
