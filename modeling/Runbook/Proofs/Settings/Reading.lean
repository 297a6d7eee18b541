import Mathlib.Tactic
import Runbook.Proofs.Schema
import Runbook.Proofs.Toml.Names
import Runbook.Settings.Load

/-! What the settings come to is read entry by entry: each of them from its entry of the document alone. -/

namespace Runbook

namespace Checked

variable {α β : Type}

def result? : Checked α → Option α
  | .ok a => some a
  | .bad _ => none

theorem result?_eq_some_iff {c : Checked α} {a : α} : c.result? = some a ↔ c = .ok a := by
  cases c <;> simp [result?]

theorem mapError_eq_ok_iff {c : Checked α} {f : List FieldError → Fault} {a : α} :
    c.toExcept.mapError f = .ok a ↔ c = .ok a := by
  cases c <;> simp [toExcept, Except.mapError]

end Checked

/-- A part of a record, how it is read from an entry of this name, and what it is without that. -/
structure Field (ρ : Type) where
  Kind : Type
  name : String
  read : Value → Option Kind
  own : Kind
  of : ρ → Kind

namespace Field

variable {ρ α : Type}

def valueOf (f : Field ρ) : Option Value → Option f.Kind
  | none => some f.own
  | some v => f.read v

/-- The part of the record is what the entry of the field gives. -/
def Gives (f : Field ρ) (entry : String → Option Value) (x : ρ) : Prop := f.valueOf (entry f.name) = some (f.of x)

/-- A field that a schema checks. -/
def checked [Inhabited ρ] (name : String) (read : Value → Checked α) (of : ρ → α) : Field ρ :=
  ⟨α, name, fun v => (read v).result?, of default, of⟩

theorem gives_checked_iff [Inhabited ρ] {name : String} {read : Value → Checked α} {of : ρ → α} {v : Value} {x : ρ} :
    (checked name read of).Gives v.get? x ↔ Schema.withDefault v [name] read (of default) = .ok (of x) := by
  unfold Gives Schema.withDefault
  rw [Schema.under?_single]
  cases hget : v.get? name with
  | none => simp [valueOf, checked, hget]
  | some w => simp [valueOf, checked, hget, Checked.below_eq_ok_iff, Checked.result?_eq_some_iff]

/-- A missing entry may be read as one that gives the same. -/
theorem gives_iff_of_fallback {f : Field ρ} (fallback : Value) (h : f.read fallback = some f.own)
    {entry : String → Option Value} {x : ρ} :
    f.Gives entry x ↔ f.read ((entry f.name).getD fallback) = some (f.of x) := by
  unfold Gives
  cases entry f.name with
  | none => rw [Option.getD_none, h, valueOf]
  | some v => rw [Option.getD_some, valueOf]

end Field

/-- What a computation ends with, if it does not fail. -/
theorem toOption_eq_some_iff {ε α : Type} {r : Except ε α} {a : α} : r.toOption = some a ↔ r = .ok a := by
  cases r <;> simp [Except.toOption]

/-! ## Sections -/

open Schema

instance : Inhabited ServerSettings := ⟨{}⟩
instance : Inhabited ModelSettings := ⟨{}⟩
instance : Inhabited OllamaSettings := ⟨{}⟩
instance : Inhabited CompletionsSettings := ⟨{}⟩
instance : Inhabited WorkflowSettings := ⟨{}⟩
instance : Inhabited GitHubSettings := ⟨{}⟩
instance : Inhabited SecuritySettings := ⟨{}⟩
instance : Inhabited Settings := ⟨{}⟩

def ServerSettings.fields : List (Field ServerSettings) := [
  .checked "host" text (·.host),
  .checked "port" int (·.port)]

def ModelSettings.fields : List (Field ModelSettings) := [
  .checked "provider" text (·.provider),
  .checked "model" text (·.model)]

def OllamaSettings.fields : List (Field OllamaSettings) := [
  .checked "host" text (·.host),
  .checked "timeout" int (·.timeout),
  .checked "num_ctx" (optional int) (·.contextLength),
  .checked "num_predict" (optional int) (·.predictLength)]

def CompletionsSettings.fields : List (Field CompletionsSettings) := [
  .checked "base_url" text (·.baseUrl),
  .checked "api_key" text (·.apiKey),
  .checked "timeout" int (·.timeout),
  .checked "max_tokens" (optional int) (·.maxTokens)]

def WorkflowSettings.fields : List (Field WorkflowSettings) := [
  .checked "directories" (list text) (·.directories),
  .checked "state_dir" text (·.stateDirectory),
  .checked "max_iterations" (intAtLeast 1) (·.maxIterations),
  .checked "shell_timeout" number (·.shellTimeout),
  .checked "working_dir" (optional text) (·.workDir)]

def GitHubSettings.fields : List (Field GitHubSettings) := [
  .checked "api_url" text (·.apiUrl),
  .checked "token" text (·.token),
  .checked "repository" (optional text) (·.repository),
  .checked "timeout" int (·.timeout)]

def SecuritySettings.fields : List (Field SecuritySettings) := [
  .checked "rate_limit_requests_per_minute" int (·.requestsPerMinute),
  .checked "cors_origins" (list text) (·.origins)]

theorem ServerSettings.ofFields_eq_ok_iff (v : Value) (x : ServerSettings) :
    ofFields v = .ok x ↔ ∀ f ∈ fields, f.Gives v.get? x := by
  obtain ⟨host, port⟩ := x
  simp [fields, Field.gives_checked_iff, ofFields, Checked.ap_eq_ok_iff, Checked.map_eq_ok_iff, default]

theorem ModelSettings.ofFields_eq_ok_iff (v : Value) (x : ModelSettings) :
    ofFields v = .ok x ↔ ∀ f ∈ fields, f.Gives v.get? x := by
  obtain ⟨provider, model⟩ := x
  simp [fields, Field.gives_checked_iff, ofFields, Checked.ap_eq_ok_iff, Checked.map_eq_ok_iff, default]

theorem OllamaSettings.ofFields_eq_ok_iff (v : Value) (x : OllamaSettings) :
    ofFields v = .ok x ↔ ∀ f ∈ fields, f.Gives v.get? x := by
  obtain ⟨host, timeout, contextLength, predictLength⟩ := x
  simp [fields, Field.gives_checked_iff, ofFields, maybe, Checked.ap_eq_ok_iff,
    Checked.map_eq_ok_iff, default, and_assoc]

theorem CompletionsSettings.ofFields_eq_ok_iff (v : Value) (x : CompletionsSettings) :
    ofFields v = .ok x ↔ ∀ f ∈ fields, f.Gives v.get? x := by
  obtain ⟨baseUrl, apiKey, timeout, maxTokens⟩ := x
  simp [fields, Field.gives_checked_iff, ofFields, maybe, Checked.ap_eq_ok_iff,
    Checked.map_eq_ok_iff, default, and_assoc]

theorem WorkflowSettings.ofFields_eq_ok_iff (v : Value) (x : WorkflowSettings) :
    ofFields v = .ok x ↔ ∀ f ∈ fields, f.Gives v.get? x := by
  obtain ⟨directories, stateDirectory, maxIterations, shellTimeout, workDir⟩ := x
  simp [fields, Field.gives_checked_iff, ofFields, maybe, Checked.ap_eq_ok_iff,
    Checked.map_eq_ok_iff, default, and_assoc]

theorem GitHubSettings.ofFields_eq_ok_iff (v : Value) (x : GitHubSettings) :
    ofFields v = .ok x ↔ ∀ f ∈ fields, f.Gives v.get? x := by
  obtain ⟨apiUrl, token, repository, timeout⟩ := x
  simp [fields, Field.gives_checked_iff, ofFields, maybe, Checked.ap_eq_ok_iff,
    Checked.map_eq_ok_iff, default, and_assoc]

theorem SecuritySettings.ofFields_eq_ok_iff (v : Value) (x : SecuritySettings) :
    ofFields v = .ok x ↔ ∀ f ∈ fields, f.Gives v.get? x := by
  obtain ⟨requestsPerMinute, origins⟩ := x
  simp [fields, Field.gives_checked_iff, ofFields, Checked.ap_eq_ok_iff, Checked.map_eq_ok_iff, default]

namespace Settings

open Toml (Entries)

/-- The entry under a name of a section. -/
def entryIn (doc : Entries) (table name : String) : Option Value := (Value.lookup? table doc).bind (·.get? name)

/-- What is there under this name is a table. -/
def IsSection (doc : Entries) (table : String) : Prop := ∀ v, Value.lookup? table doc = some v → v.isMap = true

variable {doc : Entries} {table : String}

/-- A section that is there is a table of some entries. -/
theorem IsSection.eq_map (h : IsSection doc table) {v : Value} (hv : Value.lookup? table doc = some v) :
    ∃ es, v = .map es := by
  have hmap := h v hv
  cases v with
  | map es => exact ⟨es, rfl⟩
  | _ => cases hmap

/-- What is looked into for a section has its entries, and is empty if it is not there. -/
theorem exists_section (h : IsSection doc table) (e : Value → Fault) :
    ∃ v : Value,
      (if !((Value.lookup? table doc).getD .null).holds then Except.ok (Value.map [])
        else if ((Value.lookup? table doc).getD .null).isMap then .ok ((Value.lookup? table doc).getD .null)
        else .error (e ((Value.lookup? table doc).getD .null))) = .ok v ∧ v.get? = entryIn doc table := by
  cases hv : Value.lookup? table doc with
  | none =>
    refine ⟨.map [], rfl, funext fun name => ?_⟩
    rw [entryIn, hv]
    rfl
  | some v =>
    obtain ⟨es, rfl⟩ := h.eq_map hv
    refine ⟨.map es, ?_, funext fun name => by simp [entryIn, hv]⟩
    cases es with
    | nil => rfl
    | cons e es => rfl

theorem readSection_eq_ok_iff {ρ : Type} {fields : List (Field ρ)} {read : Value → Checked ρ}
    (hread : ∀ v x, read v = .ok x ↔ ∀ f ∈ fields, f.Gives v.get? x) (h : IsSection doc table) {x : ρ} :
    readSection doc table read = .ok x ↔ ∀ f ∈ fields, f.Gives (entryIn doc table) x := by
  obtain ⟨v, hv, hentries⟩ := exists_section h
    fun v => .ofKind .type ("argument after ** must be a mapping, not " ++ v.typeName)
  have hsection : sectionOf doc table = .ok v := hv
  unfold readSection
  rw [hsection, ← hentries, ← hread]
  exact Checked.mapError_eq_ok_iff

theorem loggingOf_eq_ok (h : IsSection doc "logging") :
    ∃ v, loggingOf doc = .ok v ∧ v.get? = entryIn doc "logging" :=
  exists_section h fun v => .ofKind .member ("'" ++ v.typeName ++ "' object has no attribute 'get'")

/-- What the section about logging sets. -/
def loggingFields : List (Field Settings) := [
  .checked "level" text (·.logLevel),
  ⟨String, "file", fun v => (logFileOf v).toOption, "", (·.logFile)⟩,
  ⟨ℤ, "log_rotation_max_mb", fun v => (wholeOf v).toOption, 5, (·.logMegabytes)⟩,
  ⟨ℤ, "log_rotation_backups", fun v => (wholeOf v).toOption, 3, (·.logBackups)⟩]

theorem loggingFields_give_iff {v : Value} {s : Settings} :
    (∀ f ∈ loggingFields, f.Gives v.get? s) ↔
      (text ((v.get? "level").getD (.text "INFO"))).result? = some s.logLevel ∧
        logFileOf (v.field "file") = .ok s.logFile ∧
        wholeOf ((v.get? "log_rotation_max_mb").getD (.int 5)) = .ok s.logMegabytes ∧
        wholeOf ((v.get? "log_rotation_backups").getD (.int 3)) = .ok s.logBackups := by
  simp only [loggingFields, List.forall_mem_cons, List.not_mem_nil, false_imp_iff, implies_true, and_true]
  rw [Field.gives_iff_of_fallback (.text "INFO") rfl, Field.gives_iff_of_fallback .null rfl,
    Field.gives_iff_of_fallback (.int 5) rfl, Field.gives_iff_of_fallback (.int 3) rfl]
  simp only [toOption_eq_some_iff]
  rfl

end Settings

/-- A part of the settings, and the entry of a section that it is read from. -/
structure Setting extends Field Settings where
  table : String

namespace Setting

/-- A field of a section as a part of the settings. -/
def within {ρ : Type} (table : String) (part : Settings → ρ) (f : Field ρ) : Setting :=
  ⟨⟨f.Kind, f.name, f.read, f.own, fun s => f.of (part s)⟩, table⟩

def all : List Setting :=
  ServerSettings.fields.map (within "server" (·.server)) ++
    ModelSettings.fields.map (within "llm" (·.model)) ++
    OllamaSettings.fields.map (within "ollama" (·.ollama)) ++
    CompletionsSettings.fields.map (within "openai_compatible" (·.completions)) ++
    WorkflowSettings.fields.map (within "workflow" (·.workflow)) ++
    GitHubSettings.fields.map (within "github" (·.gitHub)) ++
    SecuritySettings.fields.map (within "security" (·.security)) ++
    Settings.loggingFields.map (within "logging" id)

/-- No part of the settings is left out. -/
theorem eq_of_forall_of {s s' : Settings} (h : ∀ st ∈ all, st.of s = st.of s') : s = s' := by
  simp only [all, List.forall_mem_append, List.forall_mem_map, ServerSettings.fields, ModelSettings.fields,
    OllamaSettings.fields, CompletionsSettings.fields, WorkflowSettings.fields, GitHubSettings.fields,
    SecuritySettings.fields, Settings.loggingFields, List.forall_mem_cons, within, Field.checked, id] at h
  obtain ⟨⟨_, _⟩, ⟨_, _⟩, ⟨_, _, _, _⟩, ⟨_, _, _, _⟩, ⟨_, _, _, _, _⟩, ⟨_, _, _, _⟩, ⟨_, _⟩, _, _, _, _⟩ := s
  dsimp only at h
  simp [h]

/-- The setting is what its entry gives. -/
def Gives (st : Setting) (entry : String → String → Option Value) (s : Settings) : Prop :=
  st.toField.Gives (entry st.table) s

theorem gives_within_iff {ρ : Type} {table : String} {part : Settings → ρ} {f : Field ρ}
    {entry : String → String → Option Value} {s : Settings} :
    (within table part f).Gives entry s ↔ f.Gives (entry table) (part s) :=
  .rfl

end Setting

namespace Settings

open Toml (Entries)

def sections : List String :=
  ["server", "llm", "ollama", "openai_compatible", "workflow", "github", "security", "logging"]

/-- Each section that is there is a table. -/
def IsSectioned (doc : Entries) : Prop := ∀ table ∈ sections, IsSection doc table

instance (doc : Entries) (table : String) : Decidable (IsSection doc table) :=
  decidable_of_iff ((Value.lookup? table doc).all Value.isMap = true) (by simp [IsSection, Option.all_eq_true])

instance (doc : Entries) : Decidable (IsSectioned doc) := inferInstanceAs (Decidable (∀ table ∈ sections, _))

/-- A document gives settings exactly if each of its entries that is asked for can be read, and these settings then. -/
theorem ofDocument_eq_ok_iff {doc : Entries} (h : IsSectioned doc) {s : Settings} :
    ofDocument doc = .ok s ↔ ∀ st ∈ Setting.all, st.Gives (entryIn doc) s := by
  simp only [IsSectioned, sections, List.forall_mem_cons] at h
  obtain ⟨hserver, hmodel, hollama, hcompletions, hworkflow, hgitHub, hsecurity, hlogging, -⟩ := h
  obtain ⟨logging, hok, hentries⟩ := loggingOf_eq_ok hlogging
  have hfields := loggingFields_give_iff (v := logging) (s := s)
  simp only [Setting.all, List.forall_mem_append, List.forall_mem_map, Setting.gives_within_iff]
  rw [← readSection_eq_ok_iff ServerSettings.ofFields_eq_ok_iff hserver,
    ← readSection_eq_ok_iff ModelSettings.ofFields_eq_ok_iff hmodel,
    ← readSection_eq_ok_iff OllamaSettings.ofFields_eq_ok_iff hollama,
    ← readSection_eq_ok_iff CompletionsSettings.ofFields_eq_ok_iff hcompletions,
    ← readSection_eq_ok_iff WorkflowSettings.ofFields_eq_ok_iff hworkflow,
    ← readSection_eq_ok_iff GitHubSettings.ofFields_eq_ok_iff hgitHub,
    ← readSection_eq_ok_iff SecuritySettings.ofFields_eq_ok_iff hsecurity, ← hentries]
  dsimp only [id]
  rw [hfields]
  unfold ofDocument
  simp only [hok, bind_eq_ok_iff, Except.ok.injEq, exists_eq_left', Checked.mapError_eq_ok_iff, Checked.below_eq_ok_iff,
    Checked.result?_eq_some_iff, and_assoc]
  constructor
  · rintro ⟨server, hserver, model, hmodel, ollama, hollama, completions, hcompletions, workflow, hworkflow, gitHub,
      hgitHub, security, hsecurity, logFile, hfile, megabytes, hmegabytes, backups, hbackups, level, hlevel, hs⟩
    obtain rfl := Except.ok.inj hs
    exact ⟨hserver, hmodel, hollama, hcompletions, hworkflow, hgitHub, hsecurity, hlevel, hfile, hmegabytes, hbackups⟩
  · rintro ⟨hserver, hmodel, hollama, hcompletions, hworkflow, hgitHub, hsecurity, hlevel, hfile, hmegabytes, hbackups⟩
    exact ⟨_, hserver, _, hmodel, _, hollama, _, hcompletions, _, hworkflow, _, hgitHub, _, hsecurity, _, hfile, _,
      hmegabytes, _, hbackups, _, hlevel, rfl⟩

end Settings

end Runbook
