import Runbook.Schema
import Runbook.Workflow.Basic

/-! Steps and workflows from documents: the declared type of each field. A field is found under its name
in the document or under its name with low lines. -/

namespace Runbook

open Text Schema

/-- The texts with commas between them and "or" before the last, each in quotes. -/
def oneOf : List String → String
  | [] => ""
  | [a] => quoted a
  | [a, b] => quoted a ++ " or " ++ quoted b
  | a :: rest => quoted a ++ ", " ++ oneOf rest

namespace InputType

def ofValue (v : Value) : Checked InputType :=
  match v.asText?.bind ofName? with
  | some t => .ok t
  | none => wrong "literal_error" ("Input should be " ++ oneOf (all.map (·.name)))

end InputType

namespace Question

def ofValue (v : Value) : Checked Question :=
  (((((((required v ["prompt"] text).map Question.mk).ap
    (withDefault v ["inputType", "input_type"] InputType.ofValue .text)).ap
    (withDefault v ["choices"] (tuple text) [])).ap
    (maybe v ["defaultValue", "default_value"] text)).ap
    (maybe v ["validationPattern", "validation_pattern"] text)).ap
    (maybe v ["timeoutMs", "timeout_ms"] number)).ap
    (maybe v ["variable"] text)

end Question

namespace PullRequestStep

def ofValue (action : PullRequestAction) (v : Value) : Checked PullRequestStep :=
  (((((maybe v ["title"] text).map (PullRequestStep.mk action)).ap
    (maybe v ["body"] text)).ap
    (maybe v ["base"] text)).ap
    (maybe v ["head"] text)).ap
    (maybe v ["repo"] text)

end PullRequestStep

namespace Task

def gitOfValue (action : GitAction) (v : Value) : Checked Task :=
  ((maybe v ["message"] text).map (Task.git action)).ap (maybe v ["base"] text)

/-- The task of a step whose action is the given word. -/
def ofValue? (action : String) (v : Value) : Option (Checked Task) :=
  match action with
  | "switch-model" => some ((maybe v ["model"] text).map .switchModel)
  | "conditional" =>
    some ((((required v ["check"] text).map Task.conditional).ap
      (required v ["onTrue", "on_true"] text)).ap (maybe v ["onFalse", "on_false"] text))
  | "loop" =>
    some ((((required v ["to"] text).map Task.loop).ap
      (required v ["condition"] text)).ap (maybe v ["maxIterations", "max_iterations"] int))
  | "interactive" => some ((Question.ofValue v).map .interactive)
  | "shell" =>
    some (((required v ["command"] text).map Task.shell).ap (maybe v ["timeout"] number))
  | "commit" => some (gitOfValue .commit v)
  | "push" => some (gitOfValue .push v)
  | "pull" => some (gitOfValue .pull v)
  | "sync" => some (gitOfValue .sync v)
  | "ai-prompt" =>
    some (((required v ["prompt"] text).map Task.aiPrompt).ap (maybe v ["model"] text))
  | "create-pr" => some ((PullRequestStep.ofValue .create v).map .pullRequest)
  | "review-pr" => some ((PullRequestStep.ofValue .review v).map .pullRequest)
  | "merge-pr" => some ((PullRequestStep.ofValue .merge v).map .pullRequest)
  | "check-file-exists" => some ((required v ["file"] text).map .fileExists)
  | _ => none

end Task

namespace Step

def unknownTag {α : Type} (tag : Value) : Checked α :=
  wrong "union_tag_invalid" <|
    "Input tag '" ++ tag.display ++
      "' found using 'action' does not match any of the expected tags: " ++
      joinWith ", " (knownActions.map quoted)

/-- The action decides which fields a step has; their errors are told below it. -/
def ofValue (v : Value) : Checked Step :=
  match v with
  | .map _ =>
    match v.get? "action" with
    | none => wrong "union_tag_not_found" "Unable to extract tag using discriminator 'action'"
    | some tag =>
      match tag with
      | .text action =>
        match Task.ofValue? action v with
        | some task =>
          (((((required v ["id"] text).map Step.mk).ap (maybe v ["description"] text)).ap task)).below
            (.name action)
        | none => unknownTag tag
      | _ => unknownTag tag
  | _ =>
    wrong "model_attributes_type"
      "Input should be a valid dictionary or object to extract fields from"

end Step

namespace Workflow

/-- The document with the version as a text and without empty variables. -/
def normalized (v : Value) : Value :=
  match v with
  | .map es =>
    .map (es.filterMap fun (k, w) =>
      if Value.keyIs "version" (k, w) && !w.isNull then some (k, .text w.display)
      else if Value.keyIs "variables" (k, w) && w.isNull then none
      else some (k, w))
  | v => v

def ofValue (v : Value) : Checked Workflow :=
  match v with
  | .map _ =>
    (((((((required v ["name"] text).map Workflow.mk).ap
      (maybe v ["description"] text)).ap
      (maybe v ["version"] text)).ap
      (withDefault v ["interactive"] bool false)).ap
      (withDefault v ["persistent"] bool false)).ap
      (withDefault v ["variables"] bindings [])).ap
      (required v ["steps"] (tuple Step.ofValue))
  | _ => wrong "model_type" "Input should be a valid dictionary or instance of Workflow"

end Workflow

end Runbook
