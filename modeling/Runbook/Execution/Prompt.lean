import Runbook.Execution.Command

/-! Steps that talk to the agent: prompts, and the choice of another model. -/

namespace Runbook.Execution

open Text

variable {σ : Type}

/-- An agent that does not answer is a failure of the step. -/
def agentFault (step : String) (e : Fault) : Fault :=
  match e with
  | .incident i =>
    if i.kind = .agentTimeout then
      .failure { broken step ("AI generation timed out: " ++ i.text) with
        category := .timeout, cause := some i.kind.label }
    else if i.kind = .agentUnavailable then
      .failure { broken step ("Agent not available: " ++ i.text) with
        category := .network, cause := some i.kind.label }
    else e
  | e => e

/-- The provider that the model of a step names. -/
def overrideOf (model : Option String) (previous : Provider) : Option Provider :=
  match model with
  | some m => if m.isEmpty then none else some (Provider.parse m previous.name)
  | none => none

/-- Asks under another provider and goes back to the previous one, however that ends. -/
def chatAs (v : Services σ) (a : Agent σ) (previous other : Provider) (step prompt : String) :
    Act σ String := do
  a.setProvider other
  Act.change (v.offerModel other.display)
  let answer ← ((a.chat prompt).reword (agentFault step)).observe
  a.setProvider previous
  Act.ofExcept answer

/-- The model of a step holds for its prompt only. -/
def aiPrompt (v : Services σ) (step prompt : String) (model : Option String) : Act σ Outcome := do
  match v.agent with
  | none =>
    throw (.failure { broken step "Agent not available for AI prompt" with retryable := false })
  | some a =>
    let previous ← Act.view a.provider
    let used := (overrideOf model previous).getD previous
    let response ←
      if used = previous then (a.chat prompt).reword (agentFault step)
      else chatAs v a previous used step prompt
    return {
      output := [
        ("prompt", .text prompt), ("response", .text response), ("model", .text used.display)]
      exports := [
        (step ++ "_response", .text response),
        (step ++ "_metadata", .obj [("model", .text used.display), ("prompt", .text prompt)])] }

/-- The model stays chosen after the step. -/
def chooseModel (v : Services σ) (step spec : String) : Act σ Outcome := do
  match v.agent with
  | none => throw (.failure (broken step "Agent not available for model switch"))
  | some a =>
    let previous ← Act.view a.provider
    let new := Provider.parse spec previous.name
    a.setProvider new
    Act.change (v.offerModel new.display)
    return { output := [("previousProvider", previous.toValue), ("newProvider", new.toValue)] }

def switchModel (v : Services σ) (step : String) (model : Option String) : Act σ Outcome :=
  let spec := trim (model.getD "")
  if spec.isEmpty then
    throw <| .failure {
      kind := .validation
      message := "Switch-model step " ++ step ++ " must specify a model"
      hints := ["Add `model: <name>` or `model: provider:name`"]
      context := { step := some step } }
  else chooseModel v step spec

end Runbook.Execution
