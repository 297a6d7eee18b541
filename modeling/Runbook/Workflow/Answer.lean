import Runbook.Pattern.Search
import Runbook.Text.Quoted
import Runbook.Value.Display
import Runbook.Fault.Failure
import Runbook.Workflow.Basic

/-! Answers to the questions of interactive steps: what is stored for an answer, and which answers are
refused. -/

namespace Runbook

open Text

/-- A text that is no regular expression cannot be searched for. -/
def Pattern.Flaw.fault : Pattern.Flaw → Fault
  | .malformed => .ofKind .pattern "invalid regular expression"
  | .tooManyRepetitions => .ofKind .overflow "the repetition number is too large"
  | .incompatibleFlags => .ofKind .refusedValue "ASCII and UNICODE flags are incompatible"

namespace Question

def yesWords : List String := ["y", "yes", "true", "1", "ok", "approve", "approved"]

def noWords : List String := ["n", "no", "false", "0", "reject", "rejected"]

def isEmptyAnswer : Value → Bool
  | .null => true
  | .text s => isBlankText s
  | _ => false

/-- The default value stands in for an empty answer. -/
def orDefault (q : Question) (answer : Value) : Value :=
  if isEmptyAnswer answer then .text (q.defaultValue.getD "") else answer

def refused (step reason : String) : Fault :=
  .failure {
    kind := .validation
    message := "Invalid answer for step " ++ step ++ ": " ++ reason
    context := { step := some step } }

def confirmed (step : String) (answer : Value) : Except Fault Value :=
  match answer with
  | .bool b => .ok (.bool b)
  | answer =>
    let word := Unicode.toLower (trim answer.display)
    if yesWords.contains word then .ok (.bool true)
    else if noWords.contains word then .ok (.bool false)
    else .error (refused step ("expected yes or no, got " ++ answer.inner))

/-- Whether a text passes the pattern of the question; an empty pattern passes all. -/
def passes (q : Question) (text : String) : Except Fault Bool :=
  match q.validationPattern with
  | none => .ok true
  | some pattern =>
    if pattern.isEmpty then .ok true
    else
      match Pattern.parse pattern with
      | .ok p => .ok (p.occursIn text)
      | .error flaw => .error flaw.fault

/-- The text that is stored for an answer that is no confirmation. -/
def stored (step : String) (q : Question) (answer : Value) : Except Fault Value :=
  let text := if q.inputType = .multiline then answer.display else trim answer.display
  if q.inputType = .choice ∧ !q.choices.isEmpty ∧ !q.choices.contains text then
    .error (refused step (quoted text ++ " is not one of " ++ joinWith ", " q.choices))
  else
    match q.passes text with
    | .error e => .error e
    | .ok true => .ok (.text text)
    | .ok false =>
      .error (refused step ("does not match " ++ quoted (q.validationPattern.getD "")))

/-- What is stored for an answer to the question of a step. -/
def accept (step : String) (q : Question) (answer : Value) : Except Fault Value :=
  let answer := q.orDefault answer
  if q.inputType = .confirm then confirmed step answer else stored step q answer

end Question

end Runbook
