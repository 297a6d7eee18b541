import Runbook.Naming
import Runbook.Workflow.Answer
import Runbook.Workflow.Form

/-! What is wrong with a workflow document: every problem in one pass, each with a hint. A report without
problems lets the document be read as a workflow. -/

namespace Runbook

open Text

/-- A problem and what to do about it; the step is null for a problem of the whole document. -/
structure Finding where
  message : String
  hint : String
  step : Value := .null

namespace Finding

def toValue (f : Finding) : Value :=
  .obj [("message", .text f.message), ("hint", .text f.hint), ("step", f.step)]

end Finding

structure Report where
  problems : List Finding := []
  warnings : List String := []
  hints : List String := []

namespace Report

def isValid (r : Report) : Bool := r.problems.isEmpty

def toValue (r : Report) : Value := .obj [
  ("valid", .bool r.isValid), ("problems", .list (r.problems.map Finding.toValue)),
  ("warnings", .list (r.warnings.map .text)), ("hints", .list (r.hints.map .text))]

/-! ## What a workflow will do -/

/-- Lists, sets and maps cannot be members of a set. -/
def isHashable : Value → Bool
  | .list _ => false
  | .set _ => false
  | .map _ => false
  | _ => true

def unhashable (v : Value) : Fault :=
  let kind := match v with
    | .list _ => "list"
    | .set _ => "set"
    | _ => "dict"
  .ofKind .type ("unhashable type: " ++ quoted kind)

def stepsOf (doc : Value) : List Value :=
  match doc.field "steps" with
  | .list xs => xs
  | _ => []

/-- The actions of the steps that are maps. -/
def actionsOf (doc : Value) : List Value :=
  (stepsOf doc).filterMap fun s => if s.isMap then some (s.field "action") else none

def mentions (actions : List Value) (name : String) : Bool :=
  actions.any fun a => a.asText? == some name

/-- Notes on what a workflow needs and does. An action that is a list or a map is a fault. -/
def hintsFor (doc : Value) : Except Fault (List String) :=
  if !doc.isMap then .ok []
  else
    let actions := actionsOf doc
    match actions.find? fun a => !isHashable a with
    | some a => .error (unhashable a)
    | none =>
      let note (test : Bool) (text : String) : List String := if test then [text] else []
      .ok <|
        note ((doc.field "interactive").holds || mentions actions "interactive")
          "This workflow requires interactive input - be ready to answer prompts" ++
        note (doc.field "persistent").holds
          "This workflow saves state - sessions can be resumed" ++
        note (mentions actions "loop")
          "This workflow contains loops - ensure conditions are satisfiable" ++
        note (mentions actions "conditional")
          "This workflow has conditional branches - review all paths" ++
        note (mentions actions "switch-model")
          "This workflow switches models - ensure all models are available" ++
        note (["commit", "push", "sync", "merge-pr"].any (mentions actions))
          "This workflow modifies git - ensure your working tree is clean"

/-! ## Checks of single steps -/

/-- A text that is not empty. -/
def isGivenText : Value → Bool
  | .text s => !s.isEmpty
  | _ => false

abbrev Check := Except Fault (List Finding)

def expect (ok : Bool) (message hint label : String) : List Finding :=
  if ok then [] else [{ message, hint, step := .text label }]

/-- A text is needed that is not blank; the problem differs for a value of another type. -/
def checkWritten (v : Value) (label absent absentHint blank blankHint : String) : List Finding :=
  match v with
  | .text s => expect (!isBlankText s) blank blankHint label
  | _ => expect false absent absentHint label

def isWholeFromOne : Value → Bool
  | .null => true
  | .int n => 1 ≤ n
  | _ => false

/-- Null, or a number that is not below zero; a zero passes only if it is allowed. -/
def isDuration (zeroAllowed : Bool) : Value → Bool
  | .null => true
  | .int n => if zeroAllowed then 0 ≤ n else 0 < n
  | .num x =>
    let zero := Binary64.zero false
    if zeroAllowed then !x.less zero else !(x.less zero || x.eqv zero)
  | _ => false

def checkSwitchModel (v : Value) (label : String) : List Finding :=
  expect (isGivenText (v.field "model"))
    ("Switch-model step " ++ label ++ " must specify a model")
    "add a `model` field, e.g. `model: llama3.2` or `model: ollama:llama3.2`" label

def checkConditional (v : Value) (label : String) : List Finding :=
  expect (isGivenText (v.field "check"))
    ("Conditional step " ++ label ++ " must specify a check")
    "add a `check` expression such as `approved` or `count > 3`" label ++
  expect (isGivenText (v.field "onTrue"))
    ("Conditional step " ++ label ++ " must specify onTrue target")
    "add an `onTrue` field naming the step to jump to when the check holds" label ++
  expect ((v.field "onFalse").isNull || isGivenText (v.field "onFalse"))
    ("Conditional step " ++ label ++ " onFalse must be a step id")
    "set `onFalse` to the id of an existing step or remove it" label

def checkLoop (v : Value) (label : String) : List Finding :=
  (if isGivenText (v.field "to") then
    expect ((v.field "to").asText? != some label)
      ("Loop step " ++ label ++ " cannot reference itself in 'to' field")
      "point `to` at the first step of the loop body" label
  else
    expect false ("Loop step " ++ label ++ " must specify target step")
      "add a `to` field naming the step to jump back to" label) ++
  expect (isGivenText (v.field "condition"))
    ("Loop step " ++ label ++ " must specify a condition")
    "add a `condition` that becomes false when the loop should stop" label ++
  expect (isWholeFromOne (v.field "maxIterations"))
    ("Loop step " ++ label ++ " must specify a positive integer for maxIterations")
    "set `maxIterations` to a whole number of at least 1, or remove it" label

def isInputType (v : Value) : Bool := (v.asText?.bind InputType.ofName?).isSome

def isTextList : Value → Bool
  | .list xs => xs.all Value.isText
  | _ => false

def checkChoices (v : Value) (label : String) : List Finding :=
  let choices := v.field "choices"
  if !choices.isNull && !isTextList choices then
    expect false ("Interactive step " ++ label ++ " choices must be a list of strings")
      "write `choices` as a YAML list of strings" label
  else
    expect ((v.field "inputType").asText? != some "choice" || choices.holds)
      ("Interactive step " ++ label ++ " with inputType 'choice' must specify choices array")
      "add a `choices` list" label

/-- A pattern has to be a regular expression; one that exceeds a bound is a fault. -/
def checkPattern (v : Value) (label : String) : Check :=
  match v.field "validationPattern" with
  | .null => .ok []
  | pattern =>
    match Pattern.parse pattern.display with
    | .ok _ => .ok []
    | .error .malformed =>
      .ok (expect false
        ("Interactive step " ++ label ++ " has invalid validationPattern: " ++ pattern.display)
        "fix the regular expression or remove `validationPattern`" label)
    | .error flaw => .error flaw.fault

def checkInteractive (v : Value) (label : String) : Check :=
  let start :=
    checkWritten (v.field "prompt") label
      ("Interactive step " ++ label ++ " must specify a prompt")
      "add a `prompt` with the question to ask"
      ("Interactive step " ++ label ++ " prompt cannot be empty")
      "write the question in the `prompt` field" ++
    expect ((v.field "inputType").isNull || isInputType (v.field "inputType"))
      ("Interactive step " ++ label ++ " has invalid inputType: " ++ (v.field "inputType").display)
      ("use one of: " ++ joinWith ", " (InputType.all.map (·.name))) label ++
    checkChoices v label
  let finish :=
    expect (isDuration true (v.field "timeoutMs"))
      ("Interactive step " ++ label ++ " timeoutMs must be a non-negative number")
      "set `timeoutMs` to 0 (no timeout) or a positive number" label ++
    expect ((v.field "variable").isNull || isGivenText (v.field "variable"))
      ("Interactive step " ++ label ++ " variable must be a name")
      "set `variable` to the variable name the answer is stored under" label
  (checkPattern v label).map fun pattern => start ++ pattern ++ finish

def isWritten : Value → Bool
  | .text s => !isBlankText s
  | _ => false

def checkShell (v : Value) (label : String) : List Finding :=
  expect (isWritten (v.field "command"))
    ("Shell step " ++ label ++ " must have a command")
    "add a `command` field with the shell command to run" label ++
  expect (isDuration false (v.field "timeout"))
    ("Shell step " ++ label ++ " timeout must be a positive number of seconds")
    "set `timeout` to a positive number or remove it" label

/-- Null or a text with the given form. -/
def isNullOr (form : String → Bool) : Value → Bool
  | .null => true
  | .text s => form s
  | _ => false

def checkGit (commit : Bool) (v : Value) (label : String) : List Finding :=
  (if commit then
    checkWritten (v.field "message") label
      "Git commit action must have a message" "add a `message` field with the commit message"
      "Git commit message cannot be empty" "write a non-blank commit `message`"
  else []) ++
  expect (isNullOr Naming.isSafeBranch (v.field "base"))
    ("Invalid branch name: " ++ (v.field "base").display)
    "use letters, digits, '-', '_', '.', '/' in `base`" label

def checkAiPrompt (v : Value) (label : String) : List Finding :=
  checkWritten (v.field "prompt") label
    ("AI prompt step " ++ label ++ " must have a prompt")
    "add a `prompt` field with the text to send to the model"
    ("AI prompt step " ++ label ++ " prompt cannot be empty")
    "write the instruction in the `prompt` field" ++
  expect ((v.field "model").isNull || isGivenText (v.field "model"))
    ("AI prompt step " ++ label ++ " model must be a string")
    "set `model` to a model name or remove it" label

def checkTitle (v : Value) (label : String) : List Finding :=
  match v.field "title" with
  | .text s =>
    if isBlankText s then
      expect false "PR title cannot be empty" "write a non-blank `title`" label
    else
      expect (Naming.isValidTitle s)
        "Invalid PR title. Title must be 1-256 characters and not contain control characters."
        "shorten the title and keep it on one line" label
  | _ =>
    expect false "PR create action must have a title"
      "add a `title` field for the pull request" label

/-- A branch name with a placeholder is checked when the step runs. -/
def checkBranch (v : Value) (label name : String) : List Finding :=
  expect (isNullOr (fun s => hasPart s "\x7b\x7b" || Naming.isSafeBranch s) (v.field name))
    ("Invalid branch name: " ++ (v.field name).display) ("fix the `" ++ name ++ "` branch name") label

def checkPullRequest (create : Bool) (v : Value) (label : String) : List Finding :=
  (if create then checkTitle v label else []) ++
  expect (isNullOr Naming.isRepository (v.field "repo"))
    ("PR step " ++ label ++ " repo must look like owner/name")
    "set `repo` to e.g. `octocat/hello-world` or remove it to use the configured default" label ++
  checkBranch v label "base" ++ checkBranch v label "head"

def checkFileExists (v : Value) (label : String) : List Finding :=
  expect (isGivenText (v.field "file"))
    ("Check-file-exists step " ++ label ++ " must specify a file")
    "add a `file` field with the path to check" label

/-- The check of the fields that an action needs. -/
def checkFields? (action : String) (v : Value) (label : String) : Option Check :=
  match action with
  | "switch-model" => some (.ok (checkSwitchModel v label))
  | "conditional" => some (.ok (checkConditional v label))
  | "loop" => some (.ok (checkLoop v label))
  | "interactive" => some (checkInteractive v label)
  | "shell" => some (.ok (checkShell v label))
  | "commit" => some (.ok (checkGit true v label))
  | "push" => some (.ok (checkGit false v label))
  | "pull" => some (.ok (checkGit false v label))
  | "sync" => some (.ok (checkGit false v label))
  | "ai-prompt" => some (.ok (checkAiPrompt v label))
  | "create-pr" => some (.ok (checkPullRequest true v label))
  | "review-pr" => some (.ok (checkPullRequest false v label))
  | "merge-pr" => some (.ok (checkPullRequest false v label))
  | "check-file-exists" => some (.ok (checkFileExists v label))
  | _ => none

/-! ## All steps -/

/-- What the checks of the steps have gathered: the ids, the steps with a known action, and the places of
the steps with problems. -/
structure Walk where
  problems : List Finding := []
  warnings : List String := []
  seen : List String := []
  known : List Value := []
  flagged : List Nat := []

def oneOfActions : String := "(one of: " ++ joinWith ", " knownActions ++ ")"

/-- The label of a step in messages, the ids seen with it, and the problems of its id. -/
def checkId (v : Value) (number : Nat) (seen : List String) : String × List String × List Finding :=
  let place := String.ofList (natText number)
  match v.field "id" with
  | .text id =>
    if id.isEmpty then
      (place, seen, [⟨"Step " ++ place ++ " must have an id", "add an `id` field with a unique name", .null⟩])
    else if seen.contains id then
      (id, seen, [⟨"Duplicate step ID: " ++ id, "rename one of the steps; step ids must be unique", .text id⟩])
    else (id, seen ++ [id], [])
  | _ =>
    (place, seen, [⟨"Step " ++ place ++ " must have an id", "add an `id` field with a unique name", .null⟩])

/-- The problems of one step; `some` with the step if its action is known. -/
def checkAction (v : Value) (label : String) : Except Fault (List Finding × Option Value) :=
  match v.field "action" with
  | .text action =>
    if action.isEmpty then
      .ok (expect false ("Step " ++ label ++ " must have an action")
        ("add an `action` field " ++ oneOfActions) label, none)
    else
      match checkFields? action v label with
      | some check => check.map fun problems => (problems, some v)
      | none =>
        .ok (expect false ("Step " ++ label ++ " has unknown action '" ++ action ++ "'")
          ("use one of: " ++ joinWith ", " knownActions) label, none)
  | _ =>
    .ok (expect false ("Step " ++ label ++ " must have an action")
      ("add an `action` field " ++ oneOfActions) label, none)

def warningsOf (v : Value) (label : String) : List String :=
  if (v.field "action").asText? = some "sync" then
    ["Step " ++ label ++ " runs 'git reset --hard' and discards local changes"]
  else []

def checkStep (w : Walk) (v : Value) (place : Nat) : Except Fault Walk :=
  if !v.isMap then
    .ok { w with
      problems := w.problems ++ [⟨s!"Step {place + 1} must be an object",
        "write each step as a mapping with `id` and `action`", .null⟩]
      flagged := w.flagged ++ [place] }
  else
    let (label, seen, idProblems) := checkId v (place + 1) w.seen
    match checkAction v label with
    | .error e => .error e
    | .ok (problems, known) =>
      .ok {
        problems := w.problems ++ idProblems ++ problems
        warnings := w.warnings ++ (if known.isSome then warningsOf v label else [])
        seen
        known := w.known ++ known.toList
        flagged := w.flagged ++ (if (idProblems ++ problems).isEmpty then [] else [place]) }

def checkSteps (w : Walk) (place : Nat) : List Value → Except Fault Walk
  | [] => .ok w
  | v :: vs =>
    match checkStep w v place with
    | .error e => .error e
    | .ok w => checkSteps w (place + 1) vs

def referenceFields : List String := ["onTrue", "onFalse", "to"]

def sorted (xs : List String) : List String := xs.mergeSort fun a b => decide (a ≤ b)

/-- References of a step to steps that do not exist. -/
def danglingOf (seen : List String) (v : Value) : List Finding :=
  referenceFields.flatMap fun name =>
    match v.field name with
    | .text target =>
      if target.isEmpty || seen.contains target then []
      else [{
        message := "Step " ++ (v.field "id").display ++ " references non-existent step: " ++ target ++
          " (" ++ name ++ ")"
        hint := "check `" ++ name ++ "` for typos; known step ids: " ++ joinWith ", " (sorted seen)
        step := v.field "id" }]
    | _ => []

/-! ## Field types -/

/-- Fields at the top with checks of their own. -/
def checkedFields : List String := ["name", "variables", "steps"]

def pathText (parts : List PathPart) (other : String) : String :=
  if parts.isEmpty then other else joinWith "." (parts.map (·.display))

/-- The problem that an error of a field's type is, unless its step has problems already. -/
def findingOf (steps : List Value) (flagged : List Nat) (e : FieldError) : List Finding :=
  match e.path with
  | .name "steps" :: .index (.ofNat i) :: rest =>
    if flagged.contains i then []
    else
      let id := (steps[i]?.getD .null).field "id"
      let name := pathText (rest.drop 1) "step"
      [⟨"Step " ++ id.display ++ " field " ++ name ++ ": " ++ e.message,
        "fix the value of `" ++ name ++ "`; quote values YAML would read as numbers or lists", id⟩]
  | path =>
    let checked := match path with
      | .name s :: _ => checkedFields.contains s
      | _ => false
    if checked then []
    else
      let name := pathText path "workflow"
      [⟨"Workflow field " ++ name ++ ": " ++ e.message, "fix the top-level `" ++ name ++ "` value", .null⟩]

def typeFindings (doc : Value) (flagged : List Nat) : List Finding :=
  match Workflow.ofValue (Workflow.normalized doc) with
  | .ok _ => []
  | .bad errors => errors.flatMap (findingOf (stepsOf doc) flagged)

/-! ## The whole document -/

def nameFindings (doc : Value) : List Finding :=
  if isGivenText (doc.field "name") then []
  else [⟨"Workflow must have a name field", "add a top-level `name: my-workflow`", .null⟩]

def variablesFindings (doc : Value) : List Finding :=
  let v := doc.field "variables"
  if v.isNull || v.isMap then []
  else [⟨"Workflow variables must be a mapping", "write `variables` as key: value pairs", .null⟩]

def interactiveWarning (doc : Value) (known : List Value) : List String :=
  if mentions (known.map (·.field "action")) "interactive" && !(doc.field "interactive").holds then
    ["Workflow has interactive steps but is not marked `interactive: true`"]
  else []

def ofValue (doc : Value) : Except Fault Report :=
  match hintsFor doc with
  | .error e => .error e
  | .ok hints =>
    if !doc.isMap then
      .ok { hints, problems := [⟨"Workflow must be an object",
        "the file must contain a mapping with `name` and `steps`", .null⟩] }
    else
      let start := nameFindings doc ++ variablesFindings doc
      match doc.field "steps" with
      | .list [] =>
        .ok { hints, problems := start ++ [⟨"Workflow must have at least one step",
          "add at least one entry under `steps:`", .null⟩] }
      | .list steps =>
        match checkSteps { problems := start } 0 steps with
        | .error e => .error e
        | .ok w =>
          .ok {
            hints
            problems := w.problems ++ w.known.flatMap (danglingOf w.seen) ++ typeFindings doc w.flagged
            warnings := w.warnings ++ interactiveWarning doc w.known }
      | _ =>
        .ok { hints, problems := start ++ [⟨"Workflow must have a steps array", "add a `steps:` list", .null⟩] }

end Report

namespace Workflow

/-- The failure that a report with problems is. -/
def rejected (r : Report) (name : Option String) : Failure where
  kind := .validation
  message :=
    match r.problems with
    | [p] => p.message
    | ps => s!"Workflow has {ps.length} problems: " ++ joinWith "; " (ps.map (·.message))
  problems := r.problems.map Finding.toValue
  hints := r.problems.map (·.hint)
  context := { workflow := name }

def mistyped (errors : List FieldError) (name : Option String) : Failure where
  kind := .validation
  message := "Invalid workflow definition: " ++ joinWith "; " (errors.map (·.display))
  hints := ["Check field types against the step reference"]
  context := { workflow := name }
  cause := some (IncidentKind.label .schema)

/-- The workflow of a document, or a failure with every problem of it. -/
def build (doc : Value) : Except Fault Workflow :=
  match Report.ofValue doc with
  | .error e => .error e
  | .ok report =>
    let name := (doc.field "name").asText?
    if !report.isValid then .error (.failure (rejected report name))
    else
      match ofValue (normalized doc) with
      | .ok w => .ok w
      | .bad errors => .error (.failure (mistyped errors name))

end Workflow

end Runbook
