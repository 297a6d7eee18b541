import Runbook.Fault.Failure
import Runbook.Schema
import Runbook.Text.Utf8
import Runbook.Workflow.Basic

/-! Workflows and their values as documents of plain JSON values: dates and bytes become texts, sets and
tuples lists, and numbers of variables that are not finite null. -/

namespace Runbook

open Text

namespace Moment

/-- The moment with a T before the clock; universal time is written as Z. -/
def plain (m : Moment) : String :=
  match m.offset with
  | some 0 => { m with offset := none }.isoWith 'T' ++ "Z"
  | _ => m.isoWith 'T'

end Moment

namespace Value

/-- Bytes that are no text cannot be written. -/
def plainBytes (bs : List UInt8) : Except Fault String :=
  match Utf8.decode bs with
  | .ok s => .ok s
  | .error e => .error (.ofKind .textDecoding e.message)

mutual

def plainKey : Value → Except Fault String
  | .text s => .ok s
  | .null => .ok "None"
  | .bool b => .ok (if b then "true" else "false")
  | .int n => .ok (intText n)
  | .num x => .ok (Decimal.display x)
  | .bytes bs => plainBytes bs
  | .date d => .ok d.iso
  | .moment m => .ok m.plain
  | .tuple xs =>
    match plainKeys xs with
    | .ok ks => .ok (joinWith "," ks)
    | .error e => .error e
  | .list _ => .error (.ofKind .type "unhashable type: 'list'")
  | .set _ => .error (.ofKind .type "unhashable type: 'set'")
  | .map _ => .error (.ofKind .type "unhashable type: 'dict'")

def plainKeys : List Value → Except Fault (List String)
  | [] => .ok []
  | v :: vs =>
    match plainKey v, plainKeys vs with
    | .ok k, .ok ks => .ok (k :: ks)
    | .error e, _ => .error e
    | _, .error e => .error e

end

mutual

/-- The value with JSON values only. -/
def plain : Value → Except Fault Value
  | .null => .ok .null
  | .bool b => .ok (.bool b)
  | .int n => .ok (.int n)
  | .num x => .ok (if x.isFinite then .num x else .null)
  | .text s => .ok (.text s)
  | .bytes bs => (plainBytes bs).map .text
  | .date d => .ok (.text d.iso)
  | .moment m => .ok (.text m.plain)
  | .list xs => (plainList xs).map .list
  | .tuple xs => (plainList xs).map .list
  | .set xs => (plainList xs).map .list
  | .map es => (plainEntries es).map .map

def plainList : List Value → Except Fault (List Value)
  | [] => .ok []
  | v :: vs =>
    match plain v with
    | .error e => .error e
    | .ok w => (plainList vs).map (w :: ·)

def plainEntries : List (Value × Value) → Except Fault (List (Value × Value))
  | [] => .ok []
  | (k, v) :: es =>
    match plainKey k, plain v with
    | .error e, _ => .error e
    | _, .error e => .error e
    | .ok k, .ok w => (plainEntries es).map ((.text k, w) :: ·)

end

/-- The bindings as a map of JSON values. -/
def plainBindings (b : Bindings) : Except Fault Value := (Value.obj b).plain

end Value

namespace Task

/-- The fields of a task after those that every step has. -/
def fields : Task → List (String × Value)
  | .switchModel model => [("model", optionText model)]
  | .conditional check onTrue onFalse =>
    [("check", .text check), ("onTrue", .text onTrue), ("onFalse", optionText onFalse)]
  | .loop target condition maxIterations =>
    [("to", .text target), ("condition", .text condition),
      ("maxIterations", (maxIterations.map Value.int).getD .null)]
  | .interactive q =>
    [("prompt", .text q.prompt), ("inputType", .text q.inputType.name),
      ("choices", .list (q.choices.map .text)), ("defaultValue", optionText q.defaultValue),
      ("validationPattern", optionText q.validationPattern),
      ("timeoutMs", optionNumber q.timeoutMs), ("variable", optionText q.answerName)]
  | .shell command timeout =>
    [("command", .text command), ("timeout", optionNumber timeout)]
  | .git _ message base => [("message", optionText message), ("base", optionText base)]
  | .aiPrompt prompt model => [("prompt", .text prompt), ("model", optionText model)]
  | .pullRequest p =>
    [("title", optionText p.title), ("body", optionText p.body), ("base", optionText p.base),
      ("head", optionText p.head), ("repo", optionText p.repo)]
  | .fileExists file => [("file", .text file)]

end Task

namespace Step

def toValue (s : Step) : Value :=
  .obj ([("id", .text s.id), ("description", optionText s.description), ("action", .text s.action)] ++
    s.task.fields)

end Step

namespace Workflow

def toValue (w : Workflow) : Except Fault Value :=
  (Value.plainBindings w.variables).map fun vars => .obj [
    ("name", .text w.name), ("description", optionText w.description),
    ("version", optionText w.version), ("interactive", .bool w.interactive),
    ("persistent", .bool w.persistent), ("variables", vars),
    ("steps", .list (w.steps.map Step.toValue))]

end Workflow

end Runbook
