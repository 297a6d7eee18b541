import Runbook.Json.Printer
import Runbook.Unicode.Alphanumeric

/-! Templates: a name in double braces stands for the value bound to it. A name that is not bound, and
braces around anything else, stay as they are. -/

namespace Runbook.Template

open Unicode

inductive Segment where
  | char (c : Char)
  | hole (name : List Char)
deriving DecidableEq, Repr

/-- The name of a placeholder that starts here. -/
def holeAt? : List Char → Option (List Char)
  | '\x7b' :: '\x7b' :: rest =>
    let name := rest.takeWhile isWordChar
    match name, rest.dropWhile isWordChar with
    | [], _ => none
    | name, '\x7d' :: '\x7d' :: _ => some name
    | _, _ => none
  | _ => none

/-- The segments after passing over the given count of characters. -/
def segmentsFrom : Nat → List Char → List Segment
  | _, [] => []
  | skip + 1, _ :: rest => segmentsFrom skip rest
  | 0, c :: rest =>
    match holeAt? (c :: rest) with
    | some name => .hole name :: segmentsFrom (name.length + 3) rest
    | none => .char c :: segmentsFrom 0 rest

def segments (template : String) : List Segment := segmentsFrom 0 template.toList

/-- A text stands for itself, another value for its JSON, and a value without JSON for its text. -/
def valueText (v : Value) : String :=
  match v with
  | .text s => s
  | v => (Json.line? v).getD v.display

def Segment.render (b : Bindings) : Segment → List Char
  | .char c => [c]
  | .hole name =>
    match b.get? (String.ofList name) with
    | some v => (valueText v).toList
    | none => '\x7b' :: '\x7b' :: name ++ ['\x7d', '\x7d']

/-- The template with the values of its placeholders. -/
def fill (template : String) (b : Bindings) : String :=
  String.ofList ((segments template).flatMap (·.render b))

/-- The names of the placeholders in order. -/
def placeholders (template : String) : List String :=
  (segments template).filterMap fun
    | .hole name => some (String.ofList name)
    | .char _ => none

/-- Whether a text can have placeholders at all. -/
def isTemplate (s : String) : Bool := Text.hasPart s "\x7b\x7b"

end Runbook.Template
