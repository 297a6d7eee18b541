import Runbook.Shell.Arithmetic
import Runbook.Shell.Machine

/-! Conditions of the shell over texts, numbers and files. -/

namespace Runbook.Shell.Test

inductive Error where
  | badNumber (text : String)
  | operatorMissing (text : String)
  | argumentMissing (text : String)
  | closing
deriving DecidableEq, Repr

def Error.message : Error → String
  | .badNumber text => "Illegal number: " ++ text
  | .operatorMissing text => text ++ ": unexpected operator"
  | .argumentMissing text => text ++ ": argument expected"
  | .closing => "closing paren expected"

def number (s : String) : Except Error Int :=
  let cs := Text.trimEnd (Text.trimStart s.toList)
  let (negative, ds) :=
    match cs with
    | '-' :: ds => (true, ds)
    | '+' :: ds => (false, ds)
    | ds => (false, ds)
  match Arithmetic.digits? 10 ds with
  | some n => .ok (if negative then -n else n)
  | none => .error (.badNumber s)

def isSize (n : FileNode) : Bool :=
  match n with
  | .file content => !content.isEmpty
  | .directory => true

def isPlain : FileNode → Bool
  | .file _ => true
  | .directory => false

/-- Questions about one text. No file is there to be executed, and no stream leads to a terminal. -/
def unary? (f : Files) (op : String) : Option (String → Bool) :=
  let about (p : FileNode → Bool) (s : String) : Bool := ((nodeOf? f s).map p).getD false
  match op with
  | "-n" => some fun s => !s.isEmpty
  | "-z" => some fun s => s.isEmpty
  | "-e" | "-r" | "-w" => some (about fun _ => true)
  | "-f" => some (about isPlain)
  | "-d" | "-x" => some (about fun n => !isPlain n)
  | "-s" => some (about isSize)
  | "-L" | "-h" | "-p" | "-S" | "-b" | "-c" | "-t" => some fun _ => false
  | _ => none

/-- Questions about two texts. -/
def binary? (op : String) : Option (String → String → Except Error Bool) :=
  let numbers (p : Int → Int → Bool) (a b : String) : Except Error Bool := do
    return p (← number a) (← number b)
  match op with
  | "=" | "==" => some fun a b => .ok (a == b)
  | "!=" => some fun a b => .ok (a != b)
  | "<" => some fun a b => .ok (decide (a < b))
  | ">" => some fun a b => .ok (decide (b < a))
  | "-eq" => some (numbers (· == ·))
  | "-ne" => some (numbers (· != ·))
  | "-lt" => some (numbers fun a b => decide (a < b))
  | "-le" => some (numbers fun a b => decide (a ≤ b))
  | "-gt" => some (numbers fun a b => decide (b < a))
  | "-ge" => some (numbers fun a b => decide (b ≤ a))
  | _ => none

mutual

def anyOf (f : Files) : Nat → List String → Except Error (Bool × List String)
  | 0, ts => .ok (false, ts)
  | fuel + 1, ts => do
    let (a, rest) ← allOf f fuel ts
    match rest with
    | "-o" :: rest =>
      let (b, rest) ← anyOf f fuel rest
      return (a || b, rest)
    | _ => return (a, rest)

def allOf (f : Files) : Nat → List String → Except Error (Bool × List String)
  | 0, ts => .ok (false, ts)
  | fuel + 1, ts => do
    let (a, rest) ← one f fuel ts
    match rest with
    | "-a" :: rest =>
      let (b, rest) ← allOf f fuel rest
      return (a && b, rest)
    | _ => return (a, rest)

/-- An operator between two texts goes before one in front of a text. -/
def one (f : Files) : Nat → List String → Except Error (Bool × List String)
  | 0, ts => .ok (false, ts)
  | fuel + 1, ts => do
    match ts with
    | a :: op :: b :: rest =>
      match binary? op with
      | some p => return (← p a b, rest)
      | none => front f fuel ts
    | _ => front f fuel ts

def front (f : Files) : Nat → List String → Except Error (Bool × List String)
  | 0, ts => .ok (false, ts)
  | fuel + 1, ts => do
    match ts with
    | "!" :: b :: rest =>
      let (a, rest) ← one f fuel (b :: rest)
      return (!a, rest)
    | "(" :: b :: rest =>
      let (a, rest) ← anyOf f fuel (b :: rest)
      match rest with
      | ")" :: rest => return (a, rest)
      | _ => .error .closing
    | op :: s :: rest =>
      match unary? f op with
      | some p => return (p s, rest)
      | none => return (!op.isEmpty, s :: rest)
    | [s] => return (!s.isEmpty, [])
    | [] => return (false, [])

end

def holds (f : Files) (args : List String) : Except Error Bool := do
  let (a, rest) ← anyOf f (4 * args.length + 8) args
  match rest with
  | [] => return a
  | s :: _ => .error (.operatorMissing s)

end Runbook.Shell.Test
