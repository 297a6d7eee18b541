import Runbook.Decimal.Reader
import Runbook.Value.Display

/-! Writing values as JSON, on one line or indented by two blanks. Non-ASCII characters are written as
themselves. Bytes, dates, sets, maps with a key that is no scalar and integers of too many digits have no
form. -/

namespace Runbook.Json

open Text

def escapedChar (c : Char) : List Char :=
  if c = '"' then ['\\', '"']
  else if c = '\\' then ['\\', '\\']
  else if c = '\n' then ['\\', 'n']
  else if c = '\r' then ['\\', 'r']
  else if c = '\t' then ['\\', 't']
  else if c = '\x0c' then ['\\', 'f']
  else if c = '\x08' then ['\\', 'b']
  else if c.toNat < 32 then '\\' :: 'u' :: hexText 4 c.toNat
  else [c]

def stringChars (cs : List Char) : List Char := '"' :: cs.flatMap escapedChar ++ ['"']

def string (s : String) : String := String.ofList (stringChars s.toList)

def number (x : Binary64) : String :=
  match x with
  | .nan => "NaN"
  | .infinite neg => if neg then "-Infinity" else "Infinity"
  | x => Decimal.display x

def integer? (n : Int) : Option String :=
  if Decimal.maxIntDigits < (natText n.natAbs).length then none else some (intText n)

/-- The key of a member: a scalar is written as a text. -/
def keyText? : Value → Option String
  | .text s => some s
  | .null => some "null"
  | .bool b => some (if b then "true" else "false")
  | .int n => integer? n
  | .num x => some (number x)
  | _ => none

/-- How the parts of a list or map are set apart at a depth. -/
structure Layout where
  start : Nat → String
  between : Nat → String
  finish : Nat → String
  colon : String := ": "

def oneLine : Layout := { start := fun _ => "", between := fun _ => ", ", finish := fun _ => "" }

def compact : Layout :=
  { start := fun _ => "", between := fun _ => ",", finish := fun _ => "", colon := ":" }

def newLine (depth : Nat) : String := String.ofList ('\n' :: List.replicate (2 * depth) ' ')

def indented : Layout :=
  { start := fun d => newLine (d + 1)
    between := fun d => "," ++ newLine (d + 1)
    finish := newLine }

mutual

def print? (l : Layout) (depth : Nat) : Value → Option String
  | .null => some "null"
  | .bool b => some (if b then "true" else "false")
  | .int n => integer? n
  | .num x => some (number x)
  | .text s => some (string s)
  | .list xs => printItems? l depth xs
  | .tuple xs => printItems? l depth xs
  | .map es =>
    match printMembers? l (depth + 1) es with
    | none => none
    | some [] => some "\x7b\x7d"
    | some ms => some ("\x7b" ++ l.start depth ++ joinWith (l.between depth) ms ++ l.finish depth ++ "\x7d")
  | .bytes _ => none
  | .date _ => none
  | .moment _ => none
  | .set _ => none

def printItems? (l : Layout) (depth : Nat) (xs : List Value) : Option String :=
  match printEach? l (depth + 1) xs with
  | none => none
  | some [] => some "[]"
  | some ts => some ("[" ++ l.start depth ++ joinWith (l.between depth) ts ++ l.finish depth ++ "]")

def printEach? (l : Layout) (depth : Nat) : List Value → Option (List String)
  | [] => some []
  | v :: vs =>
    match print? l depth v, printEach? l depth vs with
    | some t, some ts => some (t :: ts)
    | _, _ => none

def printMembers? (l : Layout) (depth : Nat) : List (Value × Value) → Option (List String)
  | [] => some []
  | (k, v) :: es =>
    match keyText? k, print? l depth v, printMembers? l depth es with
    | some name, some t, some ts => some ((string name ++ l.colon ++ t) :: ts)
    | _, _, _ => none

end

def line? (v : Value) : Option String := print? oneLine 0 v

def dense? (v : Value) : Option String := print? compact 0 v

def pretty? (v : Value) : Option String := print? indented 0 v

end Runbook.Json
