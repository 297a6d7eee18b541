import Runbook.Text.Basic
import Runbook.Unicode.Uppercase
import Runbook.Value.Display

/-! What the log lets through and how a record is written. The level of a logger is its own, else that of
the nearest logger above it, by the points in its name. -/

namespace Runbook.Logging

open Text

def debug : Int := 10

def warning : Int := 30

def levels : List (String × Int) :=
  [("CRITICAL", 50), ("FATAL", 50), ("ERROR", 40), ("WARNING", 30), ("WARN", 30), ("INFO", 20),
    ("DEBUG", 10), ("NOTSET", 0)]

/-- The level of a name; one that is not known means the level of information. -/
def levelOf (name : String) : Int :=
  ((levels.find? (·.1 == Unicode.toUpper name)).map (·.2)).getD 20

/-- The name of a level in records. -/
def nameOf (level : Int) : String :=
  match levels.find? fun (name, l) => l = level && name != "FATAL" && name != "WARN" with
  | some (name, _) => String.ofList (name.toList.map Char.toLower)
  | none => "level " ++ intText level

/-- Loggers that say much. -/
def noisy : List String := ["httpx", "httpcore", "ollama", "uvicorn.access"]

structure Setup where
  level : Int
  toFile : Bool
deriving DecidableEq, Repr

namespace Setup

/-- The setup of a level and a file. A blank name means no file. -/
def of (level file : String) : Setup := ⟨levelOf level, !isBlankText file⟩

/-- Noisy loggers speak of warnings at most, unless everything is asked for. -/
def noisyLevel (s : Setup) : Int := if debug < s.level then max s.level warning else 0

/-- The records go to the console, and to the file if there is one. -/
def destinations (s : Setup) : Nat := if s.toFile then 2 else 1

/-- The level that counts for a logger. -/
def levelFor (s : Setup) (logger : String) : Int :=
  if debug < s.level && noisy.any fun n => logger == n || startsWith logger (n ++ ".") then s.noisyLevel
  else s.level

def accepts (s : Setup) (logger : String) (level : Int) : Bool :=
  s.levelFor logger ≤ level && s.level ≤ level

end Setup

/-- The message with its arguments in the places of the marks; nothing if the marks and the arguments do not
match. -/
def fill? : List Char → List Value → Option (List Char)
  | [], [] => some []
  | [], _ :: _ => none
  | '%' :: mark :: rest, args =>
    if mark = '%' then (fill? rest args).map ('%' :: ·)
    else
      match args with
      | [] => none
      | v :: more =>
        let shown : Option String :=
          match mark, v with
          | 's', v => some v.display
          | 'r', v => some v.inner
          | 'd', .int n => some (intText n)
          | 'd', .bool b => some (if b then "1" else "0")
          | 'd', .num x => x.truncate?.map intText
          | 'i', .int n => some (intText n)
          | _, _ => none
        match shown with
        | some s => (fill? rest more).map (s.toList ++ ·)
        | none => none
  | '%' :: [], _ => none
  | c :: rest, args => (fill? rest args).map (c :: ·)

structure Record where
  logger : String
  level : Int
  message : String
  args : List Value

/-- The text of a record; a message without arguments stands as it is. -/
def Record.text? (r : Record) : Option String :=
  if r.args.isEmpty then some r.message
  else (fill? r.message.toList r.args).map String.ofList

/-- A record as a line of the log, if it comes through. -/
def Record.line? (s : Setup) (r : Record) : Option Value :=
  if s.accepts r.logger r.level then
    r.text?.map fun text => .obj [
      ("event", .text text), ("level", .text (nameOf r.level)), ("logger", .text r.logger)]
  else none

end Runbook.Logging
