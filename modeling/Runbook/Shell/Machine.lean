import Runbook.Files.Glob
import Runbook.Shell.Syntax

/-! What a script runs on: files, variables, streams and traps, beside a clock that moves with every
command. Signals come from outside at their times. -/

namespace Runbook.Shell

open Text

/-- Microseconds. -/
abbrev Time := Nat

/-- Where a stream leads. -/
inductive Sink where
  | buffer (id : Nat)
  | file (place : Place)
  | nowhere
deriving DecidableEq, Repr

/-- Whether someone reads what is written there. -/
def Sink.isBuffer : Sink → Bool
  | .buffer _ => true
  | _ => false

inductive Trap where
  | ignored
  | handled (script : List Char)
deriving DecidableEq, Repr

/-- A request to stop comes at `stopAt`, and a signal that cannot be refused `grace` later. When there is a
file at `watched`, the request comes soon. Nothing that happens after `horizon` counts. -/
structure Signals where
  stopAt : Time
  grace : Time
  watched : Option Place := none
  delivered : Bool := false
  horizon : Time
deriving Repr

def Signals.killAt (s : Signals) : Time := s.stopAt + s.grace

/-- A process in the background: its number, its end and its status. -/
structure Job where
  pid : Nat
  endsAt : Time
  status : Nat
  holdsStreams : Bool
deriving DecidableEq, Repr

/-- `level` counts the subshells in which a command runs and `loops` the loops; `outermost` tells whether the signals from outside
reach the shell at level 0. -/
structure Machine where
  files : Files
  name : String
  arguments : List String := []
  «variables» : List (String × String) := []
  exported : List String := []
  functions : List (String × Script) := []
  status : Nat := 0
  line : Nat := 1
  clock : Time := 0
  input : List UInt8 := []
  output : Sink := .buffer 1
  errors : Sink := .buffer 2
  buffers : List (Nat × List (List UInt8)) := [(1, []), (2, [])]
  traps : List (Nat × Trap) := []
  signals : Signals
  pid : Nat := 4001
  nextPid : Nat := 4002
  level : Nat := 0
  loops : Nat := 0
  outermost : Bool := true
  pending : List Nat := []
  jobs : List Job := []
  lastJob : Option Nat := none
  stopOnFailure : Bool := false

/-- How a script ends before its last command. -/
inductive Halt where
  | leave (status : Nat)
  | killed (signal : Nat)
  /-- out of a function -/
  | return_
  /-- to the end of a loop further out, or to its next turn -/
  | loop (again : Bool) (levels : Nat)
  /-- nothing from here on counts -/
  | over
deriving DecidableEq, Repr

abbrev Step := ExceptT Halt (StateM Machine)

namespace Machine

def look? (m : Machine) (name : String) : Option String := m.variables.lookup name

def assign (m : Machine) (name value : String) : Machine :=
  { m with «variables» := (name, value) :: m.variables.filter (·.1 != name) }

def unset (m : Machine) (name : String) : Machine :=
  { m with «variables» := m.variables.filter (·.1 != name) }

def gather (id : Nat) (bs : List UInt8) :
    List (Nat × List (List UInt8)) → List (Nat × List (List UInt8))
  | [] => []
  | (k, chunks) :: rest => if k = id then (k, bs :: chunks) :: rest else (k, chunks) :: gather id bs rest

/-- What a buffer holds. -/
def held (m : Machine) (id : Nat) : List UInt8 := ((m.buffers.lookup id).getD []).reverse.flatten

def writeTo (m : Machine) (sink : Sink) (bs : List UInt8) : Machine :=
  match sink with
  | .nowhere => m
  | .buffer id => { m with buffers := gather id bs m.buffers }
  | .file place =>
    match m.files.nodeAt place with
    | some (.file old) => { m with files := m.files.put place (.file (old ++ bs)) }
    | _ => m

def write (m : Machine) (stream : Nat) (bs : List UInt8) : Machine :=
  if bs.isEmpty then m else m.writeTo (if stream = 2 then m.errors else m.output) bs

/-- The end of all that holds the streams. -/
def lastEnd (m : Machine) : Time :=
  (m.jobs.filter (·.holdsStreams)).foldl (fun t j => max t j.endsAt) m.clock

end Machine

namespace Step

def say (stream : Nat) (s : String) : Step Unit := modify (·.write stream (Utf8.encode s))

/-- A message about a command, with the name of the shell and the line. -/
def complain (message : String) : Step Unit := do
  let m ← get
  say 2 s!"{m.name}: {m.line}: {message}\n"

def setStatus (n : Nat) : Step Unit := modify ({ · with status := n })

/-- A message, with a status. -/
def fail (status : Nat) (message : String) : Step Unit := do
  complain message
  setStatus status

end Step

/-! ## Signals -/

def signalNames : List (Nat × String) :=
  [(1, "HUP"), (2, "INT"), (3, "QUIT"), (4, "ILL"), (6, "ABRT"), (8, "FPE"), (9, "KILL"), (10, "USR1"),
    (11, "SEGV"), (12, "USR2"), (13, "PIPE"), (14, "ALRM"), (15, "TERM"), (17, "CHLD"), (18, "CONT")]

/-- The number of a signal by its number or its name; `EXIT` is zero. -/
def signalOf? (s : String) : Option Nat :=
  match s.toNat? with
  | some n => some n
  | none =>
    let name := String.ofList (s.toList.map Char.toUpper)
    if name = "EXIT" then some 0 else (signalNames.find? (·.2 == name)).map (·.1)

/-- What a shell says of a command that a signal ended; of two signals it says nothing. -/
def signalText? (n : Nat) : Option String :=
  [(1, "Hangup"), (3, "Quit"), (4, "Illegal instruction"), (6, "Aborted"), (8, "Floating point exception"),
    (9, "Killed"), (10, "User defined signal 1"), (11, "Segmentation fault"), (12, "User defined signal 2"),
    (14, "Alarm clock"), (15, "Terminated")].lookup n

/-- Signals that a process outlives unless it asks for them. -/
def isHarmless (n : Nat) : Bool := n = 0 || n = 17 || n = 18

/-! ## Paths -/

/-- The reason of a failure about a path, in the system's words. -/
def reason (e : Incident) : String :=
  match e.kind with
  | .fileMissing => "No such file or directory"
  | .notDirectory => "Not a directory"
  | .isDirectory => "Is a directory"
  | .fileExists => "File exists"
  | .permission => "Permission denied"
  | _ => "File name too long"

def noFile : String := "No such file or directory"

/-- The bytes of a file; the null device has none. -/
def readFile (f : Files) (path : String) : Except String (List UInt8) :=
  if path = "/dev/null" then .ok []
  else if path.isEmpty then .error noFile
  else
    match f.read (.ofText path) with
    | .ok bs => .ok bs
    | .error e => .error (reason e)

/-- The place at which a file of a path can be made or changed. -/
def placeFor (f : Files) (path : String) : Except String (Place × Option FileNode) :=
  if path.isEmpty then .error noFile
  else
    match f.locate (.ofText path) with
    | .ok found => .ok found
    | .error e => .error (reason e)

def nodeOf? (f : Files) (path : String) : Option FileNode :=
  if path = "/dev/null" then some (.file [])
  else if path.isEmpty then none
  else (f.stat (.ofText path)).toOption

end Runbook.Shell
