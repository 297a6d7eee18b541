import Runbook.Decimal.Shortest
import Runbook.Execution.Services
import Runbook.Shell.Run

/-! Processes on a host: a command runs in a directory to its end, or until its time is over. -/

namespace Runbook.Shell

open Text

/-- A count of seconds, which is shown as it was given. -/
inductive Seconds where
  | whole (n : Int)
  | real (x : Binary64)
deriving DecidableEq

namespace Seconds

def display : Seconds → String
  | .whole n => intText n
  | .real x => Decimal.display x

def isZero : Seconds → Bool
  | .whole n => n == 0
  | .real x => x.isZero

/-- The longest time that anything waits. -/
def longest : Time := 1000000000000

def time : Seconds → Time
  | .whole n => min longest (n * 1000000).toNat
  | .real (.finite neg sig exp _) =>
    let (n, d) := Binary64.ratio sig exp
    if neg then 0 else min longest (n * 1000000 / d)
  | .real _ => longest

end Seconds

/-- Files, and how commands run beside them: in which directory and for how long where they do not say, and
how long after the request to stop a process is killed. -/
structure Host where
  files : Files
  workDir : Option String := none
  limit : Seconds := .real (.ofRatio false 300 1)
  grace : Seconds := .whole 5

namespace Host

/-- The command in messages. -/
def shown : Command → String
  | .line text => text
  | .words argv => joinWith " " argv

def spawnFault (c : Command) (e : Incident) : Fault :=
  .incident { kind := .processSpawn, text := shown c ++ ": " ++ e.message }

def nullByte : Incident := ⟨.refusedValue, "embedded null byte", 0, false⟩

def noProgram : Incident where
  kind := .type
  text := "create_subprocess_exec() missing 1 required positional argument: 'program'"

def late (c : Command) (limit : Seconds) : Incident where
  kind := .processTimeout
  text := "Command timed out after " ++ limit.display ++ "s: " ++ shown c

/-- The files as a process in a directory sees them. -/
def enter (f : Files) (dir : Option String) : Except Incident Files :=
  match dir with
  | none => .ok f
  | some d =>
    match f.locate (.ofText d) with
    | .ok (p, some .directory) => .ok { f with workDir := p }
    | .ok (_, some (.file _)) => .error (.ofPath 20 "Not a directory" d)
    | .ok (_, none) => .error (.ofPath 2 "No such file or directory" d)
    | .error e => .error (.ofPath (if e.kind = .notDirectory then 20 else 2) (reason e) d)

/-- Whether a program can be started by its name. A file that is no program must not be. -/
def check (f : Files) (name : String) : Except Incident Unit :=
  if (Tool.named? name).isSome then .ok ()
  else if name.isEmpty then .error (.ofPath 13 "Permission denied" name)
  else if name.contains '/' then
    match f.stat (.ofText name) with
    | .ok _ => .error (.ofPath 13 "Permission denied" name)
    | .error e => .error (.ofPath (if e.kind = .notDirectory then 20 else 2) (reason e) name)
  else .error (.ofPath 2 "No such file or directory" name)

/-- The variables that every process finds. -/
def initialVariables (f : Files) : List (String × String) :=
  [("PATH", "/usr/local/sbin:/usr/local/bin:/usr/sbin:/usr/bin:/sbin:/bin"),
    ("PWD", Files.placeText f.workDir)] ++
    match f.home with
    | some dir => [("HOME", dir)]
    | none => []

/-- The first step of the process of a command. -/
def start : Command → Step Unit
  | .line text => Step.startShell (run maxDepth) true "/bin/sh" ["-c", text]
  | .words argv => Step.launch (run maxDepth) true "" (argv.length + 1) argv

/-- How a process ended: with a status, or by a signal, whose number counts below zero. -/
def exitCode (m : Machine) : Except Halt Unit → Int
  | .error (.leave n) => n
  | .error (.killed s) => -s
  | _ => m.status

/-- Whether a process was not done with its streams at its limit. -/
def isLate (limit : Seconds) (m : Machine) : Except Halt Unit → Bool
  | .error .over => true
  | _ => decide (limit.time ≤ m.lastEnd)

/-- The files of a command that can be started. -/
def prepare (h : Host) (c : Command) (dir : Option String) : Except Incident Files := do
  let files ← enter h.files dir
  match c with
  | .line _ => return files
  | .words argv =>
    check files (argv.headD "")
    return files

/-- The process of a command. The request to stop comes at the limit; with `watched` it comes soon after
there is a file of that name. -/
def machine (h : Host) (files : Files) (limit : Seconds) (watched : Option String) : Machine :=
  let vars := initialVariables files
  { files, name := "/bin/sh", «variables» := vars, exported := vars.map (·.1)
    signals := {
      stopAt := limit.time, grace := h.grace.time
      watched := watched.map fun w => h.files.resolve (.ofText w)
      horizon := limit.time + h.grace.time + 1000000 } }

/-- Runs a command. One that holds the streams open at the limit is late, even if it has ended itself. -/
def execute (c : Command) (dir : Option String) (limit : Option Seconds) (watched : Option String) :
    Act Host ProcessResult := fun h =>
  let chosen (d : Option String) : Option String := d.filter (!·.isEmpty)
  let dir := (chosen dir).orElse fun _ => chosen h.workDir
  let limit := (limit.filter (!·.isZero)).getD h.limit
  if c = .words [] then (.error (.incident noProgram), h)
  else if hasNull (shown c) || hasNull (dir.getD "") then (.error (.incident nullByte), h)
  else
    match prepare h c dir with
    | .error e => (.error (spawnFault c e), h)
    | .ok files =>
      match start c (machine h files limit watched) with
      | (r, m) =>
        let h := { h with files := { m.files with workDir := h.files.workDir } }
        if isLate limit m r then (.error (.incident (late c limit)), h)
        else
          (.ok {
            stdout := Utf8.decodeLossy (m.held 1), stderr := Utf8.decodeLossy (m.held 2)
            exitCode := exitCode m r }, h)

/-- The host as a runner of commands. A command has ended when the next one begins, so there is never one to
be stopped. -/
def runner : Runner Host where
  execute c dir timeout := execute c dir (some (.real timeout)) none
  terminate := pure ()

end Host

end Runbook.Shell
