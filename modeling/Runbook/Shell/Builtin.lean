import Runbook.Shell.Expansion
import Runbook.Shell.Tool

/-! Commands that the shell carries out itself. -/

namespace Runbook.Shell.Builtin

open Text Step

def echo (args : List String) : Step Unit := do
  let (open_, args) :=
    match args with
    | "-n" :: rest => (true, rest)
    | _ => (false, args)
  let (bs, stop) := Format.withEscapes (joinWith " " args)
  modify (·.write 1 (if open_ || stop then bs else bs ++ [10]))
  setStatus 0

def printf : List String → Step Unit
  | [] => fail 2 "printf: usage: printf format [arg ...]"
  | format :: args => do
    let w := Format.print format args
    modify (·.write 1 w.bytes)
    for s in w.flaws do
      complain ("printf: " ++ s ++ ": expected numeric value")
    match w.badDirective with
    | some s => fail 2 ("printf: " ++ s ++ ": invalid directive")
    | none => setStatus (if w.flaws.isEmpty then 0 else 1)

def test (name : String) (args : List String) : Step Unit := do
  if name == "[" && args.getLast? != some "]" then fail 2 "[: missing ]"
  else
    match Test.holds (← get).files (if name == "[" then args.dropLast else args) with
    | .ok b => setStatus (if b then 0 else 1)
    | .error e => fail 2 (name ++ ": " ++ e.message)

def cd (args : List String) : Step Unit := do
  let m ← get
  let dir := (args.head?.orElse fun _ => m.look? "HOME").getD ""
  let goal := if dir == "-" then (m.look? "OLDPWD").getD "" else dir
  if goal.isEmpty then setStatus 0
  else
    match placeFor m.files goal with
    | .ok (p, some .directory) =>
      let old := Files.placeText m.files.workDir
      modify fun m => ({ m with files := { m.files with workDir := p } }.assign "OLDPWD" old).assign "PWD"
        (Files.placeText p)
      if dir == "-" then say 1 (Files.placeText p ++ "\n")
      setStatus 0
    | _ => fail 2 ("cd: can't cd to " ++ dir)

def pwd : Step Unit := do
  say 1 (Files.placeText (← get).files.workDir ++ "\n")
  setStatus 0

/-- The number of an argument; without one the status so far. -/
def statusOf (name : String) (args : List String) : Step Nat := do
  match args with
  | [] => return (← get).status
  | s :: _ =>
    match s.toNat? with
    | some n => return n % 256
    | none => abort (name ++ ": Illegal number: " ++ s)

def exit (args : List String) : Step Unit := do throw (.leave (← statusOf "exit" args))

def return_ (args : List String) : Step Unit := do
  setStatus (← statusOf "return" args)
  throw .return_

/-- Out of loops or to their next turns; outside all loops this does nothing. -/
def leap (name : String) (again : Bool) (args : List String) : Step Unit := do
  let go (n : Nat) : Step Unit := do
    let loops := (← get).loops
    if loops = 0 then setStatus 0 else throw (.loop again (min n loops))
  match args with
  | [] => go 1
  | s :: _ =>
    match s.toNat? with
    | some (n + 1) => go (n + 1)
    | _ => abort (name ++ ": Illegal number: " ++ s)

/-- The name and the value of an argument of the form `name=value`. -/
def parted (s : String) : String × Option String :=
  match split? s "=" with
  | some (name, value) => (name, some value)
  | none => (s, none)

def assignAll (command : String) (export_ : Bool) (args : List String) : Step Unit := do
  for s in args do
    if s != "-p" then
      let (name, value) := parted s
      if isName name.toList then
        match value with
        | some v => modify (·.assign name v)
        | none => pure ()
        if export_ then modify fun m => { m with exported := name :: m.exported }
      else abort (command ++ ": " ++ name ++ ": bad variable name")
  setStatus 0

def unset (args : List String) : Step Unit := do
  for s in args do
    modify fun m => { m.unset s with functions := m.functions.filter (·.1 != s) }
  setStatus 0

def set : List String → Step Unit
  | "-e" :: rest => do
    modify ({ · with stopOnFailure := true })
    set rest
  | "+e" :: rest => do
    modify ({ · with stopOnFailure := false })
    set rest
  | "--" :: rest => do
    modify ({ · with arguments := rest })
    setStatus 0
  | s :: rest => do
    if startsWith s "-" || startsWith s "+" then set rest
    else
      modify ({ · with arguments := s :: rest })
      setStatus 0
  | [] => setStatus 0

def shift (args : List String) : Step Unit := do
  let n := (args.head?.bind (·.toNat?)).getD 1
  if (← get).arguments.length < n then abort "shift: can't shift that many"
  modify fun m => { m with arguments := m.arguments.drop n }
  setStatus 0

/-- The values of names from the fields of a line; the last takes all that is left. -/
def spread (separators : List Char) : List String → List Char → List (String × String)
  | [], _ => []
  | [name], cs =>
    let cs := cs.dropWhile separators.contains
    [(name, String.ofList (cs.reverse.dropWhile separators.contains).reverse)]
  | name :: more, cs =>
    let cs := cs.dropWhile separators.contains
    (name, String.ofList (cs.takeWhile fun c => !separators.contains c)) ::
      spread separators more (cs.dropWhile fun c => !separators.contains c)

def read (args : List String) : Step Unit := do
  let m ← get
  let line := m.input.takeWhile (· != 10)
  let rest := m.input.drop line.length
  let names := args.filter fun s => !startsWith s "-"
  modify fun m =>
    (spread m.separators names (Utf8.decodeLossy line).toList).foldl (fun m (n, v) => m.assign n v)
      { m with input := rest.drop 1 }
  setStatus (if rest.isEmpty then 1 else 0)

/-- Waits for all processes in the background, or for those of the numbers given. -/
def wait (args : List String) : Step Unit := do
  let isMeant (j : Job) : Bool := args.isEmpty || args.contains (toString j.pid)
  let meant := (← get).jobs.filter isMeant
  modify fun m =>
    { m with
      clock := meant.foldl (fun t j => max t j.endsAt) m.clock
      jobs := m.jobs.filter fun j => !isMeant j }
  for j in meant do
    match signalText? (j.status - 128) with
    | some text => say 2 (text ++ "\n")
    | none => pure ()
  setStatus (if args.isEmpty then 0 else (meant.getLast?.map (·.status)).getD 127)

def trap (args : List String) : Step Unit := do
  let args := if args.head? = some "--" then args.drop 1 else args
  let put (names : List String) (t : Option Trap) : Step Unit := do
    for s in names do
      match signalOf? s with
      | none => fail 1 ("trap: " ++ s ++ ": bad trap")
      | some n =>
        modify fun m =>
          let others := m.traps.filter (·.1 != n)
          { m with traps := match t with
                    | some t => (n, t) :: others
                    | none => others }
  setStatus 0
  match args with
  | [] => pure ()
  | action :: names =>
    if names.isEmpty then put [action] none
    else if action == "-" || action.toNat?.isSome then
      put (if action == "-" then names else args) none
    else put names (some (if action.isEmpty then .ignored else .handled action.toList))

/-- The signal of the arguments, or why there is none, and the processes that are to get it. -/
def killArgs (args : List String) : Except String Nat × List String :=
  let named (s why : String) : Except String Nat :=
    match signalOf? s with
    | some n => .ok n
    | none => .error why
  match args with
  | "-s" :: s :: rest => (named s ("invalid signal number or name: " ++ s), rest)
  | s :: rest =>
    match s.toList with
    | '-' :: c :: cs => (named (String.ofList (c :: cs)) ("Illegal option -" ++ String.singleton c), rest)
    | _ => (.ok 15, args)
  | [] => (.ok 15, [])

/-- A process in the background that ends now. -/
def endJob (signal : Nat) (now : Time) (j : Job) : Job :=
  if isHarmless signal || j.endsAt ≤ now then j else { j with endsAt := now, status := 128 + signal }

/-- Signals to the own shell wait in `pending`. -/
def kill (args : List String) : Step Unit := do
  let (signal, pids) := killArgs args
  match signal with
  | .error why => fail 2 ("kill: " ++ why)
  | .ok n =>
    setStatus 0
    for p in pids do
      let m ← get
      if p == toString m.pid then
        modify fun m => { m with pending := if n = 0 then m.pending else m.pending ++ [n] }
      else if m.jobs.any (fun j => toString j.pid == p) then
        let ended (j : Job) : Job := if toString j.pid == p then endJob n m.clock j else j
        modify fun m => { m with jobs := m.jobs.map ended }
      else fail 1 (if p.toInt?.isSome then "kill: No such process\n" else "kill: Illegal number: " ++ p)

/-- The commands by their names, but for those that run others. -/
def all : List (String × (List String → Step Unit)) :=
  [(":", fun _ => setStatus 0), ("true", fun _ => setStatus 0), ("false", fun _ => setStatus 1),
    ("echo", echo), ("printf", printf), ("test", test "test"), ("[", test "["), ("cd", cd),
    ("pwd", fun _ => pwd), ("exit", exit), ("return", return_), ("break", leap "break" false),
    ("continue", leap "continue" true), ("export", assignAll "export" true),
    ("readonly", assignAll "readonly" false), ("local", assignAll "local" false), ("unset", unset),
    ("set", set), ("shift", shift), ("read", read), ("wait", wait), ("trap", trap), ("kill", kill),
    ("umask", fun _ => setStatus 0)]

/-- The commands that run others. -/
def runners : List String := ["eval", ".", "exec", "command"]

end Runbook.Shell.Builtin
