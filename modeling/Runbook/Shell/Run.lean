import Runbook.Shell.Builtin

/-! Running scripts. Commands take their time one after the other; what runs beside them is run at once and
ends at its own time. -/

namespace Runbook.Shell

open Text

/-- What the shell's own command takes. -/
def ownTime : Time := 2

/-- What the start of a program takes. -/
def startTime : Time := 1000

/-- How soon a watched file is noticed. -/
def noticeTime : Time := 20000

/-- The most turns of a loop. -/
def maxTurns : Nat := 10000000

/-- How deep commands stand in one another. -/
def maxDepth : Nat := 2000

namespace Step

/-- How a step ends; this goes on. -/
def attempt {α : Type} (step : Step α) : Step (Except Halt α) := fun m =>
  match step m with
  | (r, m) => (.ok r, m)

/-- Time goes by. A watched file that is there brings the request to stop. -/
def pass (d : Time) : Step Unit := do
  modify fun m => { m with clock := m.clock + d }
  let m ← get
  if m.signals.horizon ≤ m.clock then throw .over
  match m.signals.watched with
  | some place =>
    if (m.files.nodeAt place).isSome then
      let stopAt := min m.signals.stopAt (m.clock + noticeTime)
      modify fun m => { m with signals := { m.signals with watched := none, stopAt } }
  | none => pure ()

/-- A signal reaches the shell. -/
def deliver (handle : List Char → Step Unit) (signal : Nat) : Step Unit := do
  let m ← get
  match m.traps.lookup signal with
  | some (.handled script) =>
    handle script
    setStatus m.status
  | some .ignored => pure ()
  | none => if isHarmless signal then pure () else throw (.killed signal)

/-- Between commands the shell heeds the signals that came meanwhile. One that cannot be refused comes too
late for a shell that had ended before it. -/
def attend (handle : List Char → Step Unit) : Step Unit := do
  let m ← get
  if m.level == 0 then
    modify ({ · with pending := [] })
    for s in m.pending do
      if s == 9 then throw (.killed 9) else deliver handle s
    if m.outermost then
      let s := m.signals
      let due := !s.delivered && s.stopAt ≤ m.clock
      if due && (m.traps.lookup 15).isNone then throw (.killed 15)
      if s.killAt ≤ m.clock then throw (.killed 9)
      if due then
        modify fun m => { m with signals := { m.signals with delivered := true } }
        deliver handle 15

/-- Time goes by for a process alone, which a signal may end. -/
def endure (d : Time) : Step Unit := do
  let m ← get
  let s := m.signals
  let stop (t : Time) (n : Nat) : Step Unit := do
    modify ({ · with clock := max m.clock t })
    throw (.killed n)
  if !s.delivered && s.stopAt < m.clock + d && m.traps.lookup 15 != some .ignored then stop s.stopAt 15
  else if s.killAt < m.clock + d then stop s.killAt 9
  else pass d

/-- The shell as it goes on after a child that was a part of itself. -/
def after (m child : Machine) : Machine :=
  { child with
    name := m.name, arguments := m.arguments, «variables» := m.variables, exported := m.exported
    functions := m.functions, line := m.line, traps := m.traps, jobs := m.jobs ++ child.jobs
    level := m.level, outermost := m.outermost, pid := m.pid
    pending := if child.pid = m.pid then m.pending ++ child.pending else m.pending
    stopOnFailure := m.stopOnFailure, files := { child.files with workDir := m.files.workDir }
    output := m.output, errors := m.errors }

/-- Runs a step in a process of its own: only files, the clock and what was written stay of it. Handled
signals go back to what they do by themselves. -/
def inChild (step : Step Unit) : Step Unit := fun m =>
  let traps := m.traps.filter (·.2 == .ignored)
  match step { m with level := m.level + 1, traps, jobs := [], pending := [] } with
  | (r, child) =>
    let back := after m child
    match r with
    | .error .over => (.error .over, back)
    | .error (.leave n) => (.ok (), { back with status := n })
    | .error (.killed s) =>
      let told :=
        match signalText? s with
        | some text => back.write 2 (Utf8.encode (text ++ "\n"))
        | none => back
      (.ok (), { told with status := 128 + s })
    | _ => (.ok (), back)

/-- What a step writes. -/
def captured (step : Step Unit) : Step (List UInt8) := do
  let m ← get
  let id := (m.buffers.map (·.1)).foldl max 2 + 1
  set { m with buffers := (id, []) :: m.buffers, output := .buffer id }
  step
  let bs := (← get).held id
  modify fun c => { c with buffers := c.buffers.filter (·.1 != id), output := m.output }
  return bs

/-- Commands of which each reads what the one before it writes. They run at the same time. -/
def piped : List (Step Unit) → Step Unit
  | [] => pure ()
  | [a] => inChild a
  | a :: rest => do
    let m ← get
    let bs ← captured (inChild a)
    let t := (← get).clock
    modify ({ · with clock := m.clock, input := bs })
    piped rest
    modify fun c => { c with clock := max t c.clock, input := m.input }

/-- One turn of a loop; whether another may follow. -/
def turn (body : Step Unit) : Step Bool := do
  modify fun m => { m with loops := m.loops + 1 }
  let r ← attempt body
  modify fun m => { m with loops := m.loops - 1 }
  match r with
  | .ok () => return true
  | .error (.loop again n) => if n ≤ 1 then return again else throw (.loop again (n - 1))
  | .error h => throw h

def whileLoop (test body : Step Unit) (stopOn : Bool) :
    Nat → Nat → Machine → Except Halt Unit × Machine
  | 0, _, m => (.error .over, m)
  | fuel + 1, status, m =>
    match test m with
    | (.error h, m) => (.error h, m)
    | (.ok (), m) =>
      if (m.status == 0) == stopOn then (.ok (), { m with status })
      else
        match turn body m with
        | (.error h, m) => (.error h, m)
        | (.ok false, m) => (.ok (), m)
        | (.ok true, m) => whileLoop test body stopOn fuel m.status m

def forEach (name : String) (body : Step Unit) : List String → Step Unit
  | [] => pure ()
  | v :: vs => do
    modify (·.assign name v)
    if ← turn body then forEach name body vs

/-- Runs to the end of a shell, with what it is to do there. -/
def asShell (handle : List Char → Step Unit) (body : Step Unit) : Step Unit := do
  let leave (status : Nat) : Step Unit := do
    match (← get).traps.lookup 0 with
    | some (.handled script) =>
      modify fun m => { m with traps := m.traps.filter (·.1 != 0), status }
      handle script
    | _ => pure ()
    throw (.leave status)
  match ← attempt body with
  | .error .over => throw .over
  | .error (.killed s) => throw (.killed s)
  | .error (.leave n) => leave n
  | _ => leave (← get).status

/-- A failure of which nothing depends may end the shell. -/
def stopIfFailed (tested : Bool) : Step Unit := do
  let m ← get
  if m.stopOnFailure && !tested && m.status != 0 then throw (.leave m.status)

/-! ## Redirections -/

/-- Opens a file as a sink; the null device is none. -/
def openSink (path : String) (append : Bool) : Step (Option Sink) := do
  let m ← get
  let refused (why : String) : Step (Option Sink) := do
    fail 2 ("cannot create " ++ path ++ ": " ++ why)
    return none
  match path with
  | "/dev/null" => return some .nowhere
  | "/dev/stdout" => return some m.output
  | "/dev/stderr" => return some m.errors
  | _ =>
    match placeFor m.files path with
    | .ok (_, some .directory) => refused "Is a directory"
    | .ok (p, some (.file old)) =>
      set { m with files := m.files.put p (.file (if append then old else [])) }
      return some (.file p)
    | .ok (p, none) =>
      set { m with files := m.files.put p (.file []) }
      return some (.file p)
    | .error e => refused (if e == noFile then "Directory nonexistent" else e)

def lead (stream : Nat) (sink : Sink) : Step Unit :=
  modify fun m =>
    if stream = 1 then { m with output := sink }
    else if stream = 2 then { m with errors := sink }
    else m

/-- Carries out a redirection; whether that succeeds. -/
def redirect (capture : List Char → Step String) (r : Redirect) : Step Bool := do
  let target ← expandText capture r.target
  match r.kind with
  | .document =>
    modify ({ · with input := Utf8.encode target })
    return true
  | .read =>
    match readFile (← get).files target with
    | .ok bs =>
      modify ({ · with input := bs })
      return true
    | .error e =>
      fail 2 ("cannot open " ++ target ++ ": " ++ if e == noFile then "No such file" else e)
      return false
  | .copy =>
    let m ← get
    if r.stream ≠ 0 then
      lead r.stream (if target == "1" then m.output else if target == "2" then m.errors else .nowhere)
    return true
  | kind =>
    match ← openSink target (kind == .append) with
    | some sink =>
      lead r.stream sink
      return true
    | none => return false

/-- Whether output and messages still lead where they led, after redirections. -/
def leftOpen (rs : List Redirect) (out err : Bool) : Bool × Bool :=
  rs.foldl (fun (out, err) r =>
    match r.kind, r.stream with
    | .copy, 1 => (if r.target.bare? == some "2" then err else out, err)
    | .copy, 2 => (out, if r.target.bare? == some "1" then out else err)
    | .write, 1 | .append, 1 => (false, err)
    | .write, 2 | .append, 2 => (out, false)
    | _, _ => (out, err)) (out, err)

/-- Whether a script beside the shell keeps one of the streams open to which others listen. -/
def keepsStreams (m : Machine) (a : Script) : Bool :=
  let rs :=
    match a with
    | .simple c => c.redirects
    | .redirected _ rs => rs
    | _ => []
  let (out, err) := leftOpen rs m.output.isBuffer m.errors.isBuffer
  out || err

/-- Carries out redirections up to one that fails. -/
def redirectAll (capture : List Char → Step String) : List Redirect → Step Bool
  | [] => return true
  | r :: rest => do
    if ← redirect capture r then redirectAll capture rest else return false

/-- A step under redirections, which end with it unless they are kept. -/
def redirected (capture : List Char → Step String) (rs : List Redirect) (keep : Bool) (step : Step Unit) :
    Step Unit := do
  let m ← get
  let r ← attempt (do if ← redirectAll capture rs then step)
  if !keep then
    let reads := rs.any fun r => r.kind == .read || r.kind == .document
    modify fun c =>
      { c with output := m.output, errors := m.errors, input := if reads then m.input else c.input }
  match r with
  | .ok () => pure ()
  | .error h => throw h

/-- A step with variables that are set for it alone. -/
def assigning (values : List (String × String)) (step : Step Unit) : Step Unit := do
  let m ← get
  let names := values.map (·.1)
  modify fun m =>
    { values.foldl (fun m (n, v) => m.assign n v) m with exported := names ++ m.exported }
  let r ← attempt step
  modify fun c =>
    let others := c.variables.filter fun (n, _) => !names.contains n
    { c with «variables» := m.variables.filter (fun (n, _) => names.contains n) ++ others
             exported := c.exported.drop names.length }
  match r with
  | .ok () => pure ()
  | .error h => throw h

/-! ## Programs -/

/-- A tool in a process: the shell's own, which ends with it, or another. -/
def perform (inPlace : Bool) (tool : Tool) (name : String) (args : List String) : Step Unit := do
  let m ← get
  let deed := tool { name, args, input := m.input, files := m.files }
  modify fun m =>
    deed.said.foldl (fun m (stream, bs) => m.write stream bs)
      { m with files := deed.files, input := [] }
  setStatus deed.status
  if inPlace then
    if m.level == 0 && m.outermost then endure (startTime + deed.duration)
    else pass (startTime + deed.duration)
    throw (.leave deed.status)
  else pass (startTime + deed.duration)

/-- What a shell is started with: whether it stops on a failure, its name, its arguments and its script. -/
structure Start where
  stopOnFailure : Bool := false
  name : String
  arguments : List String := []
  source : List Char

/-- The start of a shell by its arguments. -/
def startOf (m : Machine) (name : String) : Bool → List String → Except String Start
  | strict, s :: rest =>
    match s.toList with
    | '-' :: c :: cs =>
      let strict := strict || (c :: cs).contains 'e'
      if (c :: cs).contains 'c' then
        match rest with
        | [] => .error "-c requires an argument"
        | source :: [] => .ok { stopOnFailure := strict, name, source := source.toList }
        | source :: own :: arguments =>
          .ok { stopOnFailure := strict, name := own, arguments, source := source.toList }
      else startOf m name strict rest
    | _ =>
      match readFile m.files s with
      | .ok bs =>
        .ok { stopOnFailure := strict, name := s, arguments := rest, source := (Utf8.decodeLossy bs).toList }
      | .error _ => .error ("cannot open " ++ s ++ ": No such file")
  | strict, [] => .ok { stopOnFailure := strict, name, source := (Utf8.decodeLossy m.input).toList }

section Launch

variable (run : Bool → Script → Step Unit)

/-- Lines of commands in turn. -/
def runLines (tested : Bool) : List (Except SyntaxError Script) → Step Unit
  | [] => pure ()
  | .ok s :: rest => do
    run tested s
    runLines tested rest
  | .error e :: _ => do
    modify ({ · with line := e.line })
    abort e.message

def runSource (tested : Bool) (source : List Char) : Step Unit := do
  let lines := readScript source
  if lines.isEmpty then setStatus 0
  runLines run tested lines

def handle (source : List Char) : Step Unit := runSource run false source

/-- The output of a script, without the line feeds at its end. -/
def capture (source : List Char) : Step String := do
  let bs ← captured (inChild (asShell (handle run) (runSource run false source)))
  let bs := bs.filter (· != 0)
  return Utf8.decodeLossy ((bs.reverse.dropWhile (· == 10)).reverse)

/-- A shell by its arguments. What is not exported stays outside it. -/
def startShell (inPlace : Bool) (name : String) (args : List String) : Step Unit := do
  let enter (s : Start) : Step Unit := do
    modify fun m =>
      { m with
        name := s.name, arguments := s.arguments, functions := [], status := 0, line := 1
        «variables» := m.variables.filter fun (n, _) => m.exported.contains n
        stopOnFailure := s.stopOnFailure, traps := m.traps.filter (·.2 == .ignored) }
    asShell (handle run) (runSource run false s.source)
  match startOf (← get) name false args with
  | .error message =>
    say 2 (name ++ ": 0: " ++ message ++ "\n")
    setStatus 2
    if inPlace then throw (.leave 2)
  | .ok s =>
    pass startTime
    if inPlace && (← get).level == 0 then enter s
    else
      inChild do
        modify fun m =>
          { m with level := 0, outermost := false, pid := m.nextPid, nextPid := m.nextPid + 1 }
        enter s
      if inPlace then throw (.leave (← get).status)

/-- A program by its name or its path; `blamed` stands before the name where it is not found. -/
def launch (inPlace : Bool) (blamed : String) : Nat → List String → Step Unit
  | 0, _ => throw .over
  | _ + 1, [] => setStatus 0
  | fuel + 1, name :: args => do
    let m ← get
    let refuse (status : Nat) (why : String) : Step Unit := do
      fail status (blamed ++ name ++ ": " ++ why)
      if inPlace then throw (.leave status)
    match Tool.named? name with
    | some "env" =>
      let isValue (s : String) : Bool := s.contains '='
      let values := (args.takeWhile isValue).map fun s =>
        ((Builtin.parted s).1, (Builtin.parted s).2.getD "")
      let rest := args.dropWhile isValue
      if rest.isEmpty then
        let shown := m.variables.filter fun (n, _) => m.exported.contains n
        perform inPlace (fun c => c.done (Utf8.encode (String.join (shown.map fun (n, v) =>
          n ++ "=" ++ v ++ "\n")))) name args
      else if (Tool.named? (rest.headD "")).isNone then
        say 2 (name ++ ": '" ++ rest.headD "" ++ "': No such file or directory\n")
        setStatus 127
        if inPlace then throw (.leave 127)
      else assigning values (launch inPlace blamed fuel rest)
    | some "sh" | some "dash" => startShell run inPlace name args
    | some program =>
      match Tool.all.lookup program with
      | some tool => perform inPlace tool name args
      | none => refuse 127 "not found"
    | none =>
      if name.contains '/' && (nodeOf? m.files name).isSome then refuse 126 "Permission denied"
      else refuse 127 "not found"

/-- A command of words: a function, a command of the shell or a program. -/
def dispatch (tested : Bool) (functions : Bool) : List String → Step Unit
  | [] => setStatus 0
  | name :: args => do
    let m ← get
    match if functions then m.functions.lookup name else none with
    | some body =>
      modify ({ · with arguments := args })
      let r ← attempt (run tested body)
      modify ({ · with arguments := m.arguments })
      match r with
      | .ok () | .error .return_ => pure ()
      | .error h => throw h
    | none =>
      match Builtin.all.lookup name with
      | some act =>
        pass ownTime
        act args
      | none =>
        match name with
        | "eval" => runSource run tested (joinWith " " args).toList
        | "." =>
          match readFile m.files (args.headD "") with
          | .ok bs => runSource run tested (Utf8.decodeLossy bs).toList
          | .error _ => abort (".: cannot open " ++ args.headD "" ++ ": No such file")
        | "exec" =>
          if args.isEmpty then setStatus 0
          else
            modify fun m => { m with traps := m.traps.filter (·.2 == .ignored) }
            launch run true "exec: " (args.length + 1) args
        | "command" =>
          match args with
          | [] => setStatus 0
          | first :: rest =>
            if first == "-v" then
              let word := rest.headD ""
              let known := (Builtin.all.lookup word).isSome || Builtin.runners.contains word
              if known || (m.functions.lookup word).isSome then say 1 (word ++ "\n")
              else if (Tool.named? word).isSome then say 1 ("/usr/bin/" ++ word ++ "\n")
              setStatus (if known || (m.functions.lookup word).isSome || (Tool.named? word).isSome then 0
                else 127)
            else dispatch tested false (first :: rest)
        | _ => launch run false "" (args.length + 2) (name :: args)

/-- A command with its assignments and redirections. -/
def runSimple (tested : Bool) (c : Simple) : Step Unit := do
  modify ({ · with line := c.line })
  let expand := capture run
  let words := (← c.words.mapM (expandFields expand)).flatten
  let isOutput (p : Piece) : Bool :=
    match p with
    | .output .. => true
    | _ => false
  if words.isEmpty then
    let substitutes := c.words.any (·.any isOutput) || c.assignments.any (·.2.any isOutput)
    redirected expand c.redirects false do
      for (name, w) in c.assignments do
        let value ← expandText expand w
        modify (·.assign name value)
      if !substitutes then setStatus 0
    pass ownTime
  else
    let values ← c.assignments.mapM fun (name, w) => do return (name, ← expandText expand w)
    redirected expand c.redirects (words == ["exec"])
      (assigning values (dispatch run tested true words))
  attend (handle run)
  stopIfFailed tested

end Launch

end Step

open Step in
/-- Runs a script; the fuel bounds how deep commands stand in one another. With `tested` something depends on
its status. -/
def run : Nat → Bool → Script → Step Unit
  | 0, _, _ => throw .over
  | fuel + 1, tested, script => do
    match script with
    | .skip => pure ()
    | .simple c => runSimple (run fuel) tested c
    | .pipe parts =>
      piped (parts.map (run fuel tested))
      attend (handle (run fuel))
      stopIfFailed tested
    | .both a b =>
      run fuel true a
      if (← get).status == 0 then run fuel tested b
    | .either a b =>
      run fuel true a
      if (← get).status != 0 then run fuel tested b
    | .inverse a =>
      run fuel true a
      modify fun m => { m with status := if m.status == 0 then 1 else 0 }
    | .sequence a b =>
      run fuel tested a
      run fuel tested b
    | .background a =>
      let m ← get
      modify ({ · with input := [] })
      let _ ← attempt (inChild (run fuel false a))
      modify fun c =>
        let job : Job :=
          { pid := c.nextPid, endsAt := c.clock, status := c.status, holdsStreams := keepsStreams m a }
        { c with
          clock := m.clock, input := m.input, status := 0, nextPid := c.nextPid + 1
          jobs := c.jobs ++ [job], lastJob := some c.nextPid }
    | .subshell a =>
      let body := asShell (handle (run fuel)) (run fuel tested a)
      inChild body
      attend (handle (run fuel))
      stopIfFailed tested
    | .choice test yes no =>
      run fuel true test
      if (← get).status == 0 then run fuel tested yes
      else
        setStatus 0
        run fuel tested no
    | .repeated stopOn test body =>
      whileLoop (run fuel true test) (run fuel tested body) stopOn
        maxTurns 0
    | .each name words body =>
      let values ←
        match words with
        | some ws => do pure (← ws.mapM (expandFields (capture (run fuel)))).flatten
        | none => do pure (← get).arguments
      setStatus 0
      forEach name (run fuel tested body) values
    | .cases word branches =>
      let text ← expandText (capture (run fuel)) word
      let fits (w : Word) : Step Bool := do
        return Glob.nameFits (← expandPattern (capture (run fuel)) w) text
      match ← branches.findM? fun (forms, _) => forms.anyM fits with
      | some (_, body) =>
        setStatus 0
        run fuel tested body
      | none => setStatus 0
    | .define name body =>
      modify fun m => { m with functions := (name, body) :: m.functions.filter (·.1 != name), status := 0 }
    | .redirected a rs =>
      redirected (capture (run fuel)) rs false (run fuel tested a)
      attend (handle (run fuel))

end Runbook.Shell
