import Runbook.Shell.Format
import Runbook.Shell.Test
import Runbook.Shell.Tool.Paths
import Runbook.Shell.Tool.Texts

/-! The programs that a shell finds by their names. -/

namespace Runbook.Shell

open Text

namespace Tool

/-! ## Tools that write words and numbers of their own, and one that waits -/

def echo : Tool := fun c =>
  let isOption (s : String) : Bool :=
    startsWith s "-" && s.length > 1 && (s.toList.drop 1).all ("neE".toList.contains ·)
  let opts := (c.args.takeWhile isOption).flatMap fun s => s.toList.drop 1
  let text := joinWith " " (c.args.dropWhile isOption)
  let escapes := (opts.filter (· != 'n')).getLast? = some 'e'
  let (bs, stop) := if escapes then Format.withEscapes text else (ofText text, false)
  c.done (if stop || opts.contains 'n' then bs else bs ++ [10])

def printf : Tool := fun c =>
  match c.args with
  | [] => c.failed 1 "missing operand\nTry 'printf --help' for more information."
  | format :: args =>
    let w := Format.print format args
    let flaws := w.flaws.map fun s => c.complaint ("'" ++ s ++ "': expected a numeric value")
    let bad := w.badDirective.toList.map fun s => c.complaint (s ++ ": invalid conversion specification")
    { files := c.files
      said := (1, w.bytes) :: flaws ++ bad
      status := if flaws.isEmpty && bad.isEmpty then 0 else 1 }

def number? (s : String) : Option Int := (Test.number s).toOption

/-- Numbers up or down from one to another; the fuel bounds how many. -/
def countFrom (step last : Int) : Nat → Int → List Int
  | 0, _ => []
  | fuel + 1, n =>
    if (0 < step ∧ last < n) ∨ (step < 0 ∧ n < last) then [] else n :: countFrom step last fuel (n + step)

def seq : Tool := fun c =>
  let (_, names) := c.options
  match names.map number? with
  | [some last] | [some 1, some last] | [some 1, some 1, some last] =>
    c.done ((List.range last.toNat).flatMap fun n => ofText s!"{n + 1}\n")
  | [some first, some last] =>
    c.done ((countFrom 1 last (last - first + 1).toNat first).flatMap fun n => ofText (intText n ++ "\n"))
  | [some first, some step, some last] =>
    if step = 0 then c.failed 1 "invalid Zero increment value: '0'"
    else
      c.done ((countFrom step last ((last - first).natAbs + 1) first).flatMap fun n =>
        ofText (intText n ++ "\n"))
  | [] => c.failed 1 "missing operand\nTry 'seq --help' for more information."
  | found =>
    let bad := (found.zip names).find? fun (n, _) => n.isNone
    c.failed 1 ("invalid floating point argument: '" ++ (bad.map (·.2)).getD "" ++
      "'\nTry 'seq --help' for more information.")

/-- A count of seconds with its unit, in microseconds. -/
def delay? (s : String) : Option Time :=
  let cs := s.toList
  let (cs, unit) :=
    match cs.reverse with
    | 's' :: rest => (rest.reverse, 1)
    | 'm' :: rest => (rest.reverse, 60)
    | 'h' :: rest => (rest.reverse, 3600)
    | 'd' :: rest => (rest.reverse, 86400)
    | _ => (cs, 1)
  let whole := cs.takeWhile Char.isDigit
  let digits (ds : List Char) : Nat := (Arithmetic.digits? 10 ds).getD 0
  match cs.dropWhile Char.isDigit with
  | [] => if whole.isEmpty then none else some (digits whole * 1000000 * unit)
  | '.' :: fraction =>
    if fraction.all Char.isDigit && !(whole.isEmpty && fraction.isEmpty) then
      some ((digits whole * 1000000 + digits ((fraction ++ List.replicate 6 '0').take 6)) * unit)
    else none
  | _ => none

def sleep : Tool := fun c =>
  match c.args.find? fun s => (delay? s).isNone with
  | some s =>
    c.failed 1 ("invalid time interval '" ++ s ++ "'\nTry 'sleep --help' for more information.")
  | none =>
    if c.args.isEmpty then c.failed 1 "missing operand\nTry 'sleep --help' for more information."
    else { files := c.files, duration := (c.args.filterMap delay?).foldl (· + ·) 0 }

/-- A line over and over, as much of it as a reader takes before it goes. -/
def yes : Tool := fun c =>
  let line := ofText ((if c.args.isEmpty then "y" else joinWith " " c.args) ++ "\n")
  { files := c.files, said := [(1, (List.replicate (131072 / line.length + 1) line).flatten)],
    status := 141 }

/-! ## All tools -/

def condition (closed : Bool) : Tool := fun c =>
  let answer (args : List String) : Deed :=
    match Test.holds c.files args with
    | .ok b => { files := c.files, status := if b then 0 else 1 }
    | .error e => c.failed 2 e.message
  if closed then
    if c.args.getLast? = some "]" then answer c.args.dropLast else c.failed 2 "missing ']'"
  else answer c.args

/-- The programs by their names. -/
def all : List (String × Tool) :=
  [("true", fun c => { files := c.files }), ("false", fun c => { files := c.files, status := 1 }),
    ("echo", echo), ("printf", printf), ("seq", seq), ("sleep", sleep), ("yes", yes), ("cat", cat),
    ("head", head), ("tail", tail), ("wc", wc), ("sort", sort), ("uniq", uniq), ("tr", tr), ("grep", grep),
    ("cut", cut), ("basename", basename), ("dirname", dirname), ("pwd", pwd), ("ls", ls), ("touch", touch),
    ("mkdir", mkdir), ("rmdir", rmdir), ("rm", rm), ("cp", transfer false), ("mv", transfer true),
    ("tee", tee), ("test", condition false), ("[", condition true)]

/-- The programs that run other commands, beside the tools. -/
def launchers : List String := ["sh", "dash", "env"]

/-- The tool or launcher under a name, found by the name alone or in one of the directories of programs. -/
def named? (s : String) : Option String :=
  let name :=
    match (PathName.ofText s).parts with
    | ["bin", n] | ["usr", "bin", n] => if startsWith s "/" then n else s
    | _ => s
  if launchers.contains name || (all.lookup name).isSome then some name else none

end Tool

end Runbook.Shell
