import Runbook.Shell.Machine

/-! A tool turns arguments, input and files into what it writes, a status and the files after it. -/

namespace Runbook.Shell

open Text

structure Call where
  name : String
  args : List String
  input : List UInt8
  files : Files

/-- `said` holds the bytes for the two streams in the order in which they were written. -/
structure Deed where
  files : Files
  said : List (Nat × List UInt8) := []
  status : Nat := 0
  duration : Time := 0

abbrev Tool := Call → Deed

namespace Call

def done (c : Call) (out : List UInt8) : Deed := { files := c.files, said := [(1, out)] }

def complaint (c : Call) (message : String) : Nat × List UInt8 :=
  (2, Utf8.encode (c.name ++ ": " ++ message ++ "\n"))

def failed (c : Call) (status : Nat) (message : String) : Deed :=
  { files := c.files, said := [c.complaint message], status }

/-- The letters of the options in front, and the operands. -/
def options (c : Call) : List Char × List String :=
  let isOption (s : String) : Bool := startsWith s "-" && s.length > 1
  let opts := c.args.takeWhile fun s => isOption s && s != "--"
  let rest := c.args.drop opts.length
  (opts.flatMap fun s => s.toList.drop 1, if rest.head? = some "--" then rest.drop 1 else rest)

/-- What each named file holds, or why it cannot be read; without names the input. -/
def sources (c : Call) (names : List String) : List (String × Except String (List UInt8)) :=
  if names.isEmpty then [("-", .ok c.input)]
  else names.map fun n => (n, if n = "-" then .ok c.input else readFile c.files n)

/-- What a tool writes of each of its sources; one that cannot be read is a failure, and the others go
on. -/
def ofSources (c : Call) (status : Nat) (names : List String) (before : String)
    (f : String → List UInt8 → List UInt8) : Deed :=
  let parts := (c.sources names).map fun (n, r) =>
    match r with
    | .ok bs => (1, f n bs)
    | .error e => c.complaint (before ++ e)
  { files := c.files, said := parts, status := if parts.any (·.1 == 2) then status else 0 }

/-- The same, where a failure names its source first. -/
def fromSources (c : Call) (names : List String) (shown : String → String)
    (f : String → List UInt8 → List UInt8) : Deed :=
  let parts := (c.sources names).map fun (n, r) =>
    match r with
    | .ok bs => (1, f n bs)
    | .error e => c.complaint (shown n ++ ": " ++ e)
  { files := c.files, said := parts, status := if parts.any (·.1 == 2) then 1 else 0 }

end Call

namespace Tool

/-! ## Lines of bytes -/

/-- The lines of bytes, each with its line feed; the last may lack it. -/
def linesOnto (done : List (List UInt8)) (line : List UInt8) : List UInt8 → List (List UInt8)
  | [] => (if line.isEmpty then done else line.reverse :: done).reverse
  | b :: rest =>
    if b = 10 then linesOnto ((b :: line).reverse :: done) [] rest else linesOnto done (b :: line) rest

def lines (bs : List UInt8) : List (List UInt8) := linesOnto [] [] bs

def bare (line : List UInt8) : List UInt8 := if line.getLast? = some 10 then line.dropLast else line

def ended (line : List UInt8) : List UInt8 := bare line ++ [10]

def ofText (s : String) : List UInt8 := Utf8.encode s

/-- The order of bytes. -/
def bytesLE : List UInt8 → List UInt8 → Bool
  | [], _ => true
  | _ :: _, [] => false
  | a :: p, b :: q => if a = b then bytesLE p q else decide (a < b)

end Tool

end Runbook.Shell
