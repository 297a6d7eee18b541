import Runbook.Shell.Test
import Runbook.Shell.Tool.Basic

/-! Tools that show, make and remove files. -/

namespace Runbook.Shell.Tool

open Text

def baseName (s : String) : String :=
  if !s.isEmpty && s.toList.all (· == '/') then "/" else (PathName.ofText s).parts.getLast?.getD ""

def basename : Tool := fun c =>
  match c.args with
  | [] => c.failed 1 "missing operand\nTry 'basename --help' for more information."
  | s :: more =>
    let name := baseName s
    let ending := more.headD ""
    let short := if endsWith name ending && name != ending then
        String.ofList (name.toList.take (name.length - ending.length)) else name
    c.done (ofText (short ++ "\n"))

def dirname : Tool := fun c =>
  match c.args with
  | [] => c.failed 1 "missing operand\nTry 'dirname --help' for more information."
  | names => c.done (names.flatMap fun s =>
      let cs := (s.toList.reverse.dropWhile (· == '/')).dropWhile (· != '/')
      let dir := String.ofList (cs.dropWhile (· == '/')).reverse
      ofText ((if dir.isEmpty then if startsWith s "/" then "/" else "." else dir) ++ "\n"))

def pwd : Tool := fun c => c.done (ofText (Files.placeText c.files.workDir ++ "\n"))

/-- The names in a directory that a listing shows. -/
def listed (opts : List Char) (f : Files) (place : Place) : List String :=
  let names := f.namesIn place
  let hidden := opts.contains 'a' || opts.contains 'A'
  let shown := if hidden then names else names.filter fun n => !startsWith n "."
  let names := if opts.contains 'a' then "." :: ".." :: shown else shown
  if opts.contains 'r' then names.reverse else names

/-- Where a path leads, if something is there. -/
def placeOf (f : Files) (path : String) : Except String (Place × FileNode) :=
  match placeFor f path with
  | .ok (p, some node) => .ok (p, node)
  | .ok (_, none) => .error noFile
  | .error e => .error e

def ls : Tool := fun c =>
  let (opts, names) := c.options
  let names := Files.sortedNames (if names.isEmpty then ["."] else names)
  let row (s : String) : List UInt8 := ofText (s ++ "\n")
  let found := names.map fun n => (n, placeOf c.files n)
  let missing := found.filterMap fun (n, r) =>
    match r with
    | .error e => some (c.complaint ("cannot access '" ++ n ++ "': " ++ e))
    | .ok _ => none
  let isDir (node : FileNode) : Bool := !Test.isPlain node && !opts.contains 'd'
  let plain := found.filterMap fun (n, r) =>
    match r with
    | .ok (_, node) => if isDir node then none else some n
    | .error _ => none
  let dirs := found.filterMap fun (n, r) =>
    match r with
    | .ok (p, node) => if isDir node then some (n, p) else none
    | .error _ => none
  let blocks :=
    (if plain.isEmpty then [] else [plain.flatMap row]) ++
      dirs.map fun (n, p) =>
        (if 1 < names.length then row (n ++ ":") else []) ++ (listed opts c.files p).flatMap row
  { files := c.files
    said := missing ++ [(1, (blocks.intersperse [10]).flatten)]
    status := if missing.isEmpty then 0 else 2 }

/-- Changes the files name by name; a failure is told and the others go on. -/
def changing (c : Call) (names : List String) (change : Files → String → Except String Files) : Deed :=
  if names.isEmpty then
    c.failed 1 ("missing operand\nTry '" ++ c.name ++ " --help' for more information.")
  else
    names.foldl (fun d n =>
      match change d.files n with
      | .ok files => { d with files }
      | .error e => { d with said := d.said ++ [c.complaint e], status := 1 }) { files := c.files }

def touch : Tool := fun c =>
  let (_, names) := c.options
  changing c names fun f n =>
    if n = "/dev/null" then .ok f
    else
      match placeFor f n with
      | .ok (_, some _) => .ok f
      | .ok (p, none) => .ok (f.put p (.file []))
      | .error e => .error ("cannot touch '" ++ n ++ "': " ++ e)

def mkdir : Tool := fun c =>
  let (opts, names) := c.options
  changing c names fun f n =>
    let refused (e : String) := Except.error ("cannot create directory '" ++ n ++ "': " ++ e)
    if opts.contains 'p' then
      match f.makeDirectories [] (f.resolve (.ofText n)) with
      | .ok g => .ok g
      | .error e => refused (reason e)
    else
      match placeFor f n with
      | .ok (_, some _) => refused "File exists"
      | .ok (p, none) => .ok (f.put p .directory)
      | .error e => refused e

def rmdir : Tool := fun c =>
  let (_, names) := c.options
  changing c names fun f n =>
    let refused (e : String) := Except.error ("failed to remove '" ++ n ++ "': " ++ e)
    match placeFor f n with
    | .ok (p, some .directory) =>
      if (f.namesIn p).isEmpty then .ok (f.erase p) else refused "Directory not empty"
    | .ok (_, some (.file _)) => refused "Not a directory"
    | .ok (_, none) => refused noFile
    | .error e => refused e

def rm : Tool := fun c =>
  let (opts, names) := c.options
  let force := opts.contains 'f'
  if names.isEmpty && force then { files := c.files }
  else
    changing c names fun f n =>
      let refused (e : String) := Except.error ("cannot remove '" ++ n ++ "': " ++ e)
      match placeFor f n with
      | .ok (p, some (.file _)) => .ok (f.erase p)
      | .ok (p, some .directory) =>
        if opts.contains 'r' || opts.contains 'R' then .ok (f.prune p) else refused "Is a directory"
      | .ok (_, none) => if force then .ok f else refused noFile
      | .error e => if force then .ok f else refused e

/-- The place at which a copy under a name lands: below a directory under the name of the source. -/
def target (f : Files) (source name : String) : Except String Place :=
  match placeFor f name with
  | .ok (p, some .directory) => .ok (p ++ [baseName source])
  | .ok (p, _) => .ok p
  | .error e => .error e

/-- A node with all below it at another place. -/
def copyTree (f : Files) (source goal : Place) (node : FileNode) : Files :=
  (f.below source).foldl (fun g p =>
    match f.nodeAt (source ++ p) with
    | some n => g.put (goal ++ p) n
    | none => g) (f.put goal node)

def transfer (move : Bool) : Tool := fun c =>
  let (opts, names) := c.options
  match names.reverse with
  | [] => c.failed 1 ("missing file operand\nTry '" ++ c.name ++ " --help' for more information.")
  | [n] =>
    c.failed 1 ("missing destination file operand after '" ++ n ++ "'\nTry '" ++ c.name ++
      " --help' for more information.")
  | goal :: sources =>
    changing c sources.reverse fun f n =>
      match placeFor f n with
      | .ok (_, none) => .error ("cannot stat '" ++ n ++ "': " ++ noFile)
      | .error e => .error ("cannot stat '" ++ n ++ "': " ++ e)
      | .ok (p, some node) =>
        if !move && !Test.isPlain node && !(opts.contains 'r' || opts.contains 'R' || opts.contains 'a') then
          .error ("-r not specified; omitting directory '" ++ n ++ "'")
        else
          match target f n goal with
          | .error e => .error ("cannot create regular file '" ++ goal ++ "': " ++ e)
          | .ok q =>
            let g := copyTree f p q node
            .ok (if move && p != q then g.prune p else g)

def tee : Tool := fun c =>
  let (opts, names) := c.options
  let deed := names.foldl (fun (d : Deed) n =>
    match placeFor d.files n with
    | .ok (p, some (.file old)) =>
      { d with files := d.files.put p (.file (if opts.contains 'a' then old ++ c.input else c.input)) }
    | .ok (p, none) => { d with files := d.files.put p (.file c.input) }
    | .ok (_, some .directory) => { d with said := d.said ++ [c.complaint (n ++ ": Is a directory")], status := 1 }
    | .error e => { d with said := d.said ++ [c.complaint (n ++ ": " ++ e)], status := 1 }) { files := c.files }
  { deed with said := deed.said ++ [(1, c.input)] }

end Runbook.Shell.Tool
