import Runbook.Fault.Incident
import Runbook.Text.Basic
import Runbook.Text.Utf8

/-! Path names, and a tree of files: what is found at a path, and what changes it. A failure names the path as
it was written. -/

namespace Runbook

open Text

/-! ## Path names -/

/-- The components of a path as it is written, without empty ones and single points. -/
structure PathName where
  absolute : Bool
  parts : List String
deriving DecidableEq, Repr

namespace PathName

def ofText (s : String) : PathName where
  absolute := startsWith s "/"
  parts := (splitOn s '/').filter fun p => !p.isEmpty && p != "."

/-- The name of the working directory is a point. -/
def display (p : PathName) : String :=
  if p.absolute then "/" ++ joinWith "/" p.parts
  else if p.parts.isEmpty then "."
  else joinWith "/" p.parts

/-- The second path below the first; an absolute one stands for itself. -/
def append (p q : PathName) : PathName :=
  if q.absolute then q else { p with parts := p.parts ++ q.parts }

def child (p : PathName) (name : String) : PathName := { p with parts := p.parts ++ [name] }

def name (p : PathName) : String := p.parts.getLast?.getD ""

/-- The name before and from its last point on; a point at either end is no such point. -/
def splitName (name : String) : String × String :=
  match splitLast? name '.' with
  | some (stem, ending) => if stem.isEmpty || ending.isEmpty then (name, "") else (stem, "." ++ ending)
  | none => (name, "")

def stem (p : PathName) : String := (splitName p.name).1

def suffix (p : PathName) : String := (splitName p.name).2

/-- The components in the root directory without those that two points take back. -/
def flatten (parts : List String) : List String :=
  (parts.foldl (fun acc p => if p == ".." then acc.drop 1 else p :: acc) []).reverse

end PathName

/-! ## Files -/

inductive FileNode where
  | directory
  | file (content : List UInt8)
deriving DecidableEq, Repr

/-- A place in the tree, by the names on the way from the root directory. -/
abbrev Place := List String

/-- The nodes by their places; the root directory is always there. `home` is the home directory, and
`homes` those of named users. -/
structure Files where
  nodes : List (Place × FileNode) := []
  workDir : Place := []
  home : Option String := none
  homes : List (String × String) := []

namespace Files

/-- The longest name, in bytes. -/
def maxName : Nat := 255

/-- The longest path, in bytes. -/
def maxPath : Nat := 4095

def nodeAt (f : Files) (place : Place) : Option FileNode :=
  if place.isEmpty then some .directory else (f.nodes.find? (·.1 == place)).map (·.2)

def put (f : Files) (place : Place) (n : FileNode) : Files :=
  { f with nodes := f.nodes.filter (·.1 != place) ++ [(place, n)] }

def erase (f : Files) (place : Place) : Files := { f with nodes := f.nodes.filter (·.1 != place) }

def tooLong (shown : String) : Incident := .ofPath 36 "File name too long" shown

def placeText (place : Place) : String := "/" ++ joinWith "/" place

/-- The place to which a path leads, and the node there. Every directory on the way has to be there, also
before two points. -/
def walk (f : Files) (shown : String) (here : Place) :
    List String → Except Incident (Place × Option FileNode)
  | [] => .ok (here, f.nodeAt here)
  | name :: rest =>
    match f.nodeAt here with
    | none => .error (.missing shown)
    | some (.file _) => .error (.notDirectory shown)
    | some .directory =>
      if name == ".." then walk f shown here.dropLast rest
      else if maxName < name.utf8ByteSize then .error (tooLong shown)
      else walk f shown (here ++ [name]) rest

def locate (f : Files) (p : PathName) : Except Incident (Place × Option FileNode) :=
  let shown := p.display
  if hasNull shown then .error ⟨.refusedValue, "embedded null byte", 0, false⟩
  else if maxPath < shown.utf8ByteSize then .error (tooLong shown)
  else f.walk shown (if p.absolute then [] else f.workDir) p.parts

def stat (f : Files) (p : PathName) : Except Incident FileNode :=
  match f.locate p with
  | .ok (_, some n) => .ok n
  | .ok (_, none) => .error (.missing p.display)
  | .error e => .error e

/-- The node at a path, none where the path leads nowhere. -/
def find? (f : Files) (p : PathName) : Except Incident (Option FileNode) :=
  match f.stat p with
  | .ok n => .ok (some n)
  | .error e =>
    if e.kind = .fileMissing ∨ e.kind = .notDirectory ∨ e.kind = .refusedValue then .ok none
    else .error e

def isThere (f : Files) (p : PathName) : Except Incident Bool := (f.find? p).map (·.isSome)

def isDirectory (f : Files) (p : PathName) : Except Incident Bool :=
  (f.find? p).map (· == some .directory)

def isFile (f : Files) (p : PathName) : Except Incident Bool :=
  (f.find? p).map fun
    | some (.file _) => true
    | _ => false

def read (f : Files) (p : PathName) : Except Incident (List UInt8) :=
  match f.stat p with
  | .ok (.file content) => .ok content
  | .ok .directory => .error (.directory p.display)
  | .error e => .error e

/-- Carriage returns before line feeds, and those that stand alone, become line feeds. -/
def plainLines : List Char → List Char
  | [] => []
  | '\r' :: '\n' :: rest => '\n' :: plainLines rest
  | '\r' :: rest => '\n' :: plainLines rest
  | c :: rest => c :: plainLines rest

def readText (f : Files) (p : PathName) : Except Incident String :=
  match f.read p with
  | .error e => .error e
  | .ok bytes =>
    match Utf8.decode bytes with
    | .ok s => .ok (String.ofList (plainLines s.toList))
    | .error e => .error ⟨.textDecoding, e.message, 0, false⟩

def sortedNames (names : List String) : List String := names.mergeSort fun a b => decide (a ≤ b)

/-- The names in a directory. -/
def namesIn (f : Files) (place : Place) : List String :=
  sortedNames <| f.nodes.filterMap fun (p, _) =>
    if p.length = place.length + 1 && p.dropLast == place then p.getLast? else none

/-- The order of places, component by component. -/
def placeLE : Place → Place → Bool
  | [], _ => true
  | _ :: _, [] => false
  | a :: p, b :: q => if a == b then placeLE p q else decide (a < b)

/-- The places below a directory, in order, as they go on from there. -/
def below (f : Files) (place : Place) : List Place :=
  (f.nodes.filterMap fun (p, _) =>
    if place.length < p.length then place.isPrefixOf? p else none).mergeSort placeLE

/-- Makes a directory and those above it. -/
def makeDirectories (f : Files) : Place → Place → Except Incident Files
  | _, [] => .ok f
  | here, name :: rest =>
    let place := here ++ [name]
    if maxName < name.utf8ByteSize then .error (tooLong (placeText (here ++ name :: rest)))
    else
      match f.nodeAt place with
      | some .directory => makeDirectories f place rest
      | some (.file _) =>
        .error (if rest.isEmpty then .exists_ (placeText place)
          else .notDirectory (placeText (place ++ rest)))
      | none => makeDirectories (f.put place .directory) place rest

/-- The absolute path with its two points taken back, whether or not anything is there. -/
def resolve (f : Files) (p : PathName) : Place :=
  PathName.flatten (if p.absolute then p.parts else f.workDir ++ p.parts)

def homeless : Incident := ⟨.runtime, "Could not determine home directory.", 0, false⟩

/-- A tilde at the start stands for the home directory, with a name behind it for that of the user. -/
def expandHome (f : Files) (p : PathName) : Except Incident PathName :=
  match p.parts with
  | first :: rest =>
    if p.absolute || !startsWith first "~" then .ok p
    else
      let user := String.ofList (first.toList.drop 1)
      let home :=
        if user.isEmpty then f.home else (f.homes.find? (·.1 == user)).map (·.2)
      match home with
      | some dir =>
        if startsWith dir "~" then .error homeless
        else .ok ((PathName.ofText dir).append ⟨false, rest⟩)
      | none => .error homeless
  | [] => .ok p

/-- The directories on the way to a place are made where they are missing. -/
def withParents (f : Files) (place : Place) : Files :=
  (List.range place.length).foldl (fun g n =>
    let dir := place.take n
    if (g.nodeAt dir).isSome then g else g.put dir .directory) f

/-- A node at a place, with the directories on the way. -/
def plant (f : Files) (place : Place) (n : FileNode) : Files :=
  let g := f.withParents place
  if n = .directory && (g.nodeAt place).isSome then g else g.put place n

/-- The files without those at a place and below it. -/
def prune (f : Files) (place : Place) : Files :=
  { f with nodes := f.nodes.filter fun (p, _) => !place.isPrefixOf p }

/-- Whether there is anything at a path, which starts from a directory unless it is absolute. -/
def isThereFrom (f : Files) (dir : Option String) (path : String) : Except Incident Bool := do
  let p ← f.expandHome (.ofText path)
  match dir with
  | some d => if p.absolute || d.isEmpty then f.isThere p else f.isThere ((PathName.ofText d).append p)
  | none => f.isThere p

end Files

end Runbook
