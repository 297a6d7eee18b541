import Runbook.Act
import Runbook.Files.Glob

/-! Durable bytes under keys, each key a path below the root directory of the store. A write goes to a
temporary file beside the place first, which then takes the place. -/

namespace Runbook

open Text

/-- The root is a path with its tilde taken out. -/
structure Store where
  root : PathName

/-- What the system does not let happen during a write: a directory that is not made, the temporary file, all but so
many bytes of the data, the flush, the sync and the rename. -/
structure Trouble where
  directory : Place → Option Incident := fun _ => none
  temporary : Option Incident := none
  content : Option (Nat × Incident) := none
  flush : Option Incident := none
  sync : Option Incident := none
  rename : Option Incident := none

def Trouble.none : Trouble := {}

namespace Store

def tempSuffix : String := ".tmp"

def escapes (key : String) : Fault := .ofKind .value ("Key escapes store root: " ++ quoted key)

def embeddedNull : Fault := .ofKind .refusedValue "embedded null byte"

def rootPlace (s : Store) (f : Files) : Place := f.resolve s.root

/-- The place of a key, which is the root or below it. -/
def placeOf (s : Store) (f : Files) (key : String) : Except Fault Place :=
  let place := f.resolve (s.root.append (.ofText key))
  if [key, s.root.display, Files.placeText place].any hasNull then .error embeddedNull
  else if (s.rootPlace f).isPrefixOf place then .ok place
  else .error (escapes key)

def read (s : Store) (f : Files) (key : String) : Except Fault (List UInt8) := do
  let place ← s.placeOf f key
  (f.read ⟨true, place⟩).mapError .incident

/-- A place beside another one, for a temporary file. -/
def tempNumbered (place : Place) (n : Nat) : Place :=
  let stem := (PathName.splitName (place.getLast?.getD "")).1
  place.dropLast ++ [stem ++ "_" ++ String.ofList (padLeft 8 '0' (natText n)) ++ tempSuffix]

/-- A place for a temporary file where there is nothing yet. -/
def tempFor (f : Files) (place : Place) : Place :=
  let free := (List.range (f.nodes.length + 1)).find? fun n =>
    (f.nodeAt (tempNumbered place n)).isNone
  tempNumbered place (free.getD f.nodes.length)

/-- A stage of a write: it fails if the system does not let it happen. -/
def stage (trouble : Option Incident) : Act Files Unit :=
  match trouble with
  | some i => throw (.incident i)
  | none => pure ()

/-- Makes the directories that are missing on the way, one after the other. Those that are made stay if a later one
fails; the failure then names the place that is not made instead of the last one. -/
def makeWay (t : Trouble) (here : Place) (fresh : Bool) : List String → Act Files Unit
  | [] => pure ()
  | name :: rest => fun f =>
    let place := here ++ [name]
    let shown := if fresh then place else place ++ rest
    if Files.maxName < name.utf8ByteSize then
      (.error (.incident (Files.tooLong (Files.placeText shown))), f)
    else
      match f.nodeAt place with
      | some .directory => makeWay t place fresh rest f
      | some (.file _) =>
        (.error (.incident (if rest.isEmpty then .exists_ (Files.placeText shown)
          else .notDirectory (Files.placeText shown))), f)
      | none =>
        match t.directory place with
        | some i => (.error (.incident i), f)
        | none => makeWay t place true rest (f.put place .directory)

/-- Makes the directories above a place, unless the path to the last one is too long. -/
def makeParents (t : Trouble) (place : Place) : Act Files Unit := fun f =>
  let shown := Files.placeText place.dropLast
  if Files.maxPath < shown.utf8ByteSize then (.error (.incident (Files.tooLong shown)), f)
  else makeWay t [] false place.dropLast f

/-- Whether the last name or the path is too long for the system. -/
def isTooLong (place : Place) : Bool :=
  Files.maxName < (place.getLast?.getD "").utf8ByteSize ||
    Files.maxPath < (Files.placeText place).utf8ByteSize

def makeTemp (temp : Place) : Act Files Unit := fun f =>
  if isTooLong temp then (.error (.incident (Files.tooLong (Files.placeText temp))), f)
  else (.ok (), f.put temp (.file []))

/-- Makes the temporary file for a key, and finds the places of both. -/
def prepare (t : Trouble) (s : Store) (key : String) : Act Files (Place × Place) := do
  let place ← Act.ofExcept (s.placeOf (← get) key)
  makeParents t place
  let temp := tempFor (← get) place
  stage t.temporary
  makeTemp temp
  return (temp, place)

/-- Writes the data to the temporary file, or a first part of it. -/
def fill (t : Trouble) (temp : Place) (data : List UInt8) : Act Files Unit :=
  match t.content with
  | some (n, i) => fun f => (.error (.incident i), f.put temp (.file (data.take n)))
  | none => Act.change (·.put temp (.file data))

/-- A file takes the place of another file, but not of a directory. -/
def rename (temp place : Place) (data : List UInt8) : Act Files Unit := fun f =>
  if isTooLong place then (.error (.incident (Files.tooLong (Files.placeText place))), f)
  else
    match f.nodeAt place with
    | some .directory => (.error (.incident (.directory (Files.placeText place))), f)
    | _ => (.ok (), (f.erase temp).put place (.file data))

/-- The stages after the temporary file is there. -/
def fillAndRename (t : Trouble) (temp place : Place) (data : List UInt8) : Act Files Unit := do
  fill t temp data
  stage t.flush
  stage t.sync
  stage t.rename
  rename temp place data

/-- Writes all data or nothing. The temporary file does not stay. -/
def writeWith (t : Trouble) (s : Store) (key : String) (data : List UInt8) : Act Files Unit := do
  let (temp, place) ← prepare t s key
  (fillAndRename t temp place data).finally_ (·.erase temp)

def write (s : Store) (key : String) (data : List UInt8) : Act Files Unit :=
  writeWith .none s key data

/-- Whether there was a file under the key to delete. -/
def delete (s : Store) (key : String) : Act Files Bool := do
  let f ← get
  let place ← Act.ofExcept (s.placeOf f key)
  match f.stat ⟨true, place⟩ with
  | .ok (.file _) =>
    set (f.erase place)
    return true
  | .ok .directory => throw (.incident (.directory (Files.placeText place)))
  | .error i => if i.kind = .fileMissing then return false else throw (.incident i)

/-- The failure of a listing below a key where the root is not written as it is resolved. -/
def notBelow (place : Place) (root : PathName) : Fault :=
  .ofKind .refusedValue
    (quoted (Files.placeText place) ++ " is not in the subpath of " ++ quoted root.display)

/-- The keys of the files below a key, with the given ending. An empty key stands for the root, as it is
written. -/
def keys (s : Store) (f : Files) (start ending : String) : Except Fault (List String) := do
  let base : PathName ←
    if start.isEmpty then pure s.root else (s.placeOf f start).map fun place => ⟨true, place⟩
  let there ← (f.isDirectory base).mapError .incident
  if !there then return []
  let places := (Glob.filesBelow f (f.resolve base) ("*" ++ ending)).filter fun p =>
    !endsWith (p.getLast?.getD "") tempSuffix
  places.mapM fun p =>
    if base.absolute == s.root.absolute then
      match s.root.parts.isPrefixOf? (base.parts ++ p) with
      | some rest => .ok (joinWith "/" rest)
      | none => .error (notBelow (base.parts ++ p) s.root)
    else .error (notBelow (base.parts ++ p) s.root)

end Store

end Runbook
