import Runbook.Value.Basic

/-! The tables of a TOML document while it is read. A table that was written out cannot be written again,
and what stands in brackets or braces cannot be added to. -/

namespace Runbook.Toml

inductive Error where
  | statement
  | lineEnd
  | key
  | value
  | text
  | date
  | unclosed
  | twice
  | closed
deriving DecidableEq, Repr

abbrev Key := List String

abbrev Entries := List (Value × Value)

/-- Changes the entries of the table at a key, which is made if it is not there. An array of tables stands
for its last table if `intoArrays` holds. -/
def updateAt (intoArrays : Bool) (f : Entries → Except Error Entries) :
    Key → Entries → Except Error Entries
  | [], es => f es
  | k :: ks, es => do
    let replaced (v : Value) : Entries :=
      if (Value.lookup? k es).isSome then
        es.map fun e => if Value.keyIs k e then (e.1, v) else e
      else es ++ [(.text k, v)]
    match Value.lookup? k es with
    | none => return replaced (.map (← updateAt intoArrays f ks []))
    | some (.map inner) => return replaced (.map (← updateAt intoArrays f ks inner))
    | some (.list vs) =>
      match intoArrays, vs.getLast? with
      | true, some (.map inner) =>
        return replaced (.list (vs.dropLast ++ [.map (← updateAt intoArrays f ks inner)]))
      | _, _ => throw .twice
    | some _ => throw .twice

/-- Adds an entry whose key is not there yet. -/
def addEntry (k : String) (v : Value) (es : Entries) : Except Error Entries :=
  if (Value.lookup? k es).isSome then .error .twice else .ok (es ++ [(.text k, v)])

/-- Adds an empty table to the array under a key. -/
def addTable (k : String) (es : Entries) : Except Error Entries :=
  match Value.lookup? k es with
  | none => .ok (es ++ [(.text k, .list [.map []])])
  | some (.list vs) =>
    .ok (es.map fun e => if Value.keyIs k e then (e.1, .list (vs ++ [.map []])) else e)
  | some _ => .error .twice

/-- The document so far, the key of the table that is being written, the keys of tables that were written
out, those that count as such when the table ends, and the keys below which nothing is added. -/
structure Draft where
  entries : Entries := []
  header : Key := []
  written : List Key := []
  pending : List Key := []
  frozen : List Key := []

namespace Draft

def isFrozen (d : Draft) (key : Key) : Bool := d.frozen.any fun k => k.isPrefixOf key

def isWritten (d : Draft) (key : Key) : Bool := d.written.contains key

/-- The table that is being written ends. -/
def endTable (d : Draft) : Draft := { d with written := d.pending ++ d.written, pending := [] }

/-- Begins a table. -/
def openTable (d : Draft) (key : Key) : Except Error Draft := do
  if d.isWritten key || d.isFrozen key then throw .twice
  return { d with
    entries := ← updateAt true .ok key d.entries
    header := key
    written := key :: d.written }

/-- Begins the next table of an array. What was said about the tables of the last one is forgotten. -/
def openArrayTable (d : Draft) (key : Key) : Except Error Draft := do
  if d.isFrozen key then throw .closed
  let forget (keys : List Key) : List Key := keys.filter fun k => !key.isPrefixOf k
  return { d with
    entries := ← updateAt true (addTable (key.getLast?.getD "")) key.dropLast d.entries
    header := key
    written := key :: forget d.written
    frozen := forget d.frozen }

def isContainer : Value → Bool
  | .map _ => true
  | .list _ => true
  | _ => false

/-- The keys of the tables between the header and the entry itself. -/
def between (header key : Key) : List Key :=
  (List.range (key.length - 1)).map fun n => header ++ key.take (n + 1)

/-- Writes an entry into the table. -/
def put (d : Draft) (key : Key) (v : Value) : Except Error Draft := do
  let through := between d.header key
  if through.any d.isWritten then throw .twice
  let parent := d.header ++ key.dropLast
  if d.isFrozen parent then throw .closed
  return { d with
    entries := ← updateAt true (addEntry (key.getLast?.getD "") v) parent d.entries
    pending := through ++ d.pending
    frozen := if isContainer v then (d.header ++ key) :: d.frozen else d.frozen }

/-- Writes an entry into an inline table. -/
def putInline (d : Draft) (key : Key) (v : Value) : Except Error Draft := do
  if d.isFrozen key then throw .closed
  return { d with
    entries := ← updateAt false (addEntry (key.getLast?.getD "") v) key.dropLast d.entries
    frozen := if isContainer v then key :: d.frozen else d.frozen }

end Draft

end Runbook.Toml
