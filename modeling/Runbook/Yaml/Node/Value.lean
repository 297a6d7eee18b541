import Runbook.Value.Key
import Runbook.Yaml.Node.Reader

/-! The value of a node. The contents of collections are read level by level, so of two problems the one that
is less deep in the document is reported, and of two on one level the first. -/

namespace Runbook.Yaml

/-- An error with its depth in the document. -/
structure Found where
  depth : Nat
  error : Error

abbrev Built (α : Type) := Except Found α

/-- Both results, or the error that is found first. -/
def Built.both {α β : Type} (a : Built α) (b : Built β) : Built (α × β) :=
  match a, b with
  | .ok a, .ok b => .ok (a, b)
  | .error e, .error f => .error (if f.depth < e.depth then f else e)
  | .error e, .ok _ => .error e
  | .ok _, .error f => .error f

def Built.ofExcept {α : Type} (depth : Nat) : Except Error α → Built α
  | .ok a => .ok a
  | .error e => .error ⟨depth, e⟩

namespace Node

def problem {α : Type} (activity : Option (Activity × Mark)) (what : Problem) (mark : Mark) :
    Except Error α :=
  .error (.problem .values (activity.map fun (a, m) => (a, some m)) what mark)

def wrongNode {α : Type} (expected : String) (n : Node) : Except Error α :=
  problem none (.wrongNode expected n.kindName) n.mark

/-- The text of a node where a scalar is needed; a mapping can give it under the value key. -/
def scalarText : Node → Except Error String
  | .scalar _ text _ => .ok text
  | .sequence _ items mark => wrongNode "scalar node" (.sequence .sequence items mark)
  | .mapping _ entries mark =>
    match textOfEntries entries with
    | some r => r
    | none => wrongNode "scalar node" (.mapping .mapping [] mark)
where
  textOfEntries : List (Node × Node) → Option (Except Error String)
    | [] => none
    | (k, v) :: rest => if k.tag = .value then some (scalarText v) else textOfEntries rest

/-- An entry whose parts are read, with the place of its key. -/
structure BuiltEntry where
  key : Built Value
  value : Built Value

/-- The first problem of the merge keys of a mapping, those of merged mappings included. -/
def mergeFlaw (mark : Mark) : List (Node × Node) → Except Error Unit
  | [] => .ok ()
  | (k, v) :: rest => do
    if k.tag = .merge then
      match v with
      | .mapping _ entries m => mergeFlaw m entries
      | .sequence _ items _ => mergeItemsFlaw mark items
      | .scalar .. => problem (some (.mapping, mark)) (.badMerge v.kindName) v.mark
    mergeFlaw mark rest
where
  mergeItemsFlaw (mark : Mark) : List Node → Except Error Unit
    | [] => .ok ()
    | item :: rest => do
      match item with
      | .mapping _ entries m => mergeFlaw m entries
      | _ => problem (some (.mapping, mark)) (.badMergeItem item.kindName) item.mark
      mergeItemsFlaw mark rest

/-- The key of an entry; one that can be no key is a problem at once, whatever it holds. -/
def checkedKey (depth : Nat) (mark : Mark) (k : Node) (key : Built Value) : Built Value :=
  if k.tag.isCollection then
    .ofExcept depth (problem (some (.mapping, mark)) .badKey k.mark)
  else key

/-- The map of entries in turn: a later value replaces an earlier one under the same key. -/
def collectMap : List BuiltEntry → List (Value × Value) → Built (List (Value × Value))
  | [], acc => .ok acc
  | e :: rest, acc =>
    match e.key.both e.value with
    | .ok (k, v) => collectMap rest (Value.putEntry k v acc)
    | .error f =>
      match Built.both (.error f : Built Unit) (collectMap rest acc) with
      | .error g => .error g
      | .ok _ => .error f

mutual

/-- The value of a node at a depth. -/
def build (depth : Nat) : Node → Built Value
  | .scalar tag text mark =>
    match tag with
    | .other uri => .ofExcept depth (problem none (.unknownTag uri) mark)
    | .merge => .ofExcept depth (problem none (.unknownTag Tag.merge.uri) mark)
    | .value => .ofExcept depth (problem none (.unknownTag Tag.value.uri) mark)
    | .sequence => .ofExcept (depth + 1) (wrongNode "sequence node" (.scalar tag text mark))
    | .mapping => .ofExcept (depth + 1) (wrongNode "mapping node" (.scalar tag text mark))
    | .set => .ofExcept (depth + 1) (wrongNode "mapping node" (.scalar tag text mark))
    | .orderedMap =>
      .ofExcept (depth + 1) (problem (some (.orderedMap, mark)) (.wrongNode "sequence" "scalar") mark)
    | .pairs =>
      .ofExcept (depth + 1) (problem (some (.pairs, mark)) (.wrongNode "sequence" "scalar") mark)
    | _ => .ofExcept depth (Scalar.read tag text mark)
  | .sequence tag items mark =>
    let here : Node := .sequence tag [] mark
    match tag with
    | .other uri => .ofExcept depth (problem none (.unknownTag uri) mark)
    | .merge => .ofExcept depth (problem none (.unknownTag Tag.merge.uri) mark)
    | .value => .ofExcept depth (problem none (.unknownTag Tag.value.uri) mark)
    | .sequence => (buildItems (depth + 1) items).map .list
    | .mapping => .ofExcept (depth + 1) (wrongNode "mapping node" here)
    | .set => .ofExcept (depth + 1) (wrongNode "mapping node" here)
    | .orderedMap => (buildPairs .orderedMap mark (depth + 1) items).map .list
    | .pairs => (buildPairs .pairs mark (depth + 1) items).map .list
    | _ => .ofExcept depth (wrongNode "scalar node" here)
  | .mapping tag entries mark =>
    let here : Node := .mapping tag [] mark
    let map : Built (List (Value × Value)) :=
      match mergeFlaw mark entries with
      | .error e => .error ⟨depth + 1, e⟩
      | .ok () =>
        collectMap (mergedEntries mark (depth + 1) entries ++ ownEntries mark (depth + 1) entries) []
    match tag with
    | .other uri => .ofExcept depth (problem none (.unknownTag uri) mark)
    | .merge => .ofExcept depth (problem none (.unknownTag Tag.merge.uri) mark)
    | .value => .ofExcept depth (problem none (.unknownTag Tag.value.uri) mark)
    | .sequence => .ofExcept (depth + 1) (wrongNode "sequence node" here)
    | .mapping => map.map .map
    | .set => map.map fun es => .set (es.map (·.1))
    | .orderedMap =>
      .ofExcept (depth + 1) (problem (some (.orderedMap, mark)) (.wrongNode "sequence" "mapping") mark)
    | .pairs =>
      .ofExcept (depth + 1) (problem (some (.pairs, mark)) (.wrongNode "sequence" "mapping") mark)
    | _ => .ofExcept depth do
      let text ← scalarText (.mapping tag entries mark)
      Scalar.read tag text mark

def buildItems (depth : Nat) : List Node → Built (List Value)
  | [] => .ok []
  | n :: rest => ((build depth n).both (buildItems depth rest)).map fun (v, vs) => v :: vs

/-- The items of an ordered map or of pairs: mappings with one entry. -/
def buildPairs (activity : Activity) (mark : Mark) (depth : Nat) : List Node → Built (List Value)
  | [] => .ok []
  | n :: rest =>
    let first : Built Value :=
      match n with
      | .mapping _ [(k, v)] _ =>
        ((build depth k).both (build depth v)).map fun (k, v) => .tuple [k, v]
      | .mapping _ entries m =>
        .ofExcept depth (problem (some (activity, mark)) (.notSingleEntry entries.length) m)
      | _ =>
        .ofExcept depth
          (problem (some (activity, mark)) (.wrongNode "mapping of length 1" n.kindName) n.mark)
    (first.both (buildPairs activity mark depth rest)).map fun (v, vs) => v :: vs

/-- The entries that a mapping has itself; those it merges stand before them. -/
def ownEntries (mark : Mark) (depth : Nat) : List (Node × Node) → List BuiltEntry
  | [] => []
  | (k, v) :: rest =>
    if k.tag = .merge then ownEntries mark depth rest
    else
      let key : Built Value :=
        match k with
        | .scalar .value text _ => .ok (.text text)
        | _ => build depth k
      ⟨checkedKey depth mark k key, build depth v⟩ :: ownEntries mark depth rest

def mergedEntries (mark : Mark) (depth : Nat) : List (Node × Node) → List BuiltEntry
  | [] => []
  | (k, v) :: rest =>
    (if k.tag = .merge then
      match v with
      | .mapping _ entries _ => mergedEntries mark depth entries ++ ownEntries mark depth entries
      | .sequence _ items _ => mergedItems mark depth items
      | .scalar .. => []
    else []) ++ mergedEntries mark depth rest

/-- Of several merged mappings the first wins, so it comes last. -/
def mergedItems (mark : Mark) (depth : Nat) : List Node → List BuiltEntry
  | [] => []
  | item :: rest =>
    mergedItems mark depth rest ++
      match item with
      | .mapping _ entries _ => mergedEntries mark depth entries ++ ownEntries mark depth entries
      | _ => []

end

end Node

/-- The value of the only document of a text, null if it has none. -/
def read (text : String) : Except Error Value := do
  match ← Node.ofText? text.toList with
  | none => return .null
  | some root =>
    match root.build 0 with
    | .ok v => return v
    | .error found => throw found.error

end Runbook.Yaml
