import Runbook.Value.Calendar

/-! Values as keys of a map: which of them can be, and when two are one key. Numbers are one key if
they are equal, whatever their kinds. -/

namespace Runbook.Value

mutual

def isHashable : Value → Bool
  | .list _ => false
  | .set _ => false
  | .map _ => false
  | .tuple xs => allHashable xs
  | _ => true

def allHashable : List Value → Bool
  | [] => true
  | v :: vs => isHashable v && allHashable vs

end

/-- The integer that a value counts as. -/
def asInt? : Value → Option Int
  | .bool b => some (if b then 1 else 0)
  | .int n => some n
  | .num x => x.toInt?
  | _ => none

mutual

def sameKey : Value → Value → Bool
  | .null, .null => true
  | .text s, .text t => s == t
  | .bytes s, .bytes t => s == t
  | .date d, .date e => d == e
  | .moment m, .moment n => m.same n
  | .tuple xs, .tuple ys => sameKeys xs ys
  | .num x, .num y => x.eqv y
  | v, w =>
    match asInt? v, asInt? w with
    | some m, some n => m == n
    | _, _ => false

def sameKeys : List Value → List Value → Bool
  | [], [] => true
  | v :: vs, w :: ws => sameKey v w && sameKeys vs ws
  | _, _ => false

end

/-- Writes an entry; a key that is there keeps its place and its form. -/
def putEntry (k v : Value) : List (Value × Value) → List (Value × Value)
  | [] => [(k, v)]
  | (k', v') :: rest =>
    if sameKey k' k then (k', v) :: rest else (k', v') :: putEntry k v rest

/-- Adds a member that is not there yet. -/
def putMember (v : Value) (vs : List Value) : List Value :=
  if vs.any (sameKey · v) then vs else vs ++ [v]

end Runbook.Value
