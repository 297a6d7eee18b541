import Runbook.Decimal.Binary64

/-! The dynamic values of variables and documents. -/

namespace Runbook

structure Date where
  year : Nat
  month : Nat
  day : Nat
deriving DecidableEq, Repr

/-- A point of time of a day, with the offset of its zone in seconds if it has one. -/
structure Moment where
  date : Date
  hour : Nat
  minute : Nat
  second : Nat
  micro : Nat
  offset : Option Int
deriving DecidableEq, Repr

/-- A map keeps the order in which its keys were first written. -/
inductive Value where
  | null
  | bool (b : Bool)
  | int (n : Int)
  | num (x : Binary64)
  | text (s : String)
  | bytes (bs : List UInt8)
  | date (d : Date)
  | moment (m : Moment)
  | list (xs : List Value)
  | tuple (xs : List Value)
  | set (xs : List Value)
  | map (entries : List (Value × Value))
deriving Inhabited

namespace Value

/-- A map from texts. -/
def obj (entries : List (String × Value)) : Value := .map (entries.map fun (k, v) => (.text k, v))

def isText : Value → Bool
  | .text _ => true
  | _ => false

def isNull : Value → Bool
  | .null => true
  | _ => false

def isMap : Value → Bool
  | .map _ => true
  | _ => false

def asText? : Value → Option String
  | .text s => some s
  | _ => none

def keyIs (name : String) : Value × Value → Bool
  | (.text k, _) => k == name
  | _ => false

/-- The entry of a map under a text. -/
def lookup? (name : String) (entries : List (Value × Value)) : Option Value :=
  (entries.find? (keyIs name)).map (·.2)

def get? (v : Value) (name : String) : Option Value :=
  match v with
  | .map entries => lookup? name entries
  | _ => none

/-- The entry under a text, or null. -/
def field (v : Value) (name : String) : Value := (v.get? name).getD .null

/-- The name of the type of a value, for the failure to look into it. -/
def typeName : Value → String
  | .null => "NoneType"
  | .bool _ => "bool"
  | .int _ => "int"
  | .num _ => "float"
  | .text _ => "str"
  | .bytes _ => "bytes"
  | .list _ => "list"
  | .tuple _ => "tuple"
  | .set _ => "set"
  | .date _ => "date"
  | .moment _ => "datetime"
  | .map _ => "dict"

/-- Empty and zero values, null and the false one do not hold. -/
def holds : Value → Bool
  | .null => false
  | .bool b => b
  | .int n => n != 0
  | .num x => !x.isZero
  | .text s => !s.isEmpty
  | .bytes bs => !bs.isEmpty
  | .date _ => true
  | .moment _ => true
  | .list xs => !xs.isEmpty
  | .tuple xs => !xs.isEmpty
  | .set xs => !xs.isEmpty
  | .map es => !es.isEmpty

end Value

/-! Values that may be missing are null where they are. -/

def optionText : Option String → Value
  | some s => .text s
  | none => .null

def optionNumber : Option Binary64 → Value
  | some x => .num x
  | none => .null

def optionInt : Option Int → Value
  | some n => .int n
  | none => .null

/-- Named values in the order in which the names were first bound. -/
abbrev Bindings := List (String × Value)

namespace Bindings

def get? (b : Bindings) (name : String) : Option Value := (b.find? (·.1 == name)).map (·.2)

/-- Binds a name; a bound name keeps its place. -/
def set (b : Bindings) (name : String) (v : Value) : Bindings :=
  match b with
  | [] => [(name, v)]
  | (k, w) :: rest => if k = name then (k, v) :: rest else (k, w) :: set rest name v

/-- Binds the names of the second in its order. -/
def update (b more : Bindings) : Bindings := more.foldl (fun acc (k, v) => acc.set k v) b

end Bindings

end Runbook
