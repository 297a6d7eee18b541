import Runbook.Yaml.Mark

/-! The tree of a document, before its scalars are read as values. -/

namespace Runbook.Yaml

/-- The types of nodes that a document can name or that follow from the form of a plain scalar. -/
inductive Tag where
  | null
  | bool
  | int
  | float
  | binary
  | timestamp
  | orderedMap
  | pairs
  | set
  | text
  | sequence
  | mapping
  | merge
  | value
  | other (uri : String)
deriving DecidableEq, Repr

namespace Tag

/-- What all standard types begin with. -/
def base : String := "tag:yaml.org,2002:"

def standard : List (String × Tag) := [
  ("null", .null), ("bool", .bool), ("int", .int), ("float", .float), ("binary", .binary),
  ("timestamp", .timestamp), ("omap", .orderedMap), ("pairs", .pairs), ("set", .set), ("str", .text),
  ("seq", .sequence), ("map", .mapping), ("merge", .merge), ("value", .value)]

def ofUri (uri : String) : Tag :=
  ((standard.find? fun (name, _) => base ++ name == uri).map (·.2)).getD (.other uri)

def uri : Tag → String
  | .other uri => uri
  | tag => base ++ ((standard.find? (·.2 == tag)).map (·.1)).getD ""

/-- Whether values of the type are collections. -/
def isCollection : Tag → Bool
  | .orderedMap => true
  | .pairs => true
  | .set => true
  | .sequence => true
  | .mapping => true
  | _ => false

end Tag

inductive Node where
  | scalar (tag : Tag) (text : String) (mark : Mark)
  | sequence (tag : Tag) (items : List Node) (mark : Mark)
  | mapping (tag : Tag) (entries : List (Node × Node)) (mark : Mark)

namespace Node

instance : Inhabited Node := ⟨.scalar .null "" .start⟩

def tag : Node → Tag
  | .scalar tag .. => tag
  | .sequence tag .. => tag
  | .mapping tag .. => tag

def mark : Node → Mark
  | .scalar _ _ mark => mark
  | .sequence _ _ mark => mark
  | .mapping _ _ mark => mark

/-- The kind of a node in messages. -/
def kindName : Node → String
  | .scalar .. => "scalar"
  | .sequence .. => "sequence"
  | .mapping .. => "mapping"

end Node

end Runbook.Yaml
