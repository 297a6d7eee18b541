import Runbook.Files.Basic

/-! Patterns of file names: a star for any characters, a question mark for one, a set in brackets. -/

namespace Runbook.Glob

/-- A set in brackets, with the rest of the pattern behind it. A bracket that is not closed stands for
itself. -/
def setAt? (cs : List Char) : Option (Bool × List Char × List Char) :=
  let (negated, inside) :=
    match cs with
    | '!' :: rest => (true, rest)
    | _ => (false, cs)
  let (head, inside) :=
    match inside with
    | ']' :: rest => ([']'], rest)
    | _ => ([], inside)
  let body := inside.takeWhile (· != ']')
  match inside.dropWhile (· != ']') with
  | _ :: rest => some (negated, head ++ body, rest)
  | [] => none

def inSet (c : Char) : List Char → Bool
  | a :: '-' :: b :: rest => (a ≤ c && c ≤ b) || inSet c rest
  | a :: rest => a == c || inSet c rest
  | [] => false

/-- Whether a name has the form of a pattern; the fuel bounds the pattern and the name together. -/
def fits : Nat → List Char → List Char → Bool
  | 0, _, _ => false
  | fuel + 1, pattern, name =>
    match pattern with
    | [] => name.isEmpty
    | '*' :: rest =>
      fits fuel rest name ||
        match name with
        | _ :: more => fits fuel pattern more
        | [] => false
    | '?' :: rest =>
      match name with
      | _ :: more => fits fuel rest more
      | [] => false
    | '[' :: rest =>
      match name with
      | [] => false
      | c :: more =>
        match setAt? rest with
        | some (negated, set, after) => (inSet c set != negated) && fits fuel after more
        | none => c == '[' && fits fuel rest more
    | p :: rest =>
      match name with
      | c :: more => p == c && fits fuel rest more
      | [] => false

def nameFits (pattern name : String) : Bool :=
  fits (pattern.length + name.length + 1) pattern.toList name.toList

/-- Whether the last names of a place have the forms of patterns. -/
def endFits (patterns : List String) (place : Place) : Bool :=
  patterns.length ≤ place.length &&
    (List.zipWith nameFits patterns (place.drop (place.length - patterns.length))).all id

/-- Files below a directory whose path ends with the form of a pattern. Two stars and an empty name at the end
stand for directories only. -/
def filesBelow (f : Files) (dir : Place) (pattern : String) : List Place :=
  let patterns := Text.splitOn pattern '/'
  if patterns.getLast? = some "**" ∨ patterns.getLast? = some "" then []
  else
    (f.below dir).filter fun p =>
      endFits (patterns.filter (· != "**")) p &&
        match f.nodeAt (dir ++ p) with
        | some (.file _) => true
        | _ => false

end Runbook.Glob
