import Runbook.Toml.Scalar

/-! Reading TOML documents. -/

namespace Runbook.Toml

open Text

def isBareKey (c : Char) : Bool := c.isAlphanum || c = '-' || c = '_'

def isKeyStart (c : Char) : Bool := isBareKey c || c = '"' || c = '\''

def keyPart (cs : List Char) : Except Error (String × List Char) :=
  match cs with
  | '"' :: rest => (basicLine (cs.length + 1) rest).map fun (s, rest) => (String.ofList s, rest)
  | '\'' :: rest => (literalLine rest).map fun (s, rest) => (String.ofList s, rest)
  | cs =>
    let part := cs.takeWhile isBareKey
    if part.isEmpty then .error .key else .ok (String.ofList part, cs.dropWhile isBareKey)

/-- A key of parts with points between them. The fuel bounds the parts. -/
def keyParts : Nat → List Char → Except Error (Key × List Char)
  | 0, _ => .error .key
  | fuel + 1, cs => do
    let (part, rest) ← keyPart cs
    match skipBlanks rest with
    | '.' :: rest =>
      let (more, rest) ← keyParts fuel (skipBlanks rest)
      return (part :: more, rest)
    | rest => return ([part], rest)

def key (cs : List Char) : Except Error (Key × List Char) := keyParts (cs.length + 1) cs

/-- The rest after a comment, if one stands here. -/
def skipComment (cs : List Char) : Except Error (List Char) :=
  match cs with
  | '#' :: rest =>
    if (rest.takeWhile (· ≠ '\n')).any isControl then .error .text
    else .ok (rest.dropWhile (· ≠ '\n'))
  | _ => .ok cs

/-- The rest after white space and comments on any number of lines. -/
def skipLines : Nat → List Char → Except Error (List Char)
  | 0, cs => .ok cs
  | fuel + 1, cs =>
    match cs.dropWhile isBlankOrLineEnd with
    | '#' :: rest => do skipLines fuel (← skipComment ('#' :: rest))
    | rest => .ok rest

mutual

/-- The fuel bounds the values and entries read. -/
def value : Nat → List Char → Except Error (Value × List Char)
  | 0, _ => .error .value
  | fuel + 1, cs =>
    match cs with
    | '"' :: _ => (quotedText cs).map fun (s, rest) => (.text s, rest)
    | '\'' :: _ => (quotedText cs).map fun (s, rest) => (.text s, rest)
    | 't' :: 'r' :: 'u' :: 'e' :: rest => .ok (.bool true, rest)
    | 'f' :: 'a' :: 'l' :: 's' :: 'e' :: rest => .ok (.bool false, rest)
    | '[' :: rest => do arrayItems fuel [] (← skipLines (rest.length + 1) rest)
    | '\x7b' :: rest =>
      match skipBlanks rest with
      | '\x7d' :: rest => .ok (.map [], rest)
      | rest => inlineEntries fuel {} rest
    | cs => scalar cs

/-- The items of an array after its bracket or a comma; the items come with the last one first. -/
def arrayItems : Nat → List Value → List Char → Except Error (Value × List Char)
  | 0, _, _ => .error .unclosed
  | fuel + 1, found, cs =>
    match cs with
    | ']' :: rest => .ok (.list found.reverse, rest)
    | cs => do
      let (v, rest) ← value fuel cs
      match ← skipLines (rest.length + 1) rest with
      | ']' :: rest => return (.list (v :: found).reverse, rest)
      | ',' :: rest => arrayItems fuel (v :: found) (← skipLines (rest.length + 1) rest)
      | _ => throw .unclosed

/-- The entries of an inline table. -/
def inlineEntries : Nat → Draft → List Char → Except Error (Value × List Char)
  | 0, _, _ => .error .unclosed
  | fuel + 1, d, cs => do
    let (k, rest) ← key cs
    match rest with
    | '=' :: rest =>
      let (v, rest) ← value fuel (skipBlanks rest)
      let d ← d.putInline k v
      match skipBlanks rest with
      | '\x7d' :: rest => return (.map d.entries, rest)
      | ',' :: rest => inlineEntries fuel d (skipBlanks rest)
      | _ => throw .unclosed
    | _ => throw .key

end

def entry (d : Draft) (cs : List Char) : Except Error (Draft × List Char) := do
  let (k, rest) ← key cs
  match rest with
  | '=' :: rest =>
    let (v, rest) ← value (cs.length + 1) (skipBlanks rest)
    return (← d.put k v, skipBlanks rest)
  | _ => throw .key

def header (d : Draft) (cs : List Char) : Except Error (Draft × List Char) := do
  match cs with
  | '[' :: rest =>
    let (k, rest) ← key (skipBlanks rest)
    let d ← d.endTable.openArrayTable k
    match rest with
    | ']' :: ']' :: rest => return (d, skipBlanks rest)
    | _ => throw .statement
  | rest =>
    let (k, rest) ← key (skipBlanks rest)
    let d ← d.endTable.openTable k
    match rest with
    | ']' :: rest => return (d, skipBlanks rest)
    | _ => throw .statement

def statement (d : Draft) (cs : List Char) : Except Error (Draft × List Char) :=
  match cs with
  | '[' :: rest => header d rest
  | '#' :: _ => .ok (d, cs)
  | c :: _ => if isKeyStart c then entry d cs else .error .statement
  | [] => .ok (d, [])

/-- The statements, each on a line of its own. -/
def statements : Nat → Draft → List Char → Except Error Draft
  | 0, d, _ => .ok d
  | fuel + 1, d, cs =>
    match skipBlanks cs with
    | [] => .ok d
    | '\n' :: rest => statements fuel d rest
    | cs => do
      let (d, rest) ← statement d cs
      match ← skipComment rest with
      | [] => return d
      | '\n' :: rest => statements fuel d rest
      | _ => throw .lineEnd

/-- Carriage returns before line feeds are not part of a document. -/
def joinLineEnds : List Char → List Char
  | '\r' :: '\n' :: rest => '\n' :: joinLineEnds rest
  | c :: rest => c :: joinLineEnds rest
  | [] => []

def parse (s : String) : Except Error Value :=
  let cs := joinLineEnds s.toList
  (statements (cs.length + 1) {} cs).map fun d => .map d.entries

end Runbook.Toml
