import Runbook.Text.Basic
import Runbook.Toml.Table

/-! Quoted texts: basic ones, with escapes, and literal ones, each on one line or on several. -/

namespace Runbook.Toml

open Text

def isBlank (c : Char) : Bool := c = ' ' || c = '\t'

def skipBlanks (cs : List Char) : List Char := cs.dropWhile isBlank

def isBlankOrLineEnd (c : Char) : Bool := isBlank c || c = '\n'

/-- Control characters may not stand in texts and comments, tabs excepted. -/
def isControl (c : Char) : Bool := (c.toNat < 32 || c.toNat = 127) && c != '\t'

def hexValue? (c : Char) : Option Nat :=
  if c.isDigit then some (c.toNat - 48)
  else if 'a' ≤ c ∧ c ≤ 'f' then some (c.toNat - 87)
  else if 'A' ≤ c ∧ c ≤ 'F' then some (c.toNat - 55)
  else none

/-- The character of a code with so many digits. -/
def hexChar (width : Nat) (cs : List Char) : Except Error (Char × List Char) :=
  let digits := (cs.take width).filterMap hexValue?
  let code := digits.foldl (fun n d => 16 * n + d) 0
  if digits.length = width && code.isValidChar then .ok (Char.ofNat code, cs.drop width)
  else .error .text

def simpleEscape? : Char → Option Char
  | 'b' => some '\x08'
  | 't' => some '\t'
  | 'n' => some '\n'
  | 'f' => some '\x0c'
  | 'r' => some '\r'
  | '"' => some '"'
  | '\\' => some '\\'
  | _ => none

/-- The character that stands behind a backslash. -/
def escape : List Char → Except Error (Char × List Char)
  | 'u' :: rest => hexChar 4 rest
  | 'U' :: rest => hexChar 8 rest
  | c :: rest =>
    match simpleEscape? c with
    | some e => .ok (e, rest)
    | none => .error .text
  | [] => .error .text

/-- A basic text after its quote. The fuel bounds the characters read. -/
def basicLine : Nat → List Char → Except Error (List Char × List Char)
  | 0, _ => .error .text
  | fuel + 1, cs =>
    match cs with
    | [] => .error .text
    | '"' :: rest => .ok ([], rest)
    | '\\' :: rest => do
      let (c, rest) ← escape rest
      let (more, rest) ← basicLine fuel rest
      return (c :: more, rest)
    | c :: rest => do
      if isControl c then throw .text
      let (more, rest) ← basicLine fuel rest
      return (c :: more, rest)

/-- Up to two quotes stand before the three that close a text on several lines. -/
def closingQuotes (quote : Char) : List Char → List Char × List Char
  | a :: b :: rest =>
    if a = quote then if b = quote then ([a, b], rest) else ([a], b :: rest) else ([], a :: b :: rest)
  | [a] => if a = quote then ([a], []) else ([], [a])
  | [] => ([], [])

/-- A backslash at the end of a line takes the white space behind it away. -/
def foldedLine? (cs : List Char) : Option (List Char) :=
  match cs with
  | '\n' :: rest => some (rest.dropWhile isBlankOrLineEnd)
  | c :: rest =>
    if isBlank c then
      match skipBlanks rest with
      | '\n' :: more => some (more.dropWhile isBlankOrLineEnd)
      | [] => some []
      | _ => none
    else none
  | [] => none

/-- A basic text on several lines after its quotes. -/
def basicLines : Nat → List Char → Except Error (List Char × List Char)
  | 0, _ => .error .text
  | fuel + 1, cs =>
    match cs with
    | [] => .error .text
    | '"' :: '"' :: '"' :: rest =>
      let (quotes, rest) := closingQuotes '"' rest
      .ok (quotes, rest)
    | '\\' :: rest =>
      match foldedLine? rest with
      | some rest => basicLines fuel rest
      | none => do
        let (c, rest) ← escape rest
        let (more, rest) ← basicLines fuel rest
        return (c :: more, rest)
    | c :: rest => do
      if isControl c && c != '\n' then throw .text
      let (more, rest) ← basicLines fuel rest
      return (c :: more, rest)

/-- A literal text after its quote. -/
def literalLine : List Char → Except Error (List Char × List Char)
  | [] => .error .text
  | c :: rest => do
    if c = '\'' then return ([], rest)
    if isControl c then throw .text
    let (more, rest) ← literalLine rest
    return (c :: more, rest)

/-- A literal text on several lines after its quotes. -/
def literalLines : List Char → Except Error (List Char × List Char)
  | [] => .error .text
  | '\'' :: '\'' :: '\'' :: rest => .ok (closingQuotes '\'' rest)
  | c :: rest => do
    if isControl c && c != '\n' then throw .text
    let (more, rest) ← literalLines rest
    return (c :: more, rest)

def dropLineEnd : List Char → List Char
  | '\n' :: rest => rest
  | cs => cs

/-- A quoted text of any form, from its first quote on. -/
def quotedText (cs : List Char) : Except Error (String × List Char) :=
  let read : Except Error (List Char × List Char) :=
    match cs with
    | '"' :: '"' :: '"' :: rest => basicLines (cs.length + 1) (dropLineEnd rest)
    | '"' :: rest => basicLine (cs.length + 1) rest
    | '\'' :: '\'' :: '\'' :: rest => literalLines (dropLineEnd rest)
    | '\'' :: rest => literalLine rest
    | _ => .error .value
  read.map fun (s, rest) => (String.ofList s, rest)

end Runbook.Toml
