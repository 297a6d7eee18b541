import Runbook.Value.Basic
import Runbook.Decimal.Reader

/-! Reading JSON. A number with a fraction or an exponent is a floating-point number, any other an
integer of any size; the words for infinity and NaN are accepted. Errors say where they arise. -/

namespace Runbook.Json

inductive Complaint where
  | value
  | propertyName
  | colon
  | comma
  | unterminated
  | control
  | escape
  | codePoint
  | extra
  | byteOrderMark
deriving DecidableEq, Repr

namespace Complaint

def message : Complaint → String
  | .value => "Expecting value"
  | .propertyName => "Expecting property name enclosed in double quotes"
  | .colon => "Expecting ':' delimiter"
  | .comma => "Expecting ',' delimiter"
  | .unterminated => "Unterminated string starting at"
  | .control => "Invalid control character at"
  | .escape => "Invalid \\escape"
  | .codePoint => "Invalid \\uXXXX escape"
  | .extra => "Extra data"
  | .byteOrderMark => "Unexpected UTF-8 BOM (decode using utf-8-sig)"

end Complaint

/-- A complaint and how many characters are left where it arises. An integer of too many digits has a
failure of its own. -/
inductive Fail where
  | at (c : Complaint) (left : Nat)
  | hugeInteger
deriving DecidableEq, Repr

abbrev Result (α : Type) := Except Fail (α × List Char)

def isSpace (c : Char) : Bool := c = ' ' || c = '\t' || c = '\n' || c = '\r'

def skip (cs : List Char) : List Char := cs.dropWhile isSpace

def hexValue? (c : Char) : Option Nat :=
  if c.isDigit then some (c.toNat - 48)
  else if 'a' ≤ c ∧ c ≤ 'f' then some (c.toNat - 87)
  else if 'A' ≤ c ∧ c ≤ 'F' then some (c.toNat - 55)
  else none

def hexFour? : List Char → Option (Nat × List Char)
  | a :: b :: c :: d :: rest =>
    match hexValue? a, hexValue? b, hexValue? c, hexValue? d with
    | some a, some b, some c, some d => some (((a * 16 + b) * 16 + c) * 16 + d, rest)
    | _, _, _, _ => none
  | _ => none

def simpleEscape? : Char → Option Char
  | '"' => some '"'
  | '\\' => some '\\'
  | '/' => some '/'
  | 'b' => some '\x08'
  | 'f' => some '\x0c'
  | 'n' => some '\n'
  | 'r' => some '\r'
  | 't' => some '\t'
  | _ => none

/-- The code point of an escape: two escapes that are a surrogate pair make one character. -/
def codePoint? (cs : List Char) : Option (Char × List Char) :=
  match hexFour? cs with
  | none => none
  | some (_, []) => none
  | some (n, rest) =>
    if 0xd800 ≤ n ∧ n < 0xdc00 then
      match rest with
      | '\\' :: 'u' :: more =>
        match hexFour? more with
        | some (m, rest') =>
          if 0xdc00 ≤ m ∧ m < 0xe000 then
            some (Char.ofNat (0x10000 + (n - 0xd800) * 0x400 + (m - 0xdc00)), rest')
          else some ('\ufffd', rest)
        | none => some ('\ufffd', rest)
      | _ => some ('\ufffd', rest)
    else if 0xdc00 ≤ n ∧ n < 0xe000 then some ('\ufffd', rest)
    else some (Char.ofNat n, rest)

/-- The characters of a string after its opening quote; `opened` counts the characters left at it. -/
def readString (opened : Nat) : Nat → List Char → Result (List Char)
  | 0, _ => .error (.at .unterminated opened)
  | _ + 1, [] => .error (.at .unterminated opened)
  | fuel + 1, c :: rest =>
    if c = '"' then .ok ([], rest)
    else if c = '\\' then
      match rest with
      | [] => .error (.at .unterminated opened)
      | 'u' :: more =>
        match codePoint? more with
        | none => .error (.at .codePoint rest.length)
        | some (d, more') =>
          match readString opened fuel more' with
          | .ok (ds, left) => .ok (d :: ds, left)
          | .error e => .error e
      | e :: more =>
        match simpleEscape? e with
        | none => .error (.at .escape (rest.length + 1))
        | some d =>
          match readString opened fuel more with
          | .ok (ds, left) => .ok (d :: ds, left)
          | .error e => .error e
    else if c.toNat < 32 then .error (.at .control (rest.length + 1))
    else
      match readString opened fuel rest with
      | .ok (ds, left) => .ok (c :: ds, left)
      | .error e => .error e

def stringAt (cs : List Char) : Result (List Char) :=
  readString (cs.length + 1) (cs.length + 1) cs

/-- The digits of the whole part: a zero stands alone. -/
def wholeDigits? : List Char → Option (List Char × List Char)
  | '0' :: rest => some (['0'], rest)
  | c :: rest =>
    if c.isDigit then some ((c :: rest).takeWhile Char.isDigit, (c :: rest).dropWhile Char.isDigit)
    else none
  | [] => none

def fraction (cs : List Char) : List Char × List Char :=
  match cs with
  | '.' :: d :: rest =>
    if d.isDigit then
      ((d :: rest).takeWhile Char.isDigit, (d :: rest).dropWhile Char.isDigit)
    else ([], cs)
  | _ => ([], cs)

/-- The exponent, if one with digits stands here. -/
def exponent? (cs : List Char) : Option (Int × List Char) :=
  match cs with
  | e :: rest =>
    if e = 'e' || e = 'E' then
      let (neg, ds) := Decimal.takeSign rest
      let digits := ds.takeWhile Char.isDigit
      if digits.isEmpty then none
      else
        let n : Int := Decimal.digitsValue digits
        some (if neg then -n else n, ds.dropWhile Char.isDigit)
    else none
  | [] => none

def number? (neg : Bool) (cs : List Char) : Option (Except Fail (Value × List Char)) :=
  match wholeDigits? cs with
  | none => none
  | some (whole, rest) =>
    let (frac, rest) := fraction rest
    match frac, exponent? rest with
    | [], none =>
      if Decimal.maxIntDigits < whole.length then some (.error .hugeInteger)
      else
        let n : Int := Decimal.digitsValue whole
        some (.ok (.int (if neg then -n else n), rest))
    | _, some (e, rest) =>
      some (.ok (.num (Decimal.ofDigits neg (whole ++ frac) (e - frac.length)), rest))
    | _, none => some (.ok (.num (Decimal.ofDigits neg (whole ++ frac) (-frac.length)), rest))

/-- Words with a value of their own. -/
def word? (cs : List Char) : Option (Value × List Char) :=
  let words : List (String × Value) :=
    [("null", .null), ("true", .bool true), ("false", .bool false), ("NaN", .num .nan),
      ("Infinity", .num (.infinite false)), ("-Infinity", .num (.infinite true))]
  words.findSome? fun (w, v) => (w.toList.isPrefixOf? cs).map fun rest => (v, rest)

/-- A member that comes again replaces the value and keeps the place. -/
def insertMember (es : List (Value × Value)) (k : String) (v : Value) : List (Value × Value) :=
  match es with
  | [] => [(.text k, v)]
  | e :: rest => if Value.keyIs k e then (e.1, v) :: rest else e :: insertMember rest k v

mutual

/-- The fuel bounds the values and members read; the count of characters suffices. -/
def readValue : Nat → List Char → Result Value
  | 0, cs => .error (.at .value cs.length)
  | fuel + 1, cs =>
    match cs with
    | '"' :: rest =>
      match stringAt rest with
      | .ok (s, left) => .ok (.text (String.ofList s), left)
      | .error e => .error e
    | '\x7b' :: rest =>
      match skip rest with
      | '\x7d' :: left => .ok (.map [], left)
      | inside => readMembers fuel [] inside
    | '[' :: rest =>
      match skip rest with
      | ']' :: left => .ok (.list [], left)
      | inside => readItems fuel [] inside
    | _ =>
      match word? cs with
      | some (v, left) => .ok (v, left)
      | none =>
        let r := match cs with
          | '-' :: digits => number? true digits
          | _ => number? false cs
        r.getD (.error (.at .value cs.length))

/-- The items of a list from one on, after those in `done`, the last one first. -/
def readItems : Nat → List Value → List Char → Result Value
  | 0, _, cs => .error (.at .value cs.length)
  | fuel + 1, done, cs =>
    match readValue fuel cs with
    | .error e => .error e
    | .ok (v, rest) =>
      match skip rest with
      | ']' :: left => .ok (.list (v :: done).reverse, left)
      | ',' :: more => readItems fuel (v :: done) (skip more)
      | rest => .error (.at .comma rest.length)

def readMembers : Nat → List (Value × Value) → List Char → Result Value
  | 0, _, cs => .error (.at .propertyName cs.length)
  | fuel + 1, done, cs =>
    match cs with
    | '"' :: inside =>
      match stringAt inside with
      | .error e => .error e
      | .ok (k, rest) =>
        match skip rest with
        | ':' :: more =>
          match readValue fuel (skip more) with
          | .error e => .error e
          | .ok (v, rest) =>
            let done := insertMember done (String.ofList k) v
            match skip rest with
            | '\x7d' :: left => .ok (.map done, left)
            | ',' :: more => readMembers fuel done (skip more)
            | rest => .error (.at .comma rest.length)
        | rest => .error (.at .colon rest.length)
    | _ => .error (.at .propertyName cs.length)

end

def readAll (cs : List Char) : Except Fail Value :=
  match cs with
  | '\ufeff' :: _ => .error (.at .byteOrderMark cs.length)
  | _ =>
    match readValue (cs.length + 1) (skip cs) with
    | .error e => .error e
    | .ok (v, rest) =>
      match skip rest with
      | [] => .ok v
      | rest => .error (.at .extra rest.length)

def parse (s : String) : Except Fail Value := readAll s.toList

/-- The complaint with the line, the column and the place where it arises. -/
def Fail.message (input : String) : Fail → String
  | .hugeInteger => "Exceeds the limit (4300 digits) for integer string conversion"
  | .at c left =>
    let cs := input.toList
    let pos := cs.length - left
    let before := cs.take pos
    let line := before.count '\n' + 1
    let column := (before.reverse.takeWhile (· ≠ '\n')).length + 1
    c.message ++ s!": line {line} column {column} (char {pos})"

end Runbook.Json
