import Runbook.Decimal.Binary64
import Runbook.Decimal.Reader
import Runbook.Text.Base64
import Runbook.Unicode.Lowercase
import Runbook.Value.Calendar
import Runbook.Yaml.Error
import Runbook.Yaml.Node

/-! Plain scalars: which type the form of one stands for, and how the text of each type is read. -/

namespace Runbook.Yaml

open Text Decimal

namespace Scalar

def isDigitOrLow (c : Char) : Bool := c.isDigit || c == '_'

def isOctalOrLow (c : Char) : Bool := ('0' ≤ c && c ≤ '7') || c == '_'

def isHexOrLow (c : Char) : Bool :=
  c.isDigit || ('a' ≤ c && c ≤ 'f') || ('A' ≤ c && c ≤ 'F') || c == '_'

def isBitOrLow (c : Char) : Bool := c == '0' || c == '1' || c == '_'

def isSome (p : Char → Bool) (cs : List Char) : Bool := !cs.isEmpty && cs.all p

/-- A part of a number in base sixty: one or two digits below sixty. -/
def isSixtieth : List Char → Bool
  | [a] => a.isDigit
  | [a, b] => a.isDigit && a ≤ '5' && b.isDigit
  | _ => false

/-- Digits that begin with one of the given kind. -/
def isNumeral (first : Char → Bool) : List Char → Bool
  | [] => false
  | c :: rest => first c && rest.all isDigitOrLow

def isInt (cs : List Char) : Bool :=
  match (takeSign cs).2 with
  | ['0'] => true
  | '0' :: 'b' :: ds => isSome isBitOrLow ds
  | '0' :: 'x' :: ds => isSome isHexOrLow ds
  | '0' :: ds => isSome isOctalOrLow ds
  | ds =>
    match splitChars ':' ds with
    | whole :: parts => isNumeral (fun c => c.isDigit && c != '0') whole && parts.all isSixtieth
    | [] => false

/-- Nothing, or an exponent with a sign. -/
def isExponent : List Char → Bool
  | [] => true
  | e :: s :: ds => (e == 'e' || e == 'E') && (s == '-' || s == '+') && isSome Char.isDigit ds
  | _ => false

/-- A point with digits behind it, and an exponent. -/
def isFraction : List Char → Bool
  | '.' :: rest => isExponent (rest.dropWhile isDigitOrLow)
  | _ => false

def isSixtiethFraction (cs : List Char) : Bool :=
  isSixtieth (cs.takeWhile (· != '.')) &&
    match cs.dropWhile (· != '.') with
    | '.' :: ds => ds.all isDigitOrLow
    | _ => false

def isSexagesimalFloat (cs : List Char) : Bool :=
  match splitChars ':' cs with
  | whole :: parts =>
    isNumeral Char.isDigit whole &&
      match parts.reverse with
      | last :: inner => isSixtiethFraction last && inner.all isSixtieth
      | [] => false
  | [] => false

def isFloat (cs : List Char) : Bool :=
  let unsigned := (takeSign cs).2
  (isNumeral Char.isDigit (unsigned.takeWhile isDigitOrLow) &&
      isFraction (unsigned.dropWhile isDigitOrLow)) ||
    (match cs with
      | '.' :: d :: _ => d.isDigit && isFraction cs
      | _ => false) ||
    isSexagesimalFloat unsigned ||
    [".inf", ".Inf", ".INF"].contains (String.ofList unsigned) ||
    [".nan", ".NaN", ".NAN"].contains (String.ofList cs)

def boolWords : List String :=
  ["yes", "Yes", "YES", "no", "No", "NO", "true", "True", "TRUE", "false", "False", "FALSE",
    "on", "On", "ON", "off", "Off", "OFF"]

def nullWords : List String := ["~", "null", "Null", "NULL", ""]

/-- The parts of a date, and of a time of day with a fraction and an offset if there is one. -/
structure TimeParts where
  date : Date
  wide : Bool
  time : Option Moment

def number (cs : List Char) : Nat := digitsValue cs

/-- One or two digits. -/
def shortNumber? (cs : List Char) : Option (List Char × List Char) :=
  match cs with
  | a :: b :: rest =>
    if a.isDigit && b.isDigit then some ([a, b], rest)
    else if a.isDigit then some ([a], b :: rest)
    else none
  | [a] => if a.isDigit then some ([a], []) else none
  | [] => none

/-- Two digits behind a given character. -/
def pairAfter? (c : Char) (cs : List Char) : Option (Nat × List Char) :=
  match cs with
  | d :: a :: b :: rest => if d = c && a.isDigit && b.isDigit then some (number [a, b], rest) else none
  | _ => none

/-- A zone at the end of a time, behind blanks: none at all, universal time or an offset. -/
def zone? (cs : List Char) : Option (Option Int) :=
  match cs with
  | [] => some none
  | _ =>
    match cs.dropWhile fun c => c == ' ' || c == '\t' with
    | ['Z'] => some (some 0)
    | s :: rest =>
      if s == '-' || s == '+' then
        (shortNumber? rest).bind fun (hours, rest) =>
          let offset (minutes : Nat) : Option (Option Int) :=
            let n : Int := (number hours * 60 + minutes) * 60
            some (some (if s == '-' then -n else n))
          match rest with
          | [] => offset 0
          | _ => (pairAfter? ':' rest).bind fun (minutes, rest) =>
            if rest.isEmpty then offset minutes else none
      else none
    | [] => none

/-- The time of day behind a date. -/
def timeOfDay? (date : Date) (cs : List Char) : Option Moment := do
  let rest ←
    match cs with
    | 'T' :: rest => some rest
    | 't' :: rest => some rest
    | c :: _ =>
      if c == ' ' || c == '\t' then some (cs.dropWhile fun c => c == ' ' || c == '\t') else none
    | [] => none
  let (hour, rest) ← shortNumber? rest
  let (minute, rest) ← pairAfter? ':' rest
  let (second, rest) ← pairAfter? ':' rest
  let (fraction, rest) :=
    match rest with
    | '.' :: more => (more.takeWhile Char.isDigit, more.dropWhile Char.isDigit)
    | _ => ([], rest)
  let offset ← zone? rest
  let micro := number ((fraction ++ List.replicate 6 '0').take 6)
  return ⟨date, number hour, minute, second, micro, offset⟩

def timeParts? (cs : List Char) : Option TimeParts := do
  let (year, rest) := (cs.take 4, cs.drop 4)
  guard (year.length = 4 && year.all Char.isDigit)
  guard (rest.headD endChar = '-')
  let (month, rest) ← shortNumber? (rest.drop 1)
  guard (rest.headD endChar = '-')
  let (day, rest) ← shortNumber? (rest.drop 1)
  let date : Date := ⟨number year, number month, number day⟩
  let wide := month.length = 2 && day.length = 2
  if rest.isEmpty then return ⟨date, wide, none⟩
  else return ⟨date, wide, some (← timeOfDay? date rest)⟩

/-- A date alone needs two digits for the month and the day. -/
def isTimestamp (cs : List Char) : Bool :=
  match timeParts? cs with
  | some p => p.time.isSome || p.wide
  | none => false

/-- The text without a line feed at its end. -/
def chopped (s : String) : List Char :=
  let cs := s.toList
  if cs.getLast? = some '\n' then cs.dropLast else cs

/-- The type that the form of a plain scalar stands for. -/
def plainTag (s : String) : Tag :=
  let cs := chopped s
  let word := String.ofList cs
  if boolWords.contains word then .bool
  else if isFloat cs then .float
  else if isInt cs then .int
  else if word == "<<" then .merge
  else if nullWords.contains word && (!cs.isEmpty || s.isEmpty) then .null
  else if isTimestamp cs then .timestamp
  else if word == "=" then .value
  else .text

def refuse {α : Type} (kind : IncidentKind) : Except Error α := .error (.refused kind)

def readBool (s : String) : Except Error Value :=
  match Unicode.toLower s with
  | "yes" => .ok (.bool true)
  | "true" => .ok (.bool true)
  | "on" => .ok (.bool true)
  | "no" => .ok (.bool false)
  | "false" => .ok (.bool false)
  | "off" => .ok (.bool false)
  | _ => refuse .key

def digitOf? (base : Nat) (c : Char) : Option Nat :=
  let v :=
    if c.isDigit then c.toNat - 48
    else if 'a' ≤ c && c ≤ 'z' then c.toNat - 87
    else if 'A' ≤ c && c ≤ 'Z' then c.toNat - 55
    else 99
  if v < base then some v else none

/-- A natural number in a base, with the letter of the base before it or not. -/
def readBase (base : Nat) (letter : Char) (cs : List Char) : Except Error Int :=
  let ds :=
    match cs with
    | '0' :: c :: rest => if c.toLower = letter then rest else cs
    | _ => cs
  match ds.mapM (digitOf? base) with
  | some (v :: vs) => .ok ((v :: vs).foldl (fun n d => base * n + d) 0 : Nat)
  | _ => refuse .refusedValue

def readTen (cs : List Char) : Except Error Int :=
  match readInt? (String.ofList cs) with
  | some n => .ok n
  | none => refuse .refusedValue

/-- A number by its parts in base sixty. -/
def readSixty (cs : List Char) : Except Error Int := do
  let parts ← (splitChars ':' cs).mapM readTen
  return parts.foldl (fun n d => 60 * n + d) 0

def unsignedInt (cs : List Char) : Except Error Int :=
  match cs with
  | [] => refuse .index
  | ['0'] => .ok 0
  | '0' :: 'b' :: ds => readBase 2 'b' ds
  | '0' :: 'x' :: ds => readBase 16 'x' ds
  | '0' :: _ => readBase 8 'o' cs
  | _ => if cs.contains ':' then readSixty cs else readTen cs

def withoutLow (s : String) : List Char := s.toList.filter (· != '_')

def readInt (s : String) : Except Error Value := do
  let cs := withoutLow s
  if cs.isEmpty then refuse .index
  let (neg, ds) := takeSign cs
  let n ← unsignedInt ds
  return .int (if neg then -n else n)

def readNumber (cs : List Char) : Except Error Binary64 :=
  match readFloat? (String.ofList cs) with
  | some x => .ok x
  | none => refuse .refusedValue

/-- The parts of a number in base sixty, the last one first, summed with their powers of the base. -/
def sixtySum (parts : List Binary64) : Binary64 :=
  (parts.foldl (fun (sum, base) x => (sum.add (x.mul (.ofRatio false base 1)), 60 * base))
    (Binary64.zero false, 1)).1

def readFloat (s : String) : Except Error Value := do
  let cs := (Unicode.toLower (String.ofList (withoutLow s))).toList
  if cs.isEmpty then refuse .index
  let (neg, ds) := takeSign cs
  let x ←
    match String.ofList ds with
    | ".inf" => pure (Binary64.infinite false)
    | ".nan" => pure Binary64.nan
    | _ =>
      if ds.contains ':' then do
        pure (sixtySum (← (splitChars ':' ds).mapM readNumber).reverse)
      else readNumber ds
  return .num (if neg then x.negate else x)

def readTimestamp (s : String) : Except Error Value :=
  match timeParts? (chopped s) with
  | none => refuse .member
  | some ⟨_, _, some m⟩ => if m.isValid then .ok (.moment m) else refuse .refusedValue
  | some ⟨d, _, none⟩ => if d.isValid then .ok (.date d) else refuse .refusedValue

def readBinary (s : String) (mark : Mark) : Except Error Value :=
  let fail (what : Problem) : Except Error Value := .error (.problem .values none what mark)
  let cs := s.toList
  match cs.findIdx? (128 ≤ ·.toNat) with
  | some first =>
    let bad := (cs.drop first).takeWhile (128 ≤ ·.toNat)
    fail (.notAsciiBase64 first bad.length (bad.headD endChar))
  | none =>
    match Base64.decode s with
    | .ok bs => .ok (.bytes bs)
    | .error e => fail (.badBase64 e)

/-- The value of a scalar of a type. -/
def read (tag : Tag) (s : String) (mark : Mark) : Except Error Value :=
  match tag with
  | .null => .ok .null
  | .bool => readBool s
  | .int => readInt s
  | .float => readFloat s
  | .binary => readBinary s mark
  | .timestamp => readTimestamp s
  | _ => .ok (.text s)

end Scalar

end Runbook.Yaml
