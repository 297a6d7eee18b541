import Runbook.Decimal.Reader
import Runbook.Toml.Quoted
import Runbook.Value.Calendar

/-! Numbers, dates and times. -/

namespace Runbook.Toml

open Text

/-- Digits of a base with single low lines between them, without these. -/
def digits (isDigit : Char → Bool) : List Char → List Char × List Char
  | [] => ([], [])
  | c :: rest =>
    if isDigit c then
      let (more, left) := digits isDigit rest
      (c :: more, left)
    else
      match c, rest with
      | '_', d :: _ =>
        if isDigit d then digits isDigit rest else ([], c :: rest)
      | _, _ => ([], c :: rest)

/-- Digits that begin with a digit. -/
def digits? (isDigit : Char → Bool) (cs : List Char) : Option (List Char × List Char) :=
  match cs with
  | c :: _ => if isDigit c then some (digits isDigit cs) else none
  | [] => none

def valueIn (base : Nat) (ds : List Char) : Nat :=
  ds.foldl (fun n d => base * n + (hexValue? d).getD 0) 0

/-- A number of another base, behind a zero and a letter. -/
def based? : List Char → Option (Value × List Char)
  | '0' :: 'x' :: rest =>
    (digits? (fun c => (hexValue? c).isSome) rest).map fun (ds, left) => (.int (valueIn 16 ds), left)
  | '0' :: 'o' :: rest =>
    (digits? (fun c => '0' ≤ c && c ≤ '7') rest).map fun (ds, left) => (.int (valueIn 8 ds), left)
  | '0' :: 'b' :: rest =>
    (digits? (fun c => c = '0' || c = '1') rest).map fun (ds, left) => (.int (valueIn 2 ds), left)
  | _ => none

/-- The whole part: a zero stands alone. -/
def whole? : List Char → Option (List Char × List Char)
  | '0' :: rest => some (['0'], rest)
  | cs => digits? Char.isDigit cs

def fraction (cs : List Char) : List Char × List Char :=
  match cs with
  | '.' :: rest => (digits? Char.isDigit rest).getD ([], cs)
  | _ => ([], cs)

def exponent? (cs : List Char) : Option (Int × List Char) :=
  match cs with
  | e :: rest =>
    if e = 'e' || e = 'E' then
      let (neg, rest) := Decimal.takeSign rest
      (digits? Char.isDigit rest).map fun (ds, left) =>
        let n : Int := Decimal.digitsValue ds
        (if neg then -n else n, left)
    else none
  | [] => none

/-- A number of base ten, whole without a fraction and an exponent. -/
def decimal? (cs : List Char) : Option (Value × List Char) := do
  let (neg, rest) := Decimal.takeSign cs
  let (ds, rest) ← whole? rest
  let (frac, rest) := fraction rest
  match frac, exponent? rest with
  | [], none =>
    let n : Int := Decimal.digitsValue ds
    return (.int (if neg then -n else n), rest)
  | _, some (e, rest) => return (.num (Decimal.ofDigits neg (ds ++ frac) (e - frac.length)), rest)
  | _, none => return (.num (Decimal.ofDigits neg (ds ++ frac) (-frac.length)), rest)

/-- The words of numbers that are not finite. -/
def word? (cs : List Char) : Option (Value × List Char) :=
  let words : List (String × Value) :=
    [("inf", .num (.infinite false)), ("nan", .num .nan), ("+inf", .num (.infinite false)),
      ("-inf", .num (.infinite true)), ("+nan", .num .nan), ("-nan", .num .nan)]
  words.findSome? fun (w, v) => (w.toList.isPrefixOf? cs).map fun rest => (v, rest)

/-- A number of exactly so many digits. -/
def fixed? (width : Nat) (cs : List Char) : Option (Nat × List Char) :=
  let ds := cs.take width
  if ds.length = width && ds.all Char.isDigit then some (Decimal.digitsValue ds, cs.drop width) else none

def literal? (c : Char) : List Char → Option (List Char)
  | d :: rest => if d = c then some rest else none
  | [] => none

/-- A fraction of a second in millionths; further digits are passed over. -/
def micros (cs : List Char) : Nat × List Char :=
  let (ds, rest) := match cs with
    | '.' :: rest =>
      let ds := rest.takeWhile Char.isDigit
      if ds.isEmpty then ([], cs) else (ds, rest.dropWhile Char.isDigit)
    | _ => ([], cs)
  let ds := ds.take 6
  (Decimal.digitsValue (ds ++ List.replicate (6 - ds.length) '0'), rest)

/-- The clock reading at the start of some characters, on a day. -/
def clock? (date : Date) (cs : List Char) : Option (Moment × List Char) := do
  let (hour, cs) ← fixed? 2 cs
  let (minute, cs) ← fixed? 2 (← literal? ':' cs)
  let (second, cs) ← fixed? 2 (← literal? ':' cs)
  if 23 < hour || 59 < minute || 59 < second then none
  else
    let (micro, cs) := micros cs
    return (⟨date, hour, minute, second, micro, none⟩, cs)

/-- The offset of a zone in seconds. -/
def zone? (cs : List Char) : Option (Int × List Char) :=
  match cs with
  | 'Z' :: rest => some (0, rest)
  | 'z' :: rest => some (0, rest)
  | s :: rest =>
    if s = '+' || s = '-' then do
      let (hours, rest) ← fixed? 2 rest
      let (minutes, rest) ← fixed? 2 (← literal? ':' rest)
      if 23 < hours || 59 < minutes then none
      else
        let n : Int := (hours * 60 + minutes) * 60
        return (if s = '-' then -n else n, rest)
    else none
  | [] => none

def day? (cs : List Char) : Option (Date × List Char) := do
  let (year, cs) ← fixed? 4 cs
  let (month, cs) ← fixed? 2 (← literal? '-' cs)
  let (day, cs) ← fixed? 2 (← literal? '-' cs)
  if month = 0 || 12 < month || day = 0 || 31 < day then none else return (⟨year, month, day⟩, cs)

/-- A date, with a time and a zone if they follow. -/
def dated (date : Date) (cs : List Char) : Value × List Char :=
  match cs with
  | t :: rest =>
    if t = 'T' || t = 't' || t = ' ' then
      match clock? date rest with
      | some (m, rest) =>
        match zone? rest with
        | some (offset, rest) => (.moment { m with offset := some offset }, rest)
        | none => (.moment m, rest)
      | none => (.date date, cs)
    else (.date date, cs)
  | [] => (.date date, cs)

/-- The first day of the calendar; a time of day is one of that day. -/
def noDay : Date := ⟨1, 1, 1⟩

/-- A date, a time or a number. -/
def scalar (cs : List Char) : Except Error (Value × List Char) :=
  match day? cs with
  | some (date, rest) => if date.isValid then .ok (dated date rest) else .error .date
  | none =>
    match clock? noDay cs with
    | some (m, rest) => .ok (.moment m, rest)
    | none =>
      match (based? cs).orElse fun _ => (decimal? cs).orElse fun _ => word? cs with
      | some r => .ok r
      | none => .error .value

end Runbook.Toml
