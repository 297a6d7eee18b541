import Runbook.Decimal.Shortest
import Runbook.Unicode.Basic

/-! Reading numbers from text. White space around a number is passed over, digits may be of any
script, and a low line may stand between two digits. -/

namespace Runbook.Decimal

open Unicode

/-- The digits of every script in ASCII. -/
def foldDigits (cs : List Char) : List Char :=
  cs.map fun c =>
    match digitValue? c with
    | some v => Char.ofNat (48 + v)
    | none => c

def trimmed (s : String) : List Char := foldDigits (Text.trimEnd (Text.trimStart s.toList))

/-- Removes the low lines between digits; none if one stands elsewhere. -/
def dropLowLines? (before : Char) : List Char → Option (List Char)
  | [] => some []
  | '_' :: rest =>
    match rest with
    | d :: _ => if before.isDigit && d.isDigit then dropLowLines? '_' rest else none
    | [] => none
  | c :: rest => (dropLowLines? c rest).map (c :: ·)

def takeSign : List Char → Bool × List Char
  | '-' :: rest => (true, rest)
  | '+' :: rest => (false, rest)
  | cs => (false, cs)

def digitsValue (ds : List Char) : Nat := ds.foldl (fun n d => 10 * n + (d.toNat - 48)) 0

/-- The longest text of digits that is read as one integer. -/
def maxIntDigits : Nat := 4300

/-- An integer in base ten. -/
def readInt? (s : String) : Option Int :=
  match dropLowLines? ' ' (trimmed s) with
  | none => none
  | some cs =>
    let (neg, ds) := takeSign cs
    if ds.isEmpty || !ds.all Char.isDigit || maxIntDigits < ds.length then none
    else
      let n : Int := digitsValue ds
      some (if neg then -n else n)

/-- A number from its digits and a power of ten. Far outside the range the power is not computed. -/
def ofDigits (neg : Bool) (ds : List Char) (exp : Int) : Binary64 :=
  let n := digitsValue ds
  if n = 0 then Binary64.zero neg
  else
    let top : Int := (digitText n).length + exp
    if 400 < top then .infinite neg
    else if top < -400 then Binary64.zero neg
    else scaleTen neg n exp

/-- The exponent part at the end of a number; `some 0` if there is none. -/
def readExponent? : List Char → Option Int
  | [] => some 0
  | e :: rest =>
    if e = 'e' || e = 'E' then
      let (neg, ds) := takeSign rest
      if ds.isEmpty || !ds.all Char.isDigit then none
      else
        let n : Int := digitsValue ds
        some (if neg then -n else n)
    else none

def readUnsigned? (neg : Bool) (cs : List Char) : Option Binary64 :=
  let whole := cs.takeWhile Char.isDigit
  let rest := cs.dropWhile Char.isDigit
  let (frac, rest) :=
    match rest with
    | '.' :: more => (more.takeWhile Char.isDigit, more.dropWhile Char.isDigit)
    | _ => ([], rest)
  if whole.isEmpty && frac.isEmpty then none
  else (readExponent? rest).map fun e => ofDigits neg (whole ++ frac) (e - frac.length)

/-- A floating-point number, the words for infinity and NaN included. -/
def readFloat? (s : String) : Option Binary64 :=
  match dropLowLines? ' ' (trimmed s) with
  | none => none
  | some cs =>
    let (neg, body) := takeSign cs
    match String.ofList (body.map Char.toLower) with
    | "inf" => some (.infinite neg)
    | "infinity" => some (.infinite neg)
    | "nan" => some .nan
    | _ => readUnsigned? neg body

end Runbook.Decimal
