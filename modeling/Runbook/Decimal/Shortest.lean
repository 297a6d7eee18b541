import Runbook.Decimal.Binary64
import Runbook.Text.Basic

/-! Decimal text of floating-point numbers: the fewest digits that read back, and a fixed count of
significant digits. -/

namespace Runbook.Decimal

open Binary64

attribute [local instance (2000)] instPowNat

/-- The number nearest to `digits * 10 ^ exp`. -/
def scaleTen (neg : Bool) (digits : Nat) (exp : Int) : Binary64 :=
  if 0 ≤ exp then ofRatio neg (digits * 10 ^ exp.toNat) 1
  else ofRatio neg digits (10 ^ (-exp).toNat)

/-- Digits and the power of ten of the last one. -/
structure Digits where
  digits : Nat
  exp : Int
deriving DecidableEq, Repr

/-- The count of decimal digits of `n / d` before the point, at most 0 for a value below 1: the `k`
with `10 ^ (k - 1) ≤ n / d < 10 ^ k`, found from a guess that is at most one too small. -/
def magnitude (n d : Nat) : Int :=
  let lower (k : Int) : Bool :=
    if 0 ≤ k then n < d * 10 ^ k.toNat else n * 10 ^ (-k).toNat < d
  let guess : Int := (Nat.toDigits 10 n).length - (Nat.toDigits 10 d).length
  if lower guess then guess else guess + 1

/-- `n / d` divided by a power of ten, as a ratio. -/
def byTen (n d : Nat) (exp : Int) : Nat × Nat :=
  if 0 ≤ exp then (n, d * 10 ^ exp.toNat) else (n * 10 ^ (-exp).toNat, d)

/-- The grid points around `n / d` that read back as `x`; of two the nearer, of a tie the even one. -/
def onGrid? (x : Binary64) (neg : Bool) (n d : Nat) (exp : Int) : Option Digits :=
  let (p, q) := byTen n d exp
  let low := p / q
  let high := if p % q = 0 then low else low + 1
  let fits (m : Nat) : Bool := decide (scaleTen neg m exp = x)
  let near := roundDiv p q
  if fits near then some ⟨near, exp⟩
  else if fits low then some ⟨low, exp⟩
  else if fits high then some ⟨high, exp⟩
  else none

/-- The first grid with a hit among those of the given counts of digits. -/
def firstGrid? (x : Binary64) (neg : Bool) (n d : Nat) (mag : Int) : List Nat → Option Digits
  | [] => none
  | count :: counts =>
    match onGrid? x neg n d (mag - count) with
    | some r => some r
    | none => firstGrid? x neg n d mag counts

/-- Drops the zeros at the end of the digits. -/
def stripZeros : Nat → Digits → Digits
  | 0, r => r
  | fuel + 1, r =>
    if r.digits ≠ 0 ∧ r.digits % 10 = 0 then stripZeros fuel ⟨r.digits / 10, r.exp + 1⟩ else r

/-- All decimal digits of a finite number; a binary fraction has an end. -/
def exact (sig : Nat) (exp : Int) : Digits :=
  if 0 ≤ exp then ⟨sig * 2 ^ exp.toNat, 0⟩ else ⟨sig * 5 ^ (-exp).toNat, exp⟩

/-- The fewest digits that read back as the number. -/
def shortest (x : Binary64) (neg : Bool) (sig : Nat) (exp : Int) : Digits :=
  let (n, d) := ratio sig exp
  let r := (firstGrid? x neg n d (magnitude n d) (List.range' 1 17)).getD (exact sig exp)
  stripZeros 20 r

def digitText (n : Nat) : List Char := Text.natText n

/-- An exponent has a sign and at least two digits. -/
def exponentText (e : Int) : List Char :=
  'e' :: (if e < 0 then '-' else '+') :: Text.padLeft 2 '0' (digitText e.natAbs)

/-- Digits with the point after the first `point` of them, and zeros where there are no digits. -/
def positional (ds : List Char) (point : Int) : List Char × List Char :=
  if point ≤ 0 then (['0'], List.replicate (-point).toNat '0' ++ ds)
  else
    let k := point.toNat
    (ds.take k ++ List.replicate (k - ds.length) '0', ds.drop k)

def signed (neg : Bool) (cs : List Char) : List Char := if neg then '-' :: cs else cs

/-- One digit before the point, and an exponent. -/
def scientific (ds : List Char) (point : Int) : List Char :=
  (match ds with
    | d :: [] => [d]
    | d :: rest => d :: '.' :: rest
    | [] => []) ++ exponentText (point - 1)

/-- Positional from 10^-4 up to below 10^16, always with a fraction; else with an exponent. -/
def unsigned (r : Digits) : List Char :=
  let ds := digitText r.digits
  let point : Int := ds.length + r.exp
  if -4 < point ∧ point ≤ 16 then
    let (whole, frac) := positional ds point
    whole ++ '.' :: (if frac.isEmpty then ['0'] else frac)
  else scientific ds point

/-- The fewest digits that read back. -/
def display (x : Binary64) : String :=
  match x with
  | .nan => "nan"
  | .infinite neg => if neg then "-inf" else "inf"
  | .finite neg sig exp _ =>
    if sig = 0 then (if neg then "-0.0" else "0.0")
    else String.ofList (signed neg (unsigned (shortest x neg sig exp)))

/-- At most six significant digits, without zeros at the end of a fraction. -/
def general (x : Binary64) : String :=
  match x with
  | .nan => "nan"
  | .infinite neg => if neg then "-inf" else "inf"
  | .finite neg sig exp _ =>
    if sig = 0 then (if neg then "-0" else "0")
    else
      let (n, d) := ratio sig exp
      let mag := magnitude n d
      let (p, q) := byTen n d (mag - 6)
      let r := stripZeros 20 ⟨roundDiv p q, mag - 6⟩
      let ds := digitText r.digits
      let point : Int := ds.length + r.exp
      String.ofList <| signed neg <|
        if -4 < point ∧ point ≤ 6 then
          let (whole, frac) := positional ds point
          if frac.isEmpty then whole else whole ++ '.' :: frac
        else scientific ds point

end Runbook.Decimal
