/-! Binary floating-point numbers of 64 bits, as exact values: a sign, a significand below 2^53 and
a power of two. Every number but the two zeros has one form, so equality of forms decides equality of
bits; the only operation is rounding a ratio of naturals to the nearest number, ties to even. -/

namespace Runbook

-- Powers are those of the core library, whatever else is imported.
attribute [local instance (2000)] instPowNat

/-- The significand has 53 bits, or fewer at the least exponent. -/
def IsCanonical (sig : Nat) (exp : Int) : Prop :=
  -1074 ≤ exp ∧ exp ≤ 971 ∧ sig < 2 ^ (53 : Nat) ∧ (exp = -1074 ∨ 2 ^ (52 : Nat) ≤ sig)

instance (sig : Nat) (exp : Int) : Decidable (IsCanonical sig exp) := by
  unfold IsCanonical; infer_instance

inductive Binary64 where
  | finite (neg : Bool) (sig : Nat) (exp : Int) (canonical : IsCanonical sig exp)
  | infinite (neg : Bool)
  | nan
deriving DecidableEq

namespace Binary64

def zero (neg : Bool) : Binary64 := .finite neg 0 (-1074) (by decide)

instance : Inhabited Binary64 := ⟨zero false⟩

/-- The quotient rounded to the nearest natural, ties to even. -/
def roundDiv (n d : Nat) : Nat :=
  let q := n / d
  let r := n % d
  if 2 * r < d then q
  else if d < 2 * r then q + 1
  else if q % 2 = 0 then q else q + 1

/-- The rounded quotient of `n / d` by a power of two. -/
def roundScaled (n d : Nat) (exp : Int) : Nat :=
  if 0 ≤ exp then roundDiv n (d * 2 ^ exp.toNat) else roundDiv (n * 2 ^ (-exp).toNat) d

/-- Whether `n / d` is at least `2 ^ k`. -/
def atLeastPow (n d : Nat) (k : Int) : Bool :=
  if 0 ≤ k then d * 2 ^ k.toNat ≤ n else d ≤ n * 2 ^ (-k).toNat

/-- The exponent at which `n / d` has a significand of 53 bits, or the least one. -/
def exponentOf (n d : Nat) : Int :=
  let guess : Int := (n.log2 : Int) - (d.log2 : Int)
  let top := if atLeastPow n d guess then guess else guess - 1
  max (top - 52) (-1074)

/-- A form that overflows is infinite. -/
def ofParts (neg : Bool) (sig : Nat) (exp : Int) : Binary64 :=
  if h : IsCanonical sig exp then .finite neg sig exp h else .infinite neg

/-- The number nearest to `n / d`; a significand that rounds up to 2^53 moves one exponent up. -/
def ofRatio (neg : Bool) (n d : Nat) : Binary64 :=
  if n = 0 then zero neg
  else
    let exp := exponentOf n d
    let sig := roundScaled n d exp
    if sig = 2 ^ (53 : Nat) then ofParts neg (2 ^ (52 : Nat)) (exp + 1) else ofParts neg sig exp

def isFinite : Binary64 → Bool
  | .finite .. => true
  | _ => false

def isNaN : Binary64 → Bool
  | .nan => true
  | _ => false

/-- The number nearest to an integer; none if that is infinite. -/
def ofInt? (n : Int) : Option Binary64 :=
  match ofRatio (n < 0) n.natAbs 1 with
  | .infinite _ => none
  | x => some x

/-- The magnitude of a finite number as a ratio of naturals. -/
def ratio (sig : Nat) (exp : Int) : Nat × Nat :=
  if 0 ≤ exp then (sig * 2 ^ exp.toNat, 1) else (sig, 2 ^ (-exp).toNat)

/-- The integer that a finite number is, if it is one. -/
def toInt? : Binary64 → Option Int
  | .finite neg sig exp _ =>
    let (n, d) := ratio sig exp
    if n % d = 0 then some (if neg then -((n / d : Nat) : Int) else ((n / d : Nat) : Int)) else none
  | _ => none

/-- Rounding toward zero. -/
def truncate? : Binary64 → Option Int
  | .finite neg sig exp _ =>
    let (n, d) := ratio sig exp
    some (if neg then -((n / d : Nat) : Int) else ((n / d : Nat) : Int))
  | _ => none

def isZero : Binary64 → Bool
  | .finite _ sig _ _ => sig = 0
  | _ => false

/-- The value scaled by 2^1074, which is an integer for every finite number. -/
def scaled : Binary64 → Int
  | .finite neg sig exp _ =>
    let m : Int := ((sig * 2 ^ (exp + 1074).toNat : Nat) : Int)
    if neg then -m else m
  | _ => 0

/-- The order of numbers; a NaN is below nothing and the two zeros are equal. -/
def less (a b : Binary64) : Bool :=
  match a, b with
  | .nan, _ => false
  | _, .nan => false
  | .infinite true, .infinite true => false
  | .infinite true, _ => true
  | .infinite false, _ => false
  | .finite .., .infinite neg => !neg
  | x, y => x.scaled < y.scaled

/-- Equality of values: a NaN differs from itself and the two zeros are equal. -/
def eqv (a b : Binary64) : Bool :=
  match a, b with
  | .nan, _ => false
  | _, .nan => false
  | .infinite m, .infinite n => m == n
  | .infinite _, _ => false
  | _, .infinite _ => false
  | x, y => x.scaled == y.scaled

/-! ## Sums and products: the exact result, rounded once -/

def isNegative : Binary64 → Bool
  | .finite neg .. => neg
  | .infinite neg => neg
  | .nan => false

def negate : Binary64 → Binary64
  | .finite neg sig exp h => .finite (!neg) sig exp h
  | .infinite neg => .infinite (!neg)
  | .nan => .nan

/-- A sum that is exactly zero is negative only if both terms are negative. -/
def add (x y : Binary64) : Binary64 :=
  match x, y with
  | .nan, _ => .nan
  | _, .nan => .nan
  | .infinite m, .infinite n => if m = n then .infinite m else .nan
  | .infinite m, _ => .infinite m
  | _, .infinite n => .infinite n
  | _, _ =>
    let s := x.scaled + y.scaled
    if s = 0 then zero (x.isNegative && y.isNegative) else ofRatio (s < 0) s.natAbs (2 ^ (1074 : Nat))

def mul (x y : Binary64) : Binary64 :=
  let neg := x.isNegative != y.isNegative
  match x, y with
  | .nan, _ => .nan
  | _, .nan => .nan
  | .finite _ s e _, .finite _ t f _ =>
    let (n, d) := ratio s e
    let (m, c) := ratio t f
    ofRatio neg (n * m) (d * c)
  | _, _ => if x.isZero || y.isZero then .nan else .infinite neg

end Binary64

end Runbook
