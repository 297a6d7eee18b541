import Runbook.Text.Basic

/-! Arithmetic of the shell: expressions over words of 64 bits with a sign. -/

namespace Runbook.Shell.Arithmetic

attribute [local instance (2000)] instPowNat

inductive Error where
  | primary
  | closing
  | colon
  | ending
  | divisionByZero
  | badNumber (text : String)
deriving DecidableEq, Repr

def Error.message (expression : String) : Error → String
  | .primary => "arithmetic expression: expecting primary: \"" ++ expression ++ "\""
  | .closing => "arithmetic expression: expecting ')': \"" ++ expression ++ "\""
  | .colon => "arithmetic expression: expecting ':': \"" ++ expression ++ "\""
  | .ending => "arithmetic expression: expecting EOF: \"" ++ expression ++ "\""
  | .divisionByZero => "arithmetic expression: division by zero: \"" ++ expression ++ "\""
  | .badNumber text => "Illegal number: " ++ text

def wrap (n : Int) : Int := Int.bmod n (2 ^ (64 : Nat))

def digit? (base : Nat) (c : Char) : Option Nat :=
  let n :=
    if c.isDigit then some (c.toNat - '0'.toNat)
    else if 'a' ≤ c ∧ c ≤ 'z' then some (c.toNat - 'a'.toNat + 10)
    else if 'A' ≤ c ∧ c ≤ 'Z' then some (c.toNat - 'A'.toNat + 10)
    else none
  n.filter (· < base)

def digits? (base : Nat) (cs : List Char) : Option Nat :=
  if cs.isEmpty then none
  else cs.foldl (fun n c => n.bind fun n => (digit? base c).map (base * n + ·)) (some 0)

/-- A number as a constant is written: with `0x` in sixteen, with another zero in front in eight, else
in ten. -/
def constant? : List Char → Option Nat
  | '0' :: 'x' :: cs | '0' :: 'X' :: cs => digits? 16 cs
  | '0' :: c :: cs => digits? 8 (c :: cs)
  | cs => digits? 10 cs

/-- A constant with a sign or without; a missing one is zero. -/
def integer? (s : String) : Option Int :=
  match Text.trimEnd (Text.trimStart s.toList) with
  | [] => some 0
  | '-' :: cs => (constant? cs).map fun n => wrap (-n)
  | '+' :: cs => (constant? cs).map fun n => wrap n
  | cs => (constant? cs).map fun n => wrap n

inductive Unary where
  | plus | minus | not | complement
deriving DecidableEq, Repr

inductive Binary where
  | or | and | bitOr | bitXor | bitAnd | eq | ne | less | lessEq | more | moreEq | left | right | add | sub
  | mul | div | rem
deriving DecidableEq, Repr

inductive Expr where
  | constant (n : Nat)
  | name (s : String)
  | unary (op : Unary) (a : Expr)
  | binary (op : Binary) (a b : Expr)
  | choice (test a b : Expr)
deriving Repr, Inhabited

/-! ## Reading -/

inductive Token where
  | number (cs : List Char)
  | name (s : String)
  | sign (s : String)
deriving DecidableEq, Repr

def signs : List String :=
  ["||", "&&", "==", "!=", "<=", ">=", "<<", ">>", "|", "^", "&", "<", ">", "+", "-", "*", "/", "%", "!",
    "~", "(", ")", "?", ":"]

def isWordPart (c : Char) : Bool := c.isAlphanum || c == '_'

def tokens : Nat → List Char → Except Error (List Token)
  | 0, _ => .ok []
  | _ + 1, [] => .ok []
  | fuel + 1, c :: rest =>
    if Unicode.isBlank c then tokens fuel rest
    else if isWordPart c then do
      let word := (c :: rest).takeWhile isWordPart
      let more ← tokens fuel (rest.dropWhile isWordPart)
      return (if c.isDigit then .number word else .name (String.ofList word)) :: more
    else
      match signs.findSome? fun s => (s.toList.isPrefixOf? (c :: rest)).map (s, ·) with
      | some (s, after) => (tokens fuel after).map (.sign s :: ·)
      | none => .error .primary

/-- The signs of two operands by their rank, the loosest first. -/
def ranks : List (List (String × Binary)) :=
  [[("||", .or)], [("&&", .and)], [("|", .bitOr)], [("^", .bitXor)], [("&", .bitAnd)],
    [("==", .eq), ("!=", .ne)], [("<=", .lessEq), (">=", .moreEq), ("<", .less), (">", .more)],
    [("<<", .left), (">>", .right)], [("+", .add), ("-", .sub)],
    [("*", .mul), ("/", .div), ("%", .rem)]]

def unarySigns : List (String × Unary) := [("+", .plus), ("-", .minus), ("!", .not), ("~", .complement)]

mutual

def choice : Nat → List Token → Except Error (Expr × List Token)
  | 0, _ => .error .primary
  | fuel + 1, ts => do
    let (test, rest) ← ranked fuel 0 ts
    match rest with
    | .sign "?" :: rest =>
      let (a, rest) ← choice fuel rest
      match rest with
      | .sign ":" :: rest =>
        let (b, rest) ← choice fuel rest
        return (.choice test a b, rest)
      | _ => .error .colon
    | _ => return (test, rest)

/-- An expression of signs of a rank and tighter ones. -/
def ranked : Nat → Nat → List Token → Except Error (Expr × List Token)
  | 0, _, _ => .error .primary
  | fuel + 1, rank, ts => do
    if rank < ranks.length then
      let (a, rest) ← ranked fuel (rank + 1) ts
      continued fuel rank a rest
    else primary fuel ts

def continued : Nat → Nat → Expr → List Token → Except Error (Expr × List Token)
  | 0, _, _, _ => .error .primary
  | fuel + 1, rank, a, ts => do
    match ts with
    | .sign s :: rest =>
      match ((ranks[rank]?).getD []).lookup s with
      | some op =>
        let (b, rest) ← ranked fuel (rank + 1) rest
        continued fuel rank (.binary op a b) rest
      | none => return (a, ts)
    | _ => return (a, ts)

def primary : Nat → List Token → Except Error (Expr × List Token)
  | 0, _ => .error .primary
  | fuel + 1, ts => do
    match ts with
    | .number cs :: rest =>
      match constant? cs with
      | some n => return (.constant n, rest)
      | none => .error (.badNumber (String.ofList cs))
    | .name s :: rest => return (.name s, rest)
    | .sign "(" :: rest =>
      let (a, rest) ← choice fuel rest
      match rest with
      | .sign ")" :: rest => return (a, rest)
      | _ => .error .closing
    | .sign s :: rest =>
      match unarySigns.lookup s with
      | some op =>
        let (a, rest) ← primary fuel rest
        return (.unary op a, rest)
      | none => .error .primary
    | [] => .error .primary

end

/-- An expression; without tokens it is zero. -/
def read (cs : List Char) : Except Error Expr := do
  let ts ← tokens (cs.length + 1) cs
  if ts.isEmpty then return .constant 0
  let (e, rest) ← choice (20 * ts.length + 20) ts
  if rest.isEmpty then return e else .error .ending

/-! ## Values -/

def truth (b : Bool) : Int := if b then 1 else 0

def Unary.apply (op : Unary) (a : Int) : Int :=
  match op with
  | .plus => a
  | .minus => wrap (-a)
  | .not => truth (a == 0)
  | .complement => -a - 1

/-- The bits of two words joined bit by bit. -/
def bitwise (f : BitVec 64 → BitVec 64 → BitVec 64) (a b : Int) : Int :=
  (f (BitVec.ofInt 64 a) (BitVec.ofInt 64 b)).toInt

def Binary.apply (op : Binary) (a b : Int) : Except Error Int :=
  match op with
  | .or => .ok (truth (a != 0 || b != 0))
  | .and => .ok (truth (a != 0 && b != 0))
  | .bitOr => .ok (bitwise (· ||| ·) a b)
  | .bitXor => .ok (bitwise (· ^^^ ·) a b)
  | .bitAnd => .ok (bitwise (· &&& ·) a b)
  | .eq => .ok (truth (a == b))
  | .ne => .ok (truth (a != b))
  | .less => .ok (truth (decide (a < b)))
  | .lessEq => .ok (truth (decide (a ≤ b)))
  | .more => .ok (truth (decide (b < a)))
  | .moreEq => .ok (truth (decide (b ≤ a)))
  | .left => .ok (wrap (a * 2 ^ (b % 64).toNat))
  | .right => .ok (a / 2 ^ (b % 64).toNat)
  | .add => .ok (wrap (a + b))
  | .sub => .ok (wrap (a - b))
  | .mul => .ok (wrap (a * b))
  | .div => if b = 0 then .error .divisionByZero else .ok (wrap (Int.tdiv a b))
  | .rem => if b = 0 then .error .divisionByZero else .ok (Int.tmod a b)

/-- The second operand of the two connectives counts only where the first leaves the answer open. -/
def eval (look : String → Except Error Int) : Expr → Except Error Int
  | .constant n => .ok (wrap n)
  | .name s => look s
  | .unary op a => (eval look a).map op.apply
  | .binary .or a b => do
    if (← eval look a) != 0 then return 1
    return truth ((← eval look b) != 0)
  | .binary .and a b => do
    if (← eval look a) == 0 then return 0
    return truth ((← eval look b) != 0)
  | .binary op a b => do op.apply (← eval look a) (← eval look b)
  | .choice test a b => do
    if (← eval look test) != 0 then eval look a else eval look b

end Runbook.Shell.Arithmetic
