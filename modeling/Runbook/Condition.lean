import Runbook.Value.Display
import Runbook.Decimal.Reader
import Runbook.Unicode.Lowercase
import Runbook.Fault.Failure

/-! Conditions over named values: keywords, forms with bars, comparisons and bare names. The text of a
condition is read into a form first; every text has one. -/

namespace Runbook

open Text

inductive Comparison where
  | equal
  | notEqual
  | atLeast
  | atMost
  | greater
  | less
deriving DecidableEq, Repr

namespace Comparison

def sign : Comparison → String
  | .equal => "=="
  | .notEqual => "!="
  | .atLeast => ">="
  | .atMost => "<="
  | .greater => ">"
  | .less => "<"

/-- The order in which signs are looked for: one of two characters before one of its parts. -/
def all : List Comparison := [.equal, .notEqual, .atLeast, .atMost, .greater, .less]

end Comparison

/-- The tests that are written with bars. -/
inductive BarTest where
  | equals
  | contains
  | greaterThan
  | lessThan
deriving DecidableEq, Repr

namespace BarTest

def word : BarTest → String
  | .equals => "variable-equals"
  | .contains => "contains"
  | .greaterThan => "greater-than"
  | .lessThan => "less-than"

def all : List BarTest := [.equals, .contains, .greaterThan, .lessThan]

def ofWord? (s : String) : Option BarTest := all.find? (·.word == s)

end BarTest

inductive Condition where
  | constant (b : Bool)
  | approved
  | fileExists
  | bar (test : BarTest) (name arg : String)
  | compare (op : Comparison) (left right : String)
  | bare (name : String)
deriving DecidableEq, Repr

namespace Condition

/-- A test with bars; without a second bar it never holds. -/
def ofBars? (expr : String) : Option Condition :=
  match split? expr "|" with
  | none => none
  | some (kind, rest) =>
    match BarTest.ofWord? (Unicode.toLower (trim kind)) with
    | none => none
    | some test =>
      match split? rest "|" with
      | none => some (.constant false)
      | some (name, arg) => some (.bar test (trim name) (trim arg))

def ofSigns? (expr : String) : Option Condition :=
  Comparison.all.findSome? fun op =>
    (split? expr op.sign).map fun (left, right) => .compare op (trim left) (trim right)

def read (text : String) : Condition :=
  let expr := trim text
  match Unicode.toLower expr with
  | "true" => .constant true
  | "false" => .constant false
  | "approved" => .approved
  | "file-exists" => .fileExists
  | _ =>
    match ofBars? expr with
    | some c => c
    | none => (ofSigns? expr).getD (.bare expr)

/-- The value of a name, else of the first name that differs only in case. -/
def lookup? (b : Bindings) (name : String) : Option Value :=
  match b.get? name with
  | some v => some v
  | none =>
    let low := Unicode.toLower name
    (b.find? fun (k, _) => Unicode.toLower k == low).map (·.2)

/-- The text between the quotes around it. -/
def unquoted? (s : String) : Option String :=
  match s.toList with
  | q :: rest =>
    if (q = '\'' ∨ q = '"') ∧ rest.getLast? = some q then some (String.ofList rest.dropLast) else none
  | [] => none

/-- A quoted text, a truth value, null, a number or the text itself. -/
def literal (s : String) : Value :=
  match unquoted? s with
  | some t => .text t
  | none =>
    match Unicode.toLower s with
    | "true" => .bool true
    | "false" => .bool false
    | "null" => .null
    | "none" => .null
    | _ =>
      match Decimal.readFloat? s with
      | some x => .num x
      | none => .text s

def operand (b : Bindings) (s : String) : Value := (lookup? b s).getD (literal s)

def truthNumber (b : Bool) : Binary64 := if b then .ofRatio false 1 1 else .zero false

def hugeNumber : Fault := .ofKind .overflow "int too large to convert to float"

/-- The number that a value is, if it is one. An integer beyond the range of numbers is a fault. -/
def number? : Value → Except Fault (Option Binary64)
  | .bool b => .ok (some (truthNumber b))
  | .int n =>
    match Binary64.ofInt? n with
    | some x => .ok (some x)
    | none => .error hugeNumber
  | .num x => .ok (some x)
  | .text s => .ok (Decimal.readFloat? s)
  | _ => .ok none

def hugeText : Fault :=
  .ofKind .refusedValue
    ("Exceeds the limit (4300 digits) for integer string conversion; " ++
      "use sys.set_int_max_str_digits() to increase the limit")

/-- The text under which values that are not both numbers are compared. A value that cannot be shown is a fault. -/
def comparedText : Value → Except Fault String
  | .bool b => .ok (if b then "true" else "false")
  | .null => .ok "null"
  | .num x =>
    match x.toInt? with
    | some n => .ok (intText n)
    | none => .ok (Decimal.display x)
  | v => if v.hasText then .ok v.display else .error hugeText

def numbers? (left right : Value) : Except Fault (Option (Binary64 × Binary64)) :=
  match number? left, number? right with
  | .error e, _ => .error e
  | _, .error e => .error e
  | .ok (some x), .ok (some y) => .ok (some (x, y))
  | _, _ => .ok none

/-- Numbers are equal by value, anything else by its text. -/
def looselyEqual (left right : Value) : Except Fault Bool :=
  match numbers? left right with
  | .error e => .error e
  | .ok (some (x, y)) => .ok (x.eqv y)
  | .ok none => do
    let l ← comparedText left
    let r ← comparedText right
    return l == r

/-- An order holds between numbers only. -/
def ordered (test : Binary64 → Binary64 → Bool) (left right : Value) : Except Fault Bool :=
  match numbers? left right with
  | .error e => .error e
  | .ok (some (x, y)) => .ok (test x y)
  | .ok none => .ok false

def lessOrEqual (x y : Binary64) : Bool := x.less y || x.eqv y

def compareValues (op : Comparison) (left right : Value) : Except Fault Bool :=
  match op with
  | .equal => looselyEqual left right
  | .notEqual => (looselyEqual left right).map (!·)
  | .atLeast => ordered (fun x y => lessOrEqual y x) left right
  | .atMost => ordered lessOrEqual left right
  | .greater => ordered (fun x y => y.less x) left right
  | .less => ordered Binary64.less left right

def isTrue : Option Value → Bool
  | some (.bool true) => true
  | _ => false

/-- A test with bars on the value of its name; a name without a value passes none. -/
def barHolds (test : BarTest) (v : Option Value) (arg : String) : Except Fault Bool :=
  match v with
  | none => .ok false
  | some v =>
    match test with
    | .equals => looselyEqual v (literal arg)
    | .contains => .ok ((v.asText?.map (hasPart · arg)).getD false)
    | .greaterThan => compareValues .greater v (.text arg)
    | .lessThan => compareValues .less v (.text arg)

def holds (b : Bindings) : Condition → Except Fault Bool
  | .constant t => .ok t
  | .approved => .ok (isTrue (lookup? b "approved"))
  | .fileExists => .ok (isTrue (lookup? b "fileExists") || isTrue (lookup? b "exists"))
  | .bar test name arg => barHolds test (lookup? b name) arg
  | .compare op left right => compareValues op (operand b left) (operand b right)
  | .bare name => .ok ((lookup? b name).map Value.holds |>.getD false)

/-- Whether the condition with this text holds; the empty text is a bare name. -/
def evaluate (text : String) (b : Bindings) : Except Fault Bool := (read text).holds b

end Condition

end Runbook
