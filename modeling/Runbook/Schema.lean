import Runbook.Decimal.Reader
import Runbook.Fault.Failure

/-! Reading values as typed fields. A field takes the nearest values of other types as well: a text that
spells a number, a whole number for an integer, a word for a truth value. All errors of a document are
gathered, each with the path of its field. -/

namespace Runbook

/-- A reading, or all errors that were found. -/
inductive Checked (α : Type) where
  | ok (a : α)
  | bad (errors : List FieldError)

namespace Checked

def map {α β : Type} (f : α → β) : Checked α → Checked β
  | .ok a => .ok (f a)
  | .bad es => .bad es

/-- Applies a reading to the next one; the errors of both are kept in order. -/
def ap {α β : Type} (f : Checked (α → β)) (a : Checked α) : Checked β :=
  match f, a with
  | .ok f, .ok a => .ok (f a)
  | .ok _, .bad es => .bad es
  | .bad es, .ok _ => .bad es
  | .bad es, .bad es' => .bad (es ++ es')

def below {α : Type} (part : PathPart) : Checked α → Checked α
  | .ok a => .ok a
  | .bad es => .bad (es.map (·.at_ part))

def toExcept {α : Type} : Checked α → Except (List FieldError) α
  | .ok a => .ok a
  | .bad es => .error es

end Checked

namespace Schema

attribute [local instance (2000)] instPowNat

def wrong {α : Type} (type message : String) : Checked α := .bad [⟨[], type, message⟩]

def missing {α : Type} (name : String) : Checked α :=
  .bad [⟨[.name name], "missing", "Field required"⟩]

/-- A text from its bytes. -/
def decodeUtf8? (bs : List UInt8) : Option String := String.fromUTF8? ⟨bs.toArray⟩

def text : Value → Checked String
  | .text s => .ok s
  | .bytes bs =>
    match decodeUtf8? bs with
    | some s => .ok s
    | none =>
      wrong "string_unicode"
        "Input should be a valid string, unable to parse raw data as a unicode string"
  | _ => wrong "string_type" "Input should be a valid string"

/-- The text of a scalar that other types read as well. -/
def scalarText? : Value → Option String
  | .text s => some s
  | .bytes bs => decodeUtf8? bs
  | _ => none

def boolWord? (s : String) : Option Bool :=
  let low := String.ofList (s.toList.map Char.toLower)
  if ["1", "t", "true", "y", "yes", "on"].contains low then some true
  else if ["0", "f", "false", "n", "no", "off"].contains low then some false
  else none

def boolUnclear {α : Type} : Checked α :=
  wrong "bool_parsing" "Input should be a valid boolean, unable to interpret input"

def boolOfInt (n : Int) : Checked Bool :=
  if n = 1 then .ok true else if n = 0 then .ok false else boolUnclear

def bool (v : Value) : Checked Bool :=
  match v with
  | .bool b => .ok b
  | .int n => boolOfInt n
  | .num x =>
    match x.toInt? with
    | some n => boolOfInt n
    | none => wrong "bool_type" "Input should be a valid boolean"
  | v =>
    match scalarText? v with
    | some s =>
      match boolWord? s with
      | some b => .ok b
      | none => boolUnclear
    | none => wrong "bool_type" "Input should be a valid boolean"

/-- A text without low lines that stand between other characters. -/
def dropInnerLowLines? (s : List Char) : Option (List Char) :=
  if s.head? = some '_' ∨ s.getLast? = some '_' ∨ Text.hasPart (String.ofList s) "__" then none
  else some (s.filter (· ≠ '_'))

/-- A text without a fraction of zeros at its end. -/
def dropZeroFraction (s : List Char) : List Char :=
  match Text.cut? ['.'] s with
  | some (whole, zeros) => if !zeros.isEmpty && zeros.all (· = '0') then whole else s
  | none => s

def spelledInt? (s : String) : Option Int :=
  match dropInnerLowLines? (Text.trimEnd (Text.trimStart s.toList)) with
  | none => none
  | some cs =>
    let (neg, ds) := Decimal.takeSign (dropZeroFraction cs)
    if ds.isEmpty || !ds.all Char.isDigit then none
    else
      let n : Int := Decimal.digitsValue ds
      some (if neg then -n else n)

def intOfText (s : String) : Checked Int :=
  match spelledInt? s with
  | some n => .ok n
  | none =>
    wrong "int_parsing" "Input should be a valid integer, unable to parse string as an integer"

/-- A whole number within 64 bits. -/
def intOfNumber (x : Binary64) : Checked Int :=
  match x with
  | .finite .. =>
    match x.toInt? with
    | some n =>
      if -(2 : Int) ^ (63 : Nat) < n ∧ n < 2 ^ (63 : Nat) then .ok n
      else
        wrong "int_parsing_size"
          "Unable to parse input string as an integer, exceeded maximum size"
    | none =>
      wrong "int_from_float"
        "Input should be a valid integer, got a number with a fractional part"
  | _ => wrong "finite_number" "Input should be a finite number"

def int (v : Value) : Checked Int :=
  match v with
  | .int n => .ok n
  | .bool b => .ok (if b then 1 else 0)
  | .num x => intOfNumber x
  | v =>
    match scalarText? v with
    | some s => intOfText s
    | none => wrong "int_type" "Input should be a valid integer"

def spelledNumber? (s : String) : Option Binary64 :=
  match dropInnerLowLines? (Text.trimEnd (Text.trimStart s.toList)) with
  | none => none
  | some cs => if cs.all (·.toNat < 128) then Decimal.readFloat? (String.ofList cs) else none

def number (v : Value) : Checked Binary64 :=
  match v with
  | .num x => .ok x
  | .bool b => .ok (if b then .ofRatio false 1 1 else .zero false)
  | .int n =>
    match Binary64.ofInt? n with
    | some x => .ok x
    | none => wrong "float_type" "Input should be a valid number"
  | v =>
    match scalarText? v with
    | some s =>
      match spelledNumber? s with
      | some x => .ok x
      | none =>
        wrong "float_parsing" "Input should be a valid number, unable to parse string as a number"
    | none => wrong "float_type" "Input should be a valid number"

def optional {α : Type} (read : Value → Checked α) (v : Value) : Checked (Option α) :=
  match v with
  | .null => .ok none
  | v => (read v).map some

/-- Reads the items of a list, each below its place. -/
def items {α : Type} (read : Value → Checked α) (place : Nat) : List Value → Checked (List α)
  | [] => .ok []
  | v :: vs =>
    ((((read v).below (.index place)).map List.cons)).ap (items read (place + 1) vs)

/-- The items of a value that is a list or can stand for one. -/
def itemsOf? : Value → Option (List Value)
  | .list xs => some xs
  | .tuple xs => some xs
  | .set xs => some xs
  | _ => none

def list {α : Type} (read : Value → Checked α) (v : Value) : Checked (List α) :=
  match itemsOf? v with
  | some xs => items read 0 xs
  | none => wrong "list_type" "Input should be a valid list"

def tuple {α : Type} (read : Value → Checked α) (v : Value) : Checked (List α) :=
  match itemsOf? v with
  | some xs => items read 0 xs
  | none => wrong "tuple_type" "Input should be a valid tuple"

/-- The text under which a key appears in a path. -/
def keyPart : Value → PathPart
  | .text s => .name s
  | .bool b => .index (if b then 1 else 0)
  | .int n => if -(2 ^ (63 : Nat)) ≤ n ∧ n < 2 ^ (63 : Nat) then .index n else .name (Text.intText n)
  | v => .name v.inner

/-- Entries with texts as keys. -/
def entries : List (Value × Value) → Checked Bindings
  | [] => .ok []
  | (k, v) :: es =>
    (((text k).below (.name "[key]")).below (keyPart k)).map (fun s (rest : Bindings) =>
      (s, v) :: rest) |>.ap (entries es)

/-- A map with texts as keys and any values. Of keys that are one text the last value counts. -/
def bindings : Value → Checked Bindings
  | .map es => (entries es).map (Bindings.update [])
  | _ => wrong "dict_type" "Input should be a valid dictionary"

/-- The value of a field under the first of its names that is there. -/
def under? (v : Value) (names : List String) : Option (String × Value) :=
  names.findSome? fun name => (v.get? name).map fun w => (name, w)

/-- A field that has to be there. -/
def required {α : Type} (v : Value) (names : List String) (read : Value → Checked α) : Checked α :=
  match under? v names with
  | some (name, w) => (read w).below (.name name)
  | none => missing (names.headD "")

/-- A field with a value of its own where it is not there. -/
def withDefault {α : Type} (v : Value) (names : List String) (read : Value → Checked α)
    (default : α) : Checked α :=
  match under? v names with
  | some (name, w) => (read w).below (.name name)
  | none => .ok default

/-- A field that may be missing or null. -/
def maybe {α : Type} (v : Value) (names : List String) (read : Value → Checked α) :
    Checked (Option α) :=
  withDefault v names (optional read) none

end Schema

end Runbook
