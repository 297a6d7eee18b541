import Runbook.Text.Utf8
import Runbook.Http.Url

/-! The endpoints of the HTTP interface, and how the path of a request leads to them. -/

namespace Runbook.Api

open Text

inductive Method where
  | get
  | post
  | delete
  | other (name : String)
deriving DecidableEq, Repr

def Method.ofName (name : String) : Method :=
  match String.ofList (name.toList.map Char.toUpper) with
  | "GET" => .get
  | "POST" => .post
  | "DELETE" => .delete
  | word => .other word

inductive Endpoint where
  | health
  | workflows
  | workflow (name : String)
  | validation (name : String)
  | run (name : String)
  | sessions
  | session (workflow id : String)
  | summary (workflow id : String)
  | resume (workflow id : String)
  | abandon (workflow id : String)
deriving DecidableEq, Repr

/-- The endpoints of a path by their methods. A name in a path is not empty. -/
def Endpoint.ofParts : List String → List (Method × Endpoint)
  | ["health"] => [(.get, .health)]
  | ["workflows"] => [(.get, .workflows)]
  | ["workflows", name] =>
    if name == "sessions" then [(.get, .sessions)]
    else if name.isEmpty then []
    else [(.get, .workflow name)]
  | ["workflows", name, "validate"] => if name.isEmpty then [] else [(.get, .validation name)]
  | ["workflows", name, "run"] => if name.isEmpty then [] else [(.post, .run name)]
  | ["workflows", "sessions", name, id] =>
    if name.isEmpty || id.isEmpty then []
    else [(.get, .session name id), (.delete, .abandon name id)]
  | ["workflows", "sessions", name, id, "summary"] =>
    if name.isEmpty || id.isEmpty then [] else [(.get, .summary name id)]
  | ["workflows", "sessions", name, id, "resume"] =>
    if name.isEmpty || id.isEmpty then [] else [(.post, .resume name id)]
  | _ => []

def Endpoint.ofPath (path : String) : List (Method × Endpoint) :=
  match splitOn path '/' with
  | "" :: parts => Endpoint.ofParts parts
  | _ => []

inductive Target where
  | endpoint (e : Endpoint)
  | otherMethod
  | withoutSlash
  | nowhere
deriving DecidableEq, Repr

/-- Where a request leads. A path with slashes at its end leads to the path without them. -/
def Target.of (method : Method) (path : String) : Target :=
  match Endpoint.ofPath path with
  | [] =>
    let short := Http.trimSlashes path
    if endsWith path "/" && path != "/" && !(Endpoint.ofPath short).isEmpty then .withoutSlash
    else .nowhere
  | es =>
    match es.find? (·.1 = method) with
    | some (_, e) => .endpoint e
    | none => .otherMethod

/-! ## Percent codes -/

def hexValue? (c : Char) : Option Nat :=
  if c.isDigit then some (c.toNat - 48)
  else if 'a' ≤ c ∧ c ≤ 'f' then some (c.toNat - 87)
  else if 'A' ≤ c ∧ c ≤ 'F' then some (c.toNat - 55)
  else none

def percentBytes : List Char → List UInt8
  | [] => []
  | '%' :: a :: b :: rest =>
    match hexValue? a, hexValue? b with
    | some x, some y => UInt8.ofNat (16 * x + y) :: percentBytes rest
    | _, _ => Utf8.encodeChar '%' ++ percentBytes (a :: b :: rest)
  | c :: rest => Utf8.encodeChar c ++ percentBytes rest

/-- The text with its percent codes taken for the bytes they stand for. -/
def unescape (s : String) : String := Utf8.decodeLossy (percentBytes s.toList)

/-- The value that a query gives a name; the last one counts. -/
def queryValue? (query name : String) : Option String :=
  let plain (s : String) : String := unescape (replaceChar '+' " " s)
  let pairs := (splitOn query '&').filterMap fun part =>
    if part.isEmpty then none
    else
      let (k, v) := (split? part "=").getD (part, "")
      some (plain k, plain v)
  (pairs.reverse.find? (·.1 == name)).map (·.2)

end Runbook.Api
