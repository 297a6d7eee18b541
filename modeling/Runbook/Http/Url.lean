import Runbook.Text.Utf8
import Runbook.Text.Basic

/-! Addresses of requests. An address is kept in its written form: the host in lower case, no port that the
scheme implies, no single or double points as segments, and percent codes for what may not stand in a path. -/

namespace Runbook.Http

open Text

structure Url where
  scheme : String
  authority : String
  path : String
  query : Option String := none
deriving DecidableEq, Repr

namespace Url

/-- Characters that stand for themselves in a path: printable ASCII but for blanks, quotes and brackets. -/
def isPlain (c : Char) : Bool :=
  0x20 < c.toNat && c.toNat < 0x7f && !(['"', '#', '<', '>', '?', '`', '\x7b', '\x7d'].contains c)

def percentByte (b : UInt8) : List Char := '%' :: (hexText 2 b.toNat).map Char.toUpper

def percentChar (c : Char) : List Char :=
  if isPlain c then [c] else (Utf8.encodeChar c).flatMap percentByte

def percentText (s : String) : String := String.ofList (s.toList.flatMap percentChar)

/-- The path without segments of one point, and without those that two points take back. -/
def dropPoints (path : String) : String :=
  joinWith "/" <| List.reverse <|
    (splitOn path '/').foldl (fun acc part =>
      if part == "." then acc
      else if part == ".." then if acc == [""] then acc else acc.drop 1
      else part :: acc) []

/-- The port that the scheme implies. -/
def defaultPort : String → Option String
  | "http" => some "80"
  | "https" => some "443"
  | "ws" => some "80"
  | "wss" => some "443"
  | "ftp" => some "21"
  | _ => none

def lowered (s : String) : String := String.ofList (s.toList.map Char.toLower)

/-- The host and the port behind its last colon, if that is a number. -/
def splitPort (authority : String) : String × Option String :=
  match splitLast? authority ':' with
  | some (host, port) => if port.toList.all Char.isDigit then (host, some port) else (authority, none)
  | none => (authority, none)

def normalAuthority (scheme authority : String) : String :=
  let (host, port) := splitPort authority
  match port with
  | some p =>
    if p.isEmpty || some p == defaultPort scheme then lowered host else lowered host ++ ":" ++ p
  | none => lowered host

/-- The text before and from the first of some characters on. -/
def before (stops : List Char) (s : String) : String × String :=
  let cs := s.toList
  (String.ofList (cs.takeWhile (!stops.contains ·)), String.ofList (cs.dropWhile (!stops.contains ·)))

/-- The scheme before the first colon, if there is one of the letters that schemes are made of. -/
def splitScheme (s : String) : String × String :=
  match split? s ":" with
  | some (start, rest) =>
    let isScheme := match start.toList with
      | first :: more =>
        first.isAlpha && more.all fun c => c.isAlphanum || c = '+' || c = '.' || c = '-'
      | [] => false
    if isScheme then (lowered start, rest) else ("", s)
  | none => ("", s)

/-- An address as it is written; what follows a number sign is not part of it. -/
def ofText (s : String) : Url :=
  let (s, _) := before ['#'] s
  let (scheme, rest) := splitScheme s
  let (authority, rest) :=
    if startsWith rest "//" then before ['/', '?'] (String.ofList (rest.toList.drop 2)) else ("", rest)
  let (path, query) := before ['?'] rest
  let path := if scheme.isEmpty && authority.isEmpty then path else dropPoints path
  { scheme
    authority := normalAuthority scheme authority
    path := percentText path
    query := if query.isEmpty then none else some (String.ofList (query.toList.drop 1)) }

def withQuery (u : Url) (query : String) : Url := { u with query := some query }

/-- An address without a scheme or a host is a path alone. -/
def display (u : Url) : String :=
  let start :=
    if u.scheme.isEmpty || u.authority.isEmpty then
      "/" ++ String.ofList (u.path.toList.dropWhile (· = '/'))
    else u.scheme ++ "://" ++ u.authority ++ u.path
  start ++
    match u.query with
    | some q => "?" ++ q
    | none => ""

end Url

/-- A base address without the slashes at its end. -/
def trimSlashes (s : String) : String :=
  String.ofList (s.toList.reverse.dropWhile (· = '/')).reverse

end Runbook.Http
