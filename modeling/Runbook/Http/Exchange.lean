import Runbook.Act
import Runbook.Http.Url
import Runbook.Json.Encoding
import Runbook.Json.Reader

/-! Requests to services, their replies, and the way by which both travel. -/

namespace Runbook.Http

open Text

structure Request where
  method : String
  url : Url
  headers : List (String × String) := []
  body : Option Value := none

structure Reply where
  status : Int := 200
  content : List UInt8 := []
deriving DecidableEq, Repr

/-- Sends a request. There may be no reply; the fault then tells why. -/
abbrev Transport (σ : Type) := Request → Act σ Reply

namespace Reply

/-- The content as a text, with a substitute for what is not UTF-8. -/
def text (r : Reply) : String := Utf8.decodeLossy r.content

/-- The content as a document, with the incident where it is none. -/
def document (r : Reply) : Except Incident Value :=
  match Json.Encoding.decode r.content with
  | .error e => .error ⟨.textDecoding, e.message, 0, false⟩
  | .ok s =>
    match Json.parse s with
    | .ok doc => .ok doc
    | .error .hugeInteger => .error ⟨.refusedValue, Json.Fail.message s .hugeInteger, 0, false⟩
    | .error e => .error ⟨.json, e.message s, 0, false⟩

def isRefused (r : Reply) : Bool := 400 ≤ r.status

def succeeded (r : Reply) : Bool := 200 ≤ r.status && r.status < 300

end Reply

/-- The incident of a reply whose status tells of no success. -/
def statusRejected (r : Reply) : Incident := ⟨.statusRejected, intText r.status, r.status, false⟩

/-- Incidents of the exchange itself: no reply, or one without success. -/
def isExchange (k : IncidentKind) : Bool := k.isTransport || k = .statusRejected

end Runbook.Http
