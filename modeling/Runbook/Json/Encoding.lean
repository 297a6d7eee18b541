import Runbook.Text.Utf8

/-! The encoding of JSON that comes as bytes. A byte order mark tells it; where there is none, the zeros among the first
bytes do, since a document begins with ASCII. Half of a surrogate pair is let pass, as a replacement character. -/

namespace Runbook.Json

open Text

inductive Encoding where
  | utf8
  | utf16 (bigEndian : Bool)
  | utf32 (bigEndian : Bool)
deriving DecidableEq, Repr

namespace Encoding

def name : Encoding → String
  | .utf8 => "utf-8"
  | .utf16 big => if big then "utf-16-be" else "utf-16-le"
  | .utf32 big => if big then "utf-32-be" else "utf-32-le"

/-- The encoding of bytes without a mark. -/
def ofZeros : List Nat → Encoding
  | 0 :: 0 :: _ :: _ :: _ => .utf32 true
  | 0 :: _ :: _ :: _ :: _ => .utf16 true
  | _ :: 0 :: 0 :: 0 :: _ => .utf32 false
  | _ :: 0 :: _ :: _ :: _ => .utf16 false
  | [0, _] => .utf16 true
  | [_, 0] => .utf16 false
  | _ => .utf8

/-- The byte order marks. One is the beginning of another, which stands before it. -/
def marks : List (List Nat × Encoding) := [
  ([0, 0, 0xFE, 0xFF], .utf32 true), ([0xFF, 0xFE, 0, 0], .utf32 false), ([0xFE, 0xFF], .utf16 true),
  ([0xFF, 0xFE], .utf16 false), ([0xEF, 0xBB, 0xBF], .utf8)]

/-- The encoding, and the count of bytes of its mark. -/
def detect (bs : List Nat) : Encoding × Nat :=
  match marks.find? fun (mark, _) => mark.isPrefixOf bs with
  | some (mark, e) => (e, mark.length)
  | none => (ofZeros bs, 0)

/-- Why bytes are not the code of a character. -/
inductive Reason where
  | utf8 (flaw : Utf8.Flaw)
  | truncated
  | noCodePoint
deriving DecidableEq, Repr

def Reason.message : Reason → String
  | .utf8 flaw => flaw.message
  | .truncated => "truncated data"
  | .noCodePoint => "code point not in range(0x110000)"

/-- The flawed bytes begin at `start` and are `count` many; `byte` is the first of them. -/
structure Error where
  encoding : Encoding
  reason : Reason
  start : Nat
  count : Nat
  byte : Nat
deriving DecidableEq, Repr

def Error.message (e : Error) : String :=
  Utf8.undecodable e.encoding.name e.reason.message e.start e.count e.byte

def isSurrogate (n : Nat) : Bool := 0xD800 ≤ n && n < 0xE000

def charOf (n : Nat) : Char := if isSurrogate n then '\ufffd' else Char.ofNat n

/-- The number that bytes stand for. -/
def number (bigEndian : Bool) (bs : List Nat) : Nat :=
  (if bigEndian then bs else bs.reverse).foldl (fun n b => n * 256 + b) 0

/-- The first character, or why there is none, with the count of bytes taken. -/
def next (e : Encoding) (first : Nat) (rest : List Nat) : Except Reason Char × Nat :=
  match e, rest with
  | .utf8, rest =>
    match rest with
    | second :: third :: _ =>
      if first = 0xED ∧ 0xA0 ≤ second ∧ second ≤ 0xBF ∧ 0x80 ≤ third ∧ third ≤ 0xBF then
        (.ok '\ufffd', 3)
      else ((Utf8.next first rest).1.mapError .utf8, (Utf8.next first rest).2)
    | _ => ((Utf8.next first rest).1.mapError .utf8, (Utf8.next first rest).2)
  | .utf16 _, [] => (.error .truncated, 1)
  | .utf16 big, second :: rest =>
    let high := number big [first, second]
    match rest with
    | third :: fourth :: _ =>
      let low := number big [third, fourth]
      if 0xD800 ≤ high ∧ high < 0xDC00 ∧ 0xDC00 ≤ low ∧ low < 0xE000 then
        (.ok (Char.ofNat (0x10000 + (high - 0xD800) * 0x400 + (low - 0xDC00))), 4)
      else (.ok (charOf high), 2)
    | _ => (.ok (charOf high), 2)
  | .utf32 big, second :: third :: fourth :: _ =>
    let n := number big [first, second, third, fourth]
    if n < 0x110000 then (.ok (charOf n), 4) else (.error .noCodePoint, 4)
  | .utf32 _, rest => (.error .truncated, rest.length + 1)

/-- The characters after passing over the given count of bytes. -/
def charsFrom (e : Encoding) (pos : Nat) : Nat → List Nat → Except Error (List Char)
  | _, [] => .ok []
  | skip + 1, _ :: rest => charsFrom e (pos + 1) skip rest
  | 0, b :: rest =>
    match e.next b rest with
    | (.ok c, n) => (charsFrom e (pos + 1) (n - 1) rest).map (c :: ·)
    | (.error reason, n) => .error ⟨e, reason, pos, n, b⟩

/-- The text of a document. Where UTF-8 has a mark, positions are counted behind it. -/
def decode (bs : List UInt8) : Except Error String :=
  let bytes := Utf8.natsOf bs
  let (e, mark) := detect bytes
  let start := if e = .utf8 then 0 else mark
  (charsFrom e start 0 (bytes.drop mark)).map String.ofList

end Encoding

end Runbook.Json
