import Runbook.Text.Basic

/-! Text as bytes of UTF-8. Reading reports the first bytes that are not the code of a character. -/

namespace Runbook.Text.Utf8

/-- Why bytes are not the code of a character. -/
inductive Flaw where
  | badStart
  | badContinuation
  | cutShort
deriving DecidableEq, Repr

/-- The flawed bytes begin at `start` and are `count` many; `byte` is the first of them. -/
structure Error where
  flaw : Flaw
  start : Nat
  count : Nat
  byte : Nat
deriving DecidableEq, Repr

def Flaw.message : Flaw → String
  | .badStart => "invalid start byte"
  | .badContinuation => "invalid continuation byte"
  | .cutShort => "unexpected end of data"

/-- The message about flawed bytes of a code. -/
def undecodable (code reason : String) (start count byte : Nat) : String :=
  "'" ++ code ++ "' codec can't decode " ++
    (if count = 1 then "byte 0x" ++ String.ofList (hexText 2 byte) ++ s!" in position {start}"
      else s!"bytes in position {start}-{start + count - 1}") ++
    ": " ++ reason

def Error.message (e : Error) : String := undecodable "utf-8" e.flaw.message e.start e.count e.byte

/-- The count of bytes of a code by its first byte; none if no code begins so. -/
def width? (b : Nat) : Option Nat :=
  if b < 0x80 then some 1
  else if b < 0xC2 then none
  else if b < 0xE0 then some 2
  else if b < 0xF0 then some 3
  else if b < 0xF5 then some 4
  else none

/-- The least and the greatest byte that can stand second after a first byte. -/
def secondRange (b : Nat) : Nat × Nat :=
  if b = 0xE0 then (0xA0, 0xBF)
  else if b = 0xED then (0x80, 0x9F)
  else if b = 0xF0 then (0x90, 0xBF)
  else if b = 0xF4 then (0x80, 0x8F)
  else (0x80, 0xBF)

/-- How many of the bytes after the first one continue its code. -/
def continued (first : Nat) (more : List Nat) : Nat :=
  match more with
  | [] => 0
  | second :: rest =>
    let (low, high) := secondRange first
    if low ≤ second ∧ second ≤ high then
      1 + (rest.takeWhile fun b => 0x80 ≤ b ∧ b ≤ 0xBF).length
    else 0

/-- The bits that the first byte of a code of a given width gives to the character. -/
def leadBits (width b : Nat) : Nat :=
  match width with
  | 1 => b
  | 2 => b % 32
  | 3 => b % 16
  | _ => b % 8

/-- The first character, or the flaw of the bytes in its place, with the count of bytes taken. -/
def next (first : Nat) (rest : List Nat) : Except Flaw Char × Nat :=
  match width? first with
  | none => (.error .badStart, 1)
  | some width =>
    let more := rest.take (width - 1)
    let good := continued first more
    if good = width - 1 then
      (.ok (Char.ofNat (more.foldl (fun n b => n * 64 + b % 64) (leadBits width first))), width)
    else if good = more.length then (.error .cutShort, good + 1)
    else (.error .badContinuation, good + 1)

theorem next_pos (first : Nat) (rest : List Nat) : 0 < (next first rest).2 := by
  unfold next
  split
  · simp
  · rename_i width h
    have : 0 < width := by
      unfold width? at h
      split at h <;> simp_all <;> grind
    dsimp only
    split
    · exact this
    · split <;> simp

/-- Every character or flaw of the bytes in turn, each with its position and its count of bytes. -/
def pieces (pos : Nat) : List Nat → List (Except Flaw Char × Nat × Nat × Nat)
  | [] => []
  | b :: rest =>
    let piece := next b rest
    (piece.1, pos, piece.2, b) :: pieces (pos + piece.2) (rest.drop (piece.2 - 1))
termination_by bs => bs.length
decreasing_by simp only [List.length_cons, List.length_drop]; omega

def natsOf (bs : List UInt8) : List Nat := bs.map (·.toNat)

def charsOf : List (Except Flaw Char × Nat × Nat × Nat) → Except Error (List Char)
  | [] => .ok []
  | (.ok c, _) :: more => (charsOf more).map (c :: ·)
  | (.error flaw, start, count, byte) :: _ => .error ⟨flaw, start, count, byte⟩

def decode (bs : List UInt8) : Except Error String :=
  (charsOf (pieces 0 (natsOf bs))).map String.ofList

/-- The characters of bytes behind those already read, the last of which stands first. -/
def lossyOnto (done : List Char) : List Nat → List Char
  | [] => done.reverse
  | b :: rest =>
    match next b rest with
    | (.ok c, n) => lossyOnto (c :: done) (rest.drop (n - 1))
    | (.error _, n) => lossyOnto (Char.ofNat 0xFFFD :: done) (rest.drop (n - 1))
termination_by bs => bs.length
decreasing_by all_goals (simp only [List.length_cons, List.length_drop]; omega)

/-- Flawed bytes become replacement characters, one for each flaw. -/
def decodeLossy (bs : List UInt8) : String := String.ofList (lossyOnto [] (natsOf bs))

def encodeChar (c : Char) : List UInt8 :=
  let n := c.toNat
  let tail (k : Nat) : UInt8 := (0x80 + k % 64).toUInt8
  if n < 0x80 then [n.toUInt8]
  else if n < 0x800 then [(0xC0 + n / 64).toUInt8, tail n]
  else if n < 0x10000 then [(0xE0 + n / 4096).toUInt8, tail (n / 64), tail n]
  else [(0xF0 + n / 262144).toUInt8, tail (n / 4096), tail (n / 64), tail n]

def encode (s : String) : List UInt8 := s.toList.flatMap encodeChar

end Runbook.Text.Utf8
