import Runbook.Unicode.Alphanumeric
import Runbook.Unicode.Basic
import Runbook.Unicode.Lowercase

/-! Regular expressions: their form, the sets of characters in them and their widths. Characters are code
points, so that a pattern may name one that no text has. -/

namespace Runbook.Pattern

open Unicode

attribute [local instance (2000)] instPowNat

structure Flags where
  ignoreCase : Bool := false
  multiline : Bool := false
  dotAll : Bool := false
  ascii : Bool := false
  verbose : Bool := false
deriving DecidableEq, Repr

/-- Flags that a group turns on and off. -/
structure FlagChange where
  on : Flags := {}
  off : Flags := {}
deriving DecidableEq, Repr

namespace Flags

def union (a b : Flags) : Flags :=
  ⟨a.ignoreCase || b.ignoreCase, a.multiline || b.multiline, a.dotAll || b.dotAll,
    a.ascii || b.ascii, a.verbose || b.verbose⟩

def without (a b : Flags) : Flags :=
  ⟨a.ignoreCase && !b.ignoreCase, a.multiline && !b.multiline, a.dotAll && !b.dotAll,
    a.ascii && !b.ascii, a.verbose && !b.verbose⟩

def isNone (a : Flags) : Bool := a == {}

def change (f : Flags) (c : FlagChange) : Flags := (f.union c.on).without c.off

end Flags

inductive Class where
  | digit
  | space
  | word
deriving DecidableEq, Repr

inductive SetItem where
  | one (code : Nat)
  | range (low high : Nat)
  | kind (c : Class) (negated : Bool)
deriving DecidableEq, Repr

inductive Anchor where
  | start
  | finish
  | textStart
  | textFinish
  | boundary
  | noBoundary
deriving DecidableEq, Repr

inductive Greed where
  | greedy
  | lazy
  | possessive
deriving DecidableEq, Repr

/-- A part of a pattern. A look goes back by a count of characters first or, with none, looks ahead. -/
inductive Node where
  | one (code : Nat)
  | any
  | set (negated : Bool) (items : List SetItem)
  | anchor (a : Anchor)
  | group (index : Option Nat) (flags : FlagChange) (body : List Node)
  | branch (options : List (List Node))
  | repeated (greed : Greed) (least : Nat) (most : Option Nat) (body : List Node)
  | backref (group : Nat)
  | look (back : Option Nat) (negated : Bool) (body : List Node)
  | atomic (body : List Node)
  | choice (group : Nat) (yes no : List Node)
deriving Inhabited

/-- The least and the greatest count of characters that a part takes. -/
structure Width where
  least : Nat
  most : Nat
deriving DecidableEq, Repr

/-- Counts of repetitions and widths stop here. -/
def maxRepeat : Nat := 4294967295

def maxWidth : Nat := 2 ^ (64 : Nat)

namespace Width

def zero : Width := ⟨0, 0⟩

def add (a b : Width) : Width := ⟨a.least + b.least, a.most + b.most⟩

def either (a b : Width) : Width := ⟨min a.least b.least, max a.most b.most⟩

def cap (a : Width) : Width := ⟨min a.least maxWidth, min a.most maxWidth⟩

def times (a : Width) (least : Nat) (most : Option Nat) : Width :=
  ⟨a.least * least,
    match most with
    | some m => a.most * m
    | none => if a.most = 0 then 0 else maxWidth⟩

end Width

mutual

/-- The width of a part; `groups` gives the widths of the groups that are closed. -/
def Node.width (groups : List (Option Width)) : Node → Width
  | .one _ => ⟨1, 1⟩
  | .any => ⟨1, 1⟩
  | .set _ _ => ⟨1, 1⟩
  | .anchor _ => .zero
  | .group _ _ body => widthOfSeq groups body
  | .branch options => widthOfOptions groups options
  | .repeated _ least most body => (widthOfSeq groups body).times least most
  | .backref g => ((groups[g]?).bind id).getD .zero
  | .look _ _ _ => .zero
  | .atomic body => widthOfSeq groups body
  | .choice _ yes no => (widthOfSeq groups yes).either (widthOfSeq groups no)

def widthOfSeq (groups : List (Option Width)) : List Node → Width
  | [] => .zero
  | n :: ns => ((n.width groups).add (widthOfSeq groups ns)).cap

def widthOfOptions (groups : List (Option Width)) : List (List Node) → Width
  | [] => .zero
  | [o] => widthOfSeq groups o
  | o :: os => (widthOfSeq groups o).either (widthOfOptions groups os)

end

mutual

/-- The count of parts, and of the repetitions that a part asks for at least. -/
def Node.size : Node → Nat
  | .one _ => 1
  | .any => 1
  | .set _ _ => 1
  | .anchor _ => 1
  | .group _ _ body => sizeOfSeq body + 1
  | .branch options => sizeOfOptions options + 1
  | .repeated _ least _ body => sizeOfSeq body + least + 2
  | .backref _ => 1
  | .look _ _ body => sizeOfSeq body + 1
  | .atomic body => sizeOfSeq body + 1
  | .choice _ yes no => sizeOfSeq yes + sizeOfSeq no + 1

def sizeOfSeq : List Node → Nat
  | [] => 1
  | n :: ns => n.size + sizeOfSeq ns + 1

def sizeOfOptions : List (List Node) → Nat
  | [] => 1
  | o :: os => sizeOfSeq o + sizeOfOptions os + 1

end

/-! ## Characters -/

namespace Fold

/-- Lower-case characters that stand for each other when case is ignored. -/
def variants : List (List Nat) := [
  [105, 305], [115, 383], [181, 956], [837, 953, 8126], [912, 8147], [944, 8163], [946, 976],
  [949, 1013], [952, 977], [954, 1008], [960, 982], [961, 1009], [962, 963], [966, 981],
  [1074, 7296], [1076, 7297], [1086, 7298], [1089, 7299], [1090, 7300, 7301], [1098, 7302],
  [1123, 7303], [7304, 42571], [7777, 7835], [64261, 64262]]

/-- The lower case of one code point. -/
def lower (ascii : Bool) (n : Nat) : Nat :=
  if n < 128 then (if 65 ≤ n ∧ n ≤ 90 then n + 32 else n)
  else if ascii then n
  else if n = 304 then 105
  else
    match caseRuns.find? (·.covers n) with
    | some r => (n + r.shift).toNat
    | none => n

def same (ascii : Bool) (pattern text : Nat) : Bool :=
  let p := lower ascii pattern
  let t := lower ascii text
  p == t || (!ascii && variants.any fun vs => vs.contains p && vs.contains t)

end Fold

/-- The character with the code point; one that no character has is no member of any class. -/
def charOf (n : Nat) : Char := Char.ofNat n

def Class.contains (c : Class) (ascii : Bool) (n : Nat) : Bool :=
  let ch := charOf n
  if ascii then
    n < 128 &&
      match c with
      | .digit => ch.isDigit
      | .space => (9 ≤ n && n ≤ 13) || n == 32
      | .word => ch.isAlphanum || ch == '_'
  else
    match c with
    | .digit => isDigit ch
    | .space => isBlank ch
    | .word => isWordChar ch

def SetItem.contains (f : Flags) (n : Nat) : SetItem → Bool
  | .one code => if f.ignoreCase then Fold.same f.ascii code n else code == n
  | .range low high =>
    if f.ignoreCase then
      let t := Fold.lower f.ascii n
      (low ≤ n && n ≤ high) || (low ≤ t && t ≤ high) ||
        (List.range' low (min (high + 1 - low) 0x600)).any fun p => Fold.same f.ascii p n
    else low ≤ n && n ≤ high
  | .kind c negated =>
    let m := if f.ignoreCase then Fold.lower f.ascii n else n
    c.contains f.ascii m != negated

def setContains (f : Flags) (negated : Bool) (items : List SetItem) (n : Nat) : Bool :=
  items.any (·.contains f n) != negated

end Runbook.Pattern
