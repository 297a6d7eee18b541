import Runbook.Shell.Arithmetic
import Runbook.Text.Utf8

/-! Writing by a format: escapes behind backslashes, and conversions behind percent signs that take
arguments in turn. -/

namespace Runbook.Shell.Format

open Text

attribute [local instance (2000)] instPowNat

def simpleEscapes : List (Char × Nat) :=
  [('a', 7), ('b', 8), ('f', 12), ('n', 10), ('r', 13), ('t', 9), ('v', 11), ('\\', 92)]

def isOctal (c : Char) : Bool := '0' ≤ c && c ≤ '7'

/-- The byte of up to three digits in eight, and the rest. -/
def octal (cs : List Char) : UInt8 × List Char :=
  let ds := (cs.take 3).takeWhile isOctal
  (((Arithmetic.digits? 8 ds).getD 0).toUInt8, cs.drop ds.length)

/-- What a backslash and the characters behind it stand for. Where they stand for nothing the backslash
does for itself. -/
def escape (cs : List Char) : List UInt8 × List Char :=
  match cs with
  | c :: rest =>
    match simpleEscapes.lookup c with
    | some n => ([n.toUInt8], rest)
    | none =>
      if isOctal c then
        let (b, rest) := octal cs
        ([b], rest)
      else ([92], cs)
  | [] => ([92], [])

/-- A text with its escapes, and whether an escape ends all writing. In it a zero may stand before the
three digits. -/
def unescaped : Nat → List Char → List UInt8 × Bool
  | 0, _ => ([], false)
  | _ + 1, [] => ([], false)
  | _ + 1, '\\' :: 'c' :: _ => ([], true)
  | fuel + 1, '\\' :: cs =>
    let (bs, rest) :=
      match cs with
      | '0' :: more =>
        let (b, rest) := octal more
        ([b], rest)
      | _ => escape cs
    let (more, stop) := unescaped fuel rest
    (bs ++ more, stop)
  | fuel + 1, c :: rest =>
    let (more, stop) := unescaped fuel rest
    (Utf8.encodeChar c ++ more, stop)

def withEscapes (s : String) : List UInt8 × Bool := unescaped (s.length + 1) s.toList

/-- A conversion: how wide, how exact, at which side, and of what kind. -/
structure Conversion where
  leftSide : Bool := false
  zeros : Bool := false
  plus : Bool := false
  blank : Bool := false
  alternate : Bool := false
  width : Nat := 0
  precision : Option Nat := none
  kind : Char := 's'
deriving DecidableEq, Repr

inductive Directive where
  | bytes (bs : List UInt8)
  | convert (c : Conversion)
  | flaw (text : List Char)
deriving DecidableEq, Repr

/-- The conversion behind a percent sign, and the rest. -/
def conversion? (cs : List Char) : Option (Conversion × List Char) :=
  let marks := cs.takeWhile ("-+ 0#".toList.contains ·)
  let cs := cs.dropWhile ("-+ 0#".toList.contains ·)
  let width := cs.takeWhile Char.isDigit
  let cs := cs.dropWhile Char.isDigit
  let (precision, cs) :=
    match cs with
    | '.' :: rest =>
      (some ((Arithmetic.digits? 10 (rest.takeWhile Char.isDigit)).getD 0), rest.dropWhile Char.isDigit)
    | _ => (none, cs)
  match cs with
  | kind :: rest =>
    if "sbcdiuoxX".toList.contains kind then
      some ({ leftSide := marks.contains '-', zeros := marks.contains '0', plus := marks.contains '+',
              blank := marks.contains ' ', alternate := marks.contains '#',
              width := (Arithmetic.digits? 10 width).getD 0, precision, kind }, rest)
    else none
  | [] => none

def directives : Nat → List Char → List Directive
  | 0, _ => []
  | _ + 1, [] => []
  | fuel + 1, '\\' :: cs =>
    let (bs, rest) := escape cs
    .bytes bs :: directives fuel rest
  | fuel + 1, '%' :: '%' :: rest => .bytes [37] :: directives fuel rest
  | fuel + 1, '%' :: cs =>
    match conversion? cs with
    | some (c, rest) => .convert c :: directives fuel rest
    | none => [.flaw ('%' :: cs.take 1)]
  | fuel + 1, c :: rest => .bytes (Utf8.encodeChar c) :: directives fuel rest

/-- Filled up with blanks to the width of a conversion. -/
def Conversion.fill (c : Conversion) (bs : List UInt8) : List UInt8 :=
  let blanks := List.replicate (c.width - bs.length) (32 : UInt8)
  if c.leftSide then bs ++ blanks else blanks ++ bs

def asciiBytes (cs : List Char) : List UInt8 := cs.map fun c => c.toNat.toUInt8

/-- A number by a conversion. -/
def Conversion.number (c : Conversion) (n : Int) : List UInt8 :=
  let word := (n % 2 ^ (64 : Nat)).toNat
  let isSigned := c.kind == 'd' || c.kind == 'i'
  let size := if isSigned then n.natAbs else word
  let digits :=
    match c.kind with
    | 'o' => Nat.toDigits 8 size
    | 'x' => Nat.toDigits 16 size
    | 'X' => (Nat.toDigits 16 size).map Char.toUpper
    | _ => Nat.toDigits 10 size
  let start : List Char :=
    if isSigned then
      if n < 0 then ['-'] else if c.plus then ['+'] else if c.blank then [' '] else []
    else if c.alternate && size != 0 then
      match c.kind with
      | 'o' => ['0']
      | 'x' => ['0', 'x']
      | 'X' => ['0', 'X']
      | _ => []
    else []
  let least :=
    match c.precision with
    | some p => p
    | none => if c.zeros && !c.leftSide then c.width - start.length else 1
  c.fill (asciiBytes (start ++ padLeft least '0' digits))

/-- The number that an argument gives: that of a character behind a quote, or a constant. -/
def numberOf (s : String) : Option Int :=
  match s.toList with
  | '\'' :: c :: _ | '"' :: c :: _ => some c.toNat
  | _ => Arithmetic.integer? s

/-- What was written, the arguments without a number where one is due, a conversion that there is not, and
whether writing ends. -/
structure Written where
  bytes : List UInt8 := []
  flaws : List String := []
  badDirective : Option String := none
  stop : Bool := false

def Written.append (a b : Written) : Written :=
  ⟨a.bytes ++ b.bytes, a.flaws ++ b.flaws, b.badDirective, b.stop⟩

def Conversion.write (c : Conversion) (arg : Option String) : Written :=
  let cut (bs : List UInt8) := match c.precision with
    | some p => bs.take p
    | none => bs
  let text := arg.getD ""
  match c.kind with
  | 's' => { bytes := c.fill (cut (Utf8.encode text)) }
  | 'b' =>
    let (bs, stop) := withEscapes text
    { bytes := c.fill (cut bs), stop }
  | 'c' => { bytes := c.fill ((Utf8.encode text).take 1) }
  | _ =>
    match numberOf text with
    | some n => { bytes := c.number n }
    | none => { bytes := c.number 0, flaws := [text] }

/-- One pass through the directives, with the arguments that are left. -/
def pass : List Directive → List String → Written × List String
  | [], args => ({}, args)
  | .bytes bs :: more, args =>
    let (w, args) := pass more args
    (Written.append { bytes := bs } w, args)
  | .convert c :: more, args =>
    let w := c.write args.head?
    if w.stop then (w, [])
    else
      let (v, args) := pass more (args.drop 1)
      (w.append v, args)
  | .flaw text :: _, _ => ({ badDirective := some (String.ofList text), stop := true }, [])

/-- Passes until no argument is left, if one takes any. -/
def passes (ds : List Directive) : Nat → List String → Written
  | 0, _ => {}
  | fuel + 1, args =>
    let (w, rest) := pass ds args
    if w.stop || rest.isEmpty || rest.length = args.length then w else w.append (passes ds fuel rest)

def print (format : String) (args : List String) : Written :=
  passes (directives (format.length + 1) format.toList) (args.length + 1) args

end Runbook.Shell.Format
