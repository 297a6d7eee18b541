import Runbook.Yaml.Error
import Runbook.Yaml.Token

/-! A position in the characters of a document, and the pieces of tokens that are read from there:
runs of characters, line breaks, tags, quoted and block text. -/

namespace Runbook.Yaml

open Text

structure Cursor where
  rest : List Char
  mark : Mark

namespace Cursor

def peek (c : Cursor) : Char := c.rest.headD endChar

def peekAt (c : Cursor) (n : Nat) : Char := (c.rest.drop n).headD endChar

def column (c : Cursor) : Nat := c.mark.column

def forward : Nat → Cursor → Cursor
  | 0, c => c
  | n + 1, c =>
    match c.rest with
    | [] => c
    | d :: rest => forward n ⟨rest, c.mark.after d (rest.headD endChar)⟩

def next (c : Cursor) : Cursor := c.forward 1

/-- The longest run of characters with a property, and the cursor behind it. -/
def run (p : Char → Bool) (c : Cursor) : List Char × Cursor :=
  let taken := c.rest.takeWhile p
  (taken, c.forward taken.length)

def skip (p : Char → Bool) (c : Cursor) : Cursor := (c.run p).2

def skipBlanks (c : Cursor) : Cursor := c.skip (· == ' ')

def skipLine (c : Cursor) : Cursor := c.skip fun d => !isBreak d

/-- Passes over a line break and gives its text, a line feed for the usual ones; nothing elsewhere. -/
def lineBreak (c : Cursor) : List Char × Cursor :=
  match c.rest with
  | '\r' :: '\n' :: _ => (['\n'], c.forward 2)
  | '\u2028' :: _ => (['\u2028'], c.next)
  | '\u2029' :: _ => (['\u2029'], c.next)
  | d :: _ => if isBreak d then (['\n'], c.next) else ([], c)
  | [] => ([], c)

/-- Whether three dashes or three points stand here as a word. -/
def isSeparator (c : Cursor) : Bool :=
  (c.rest.take 3 == ['-', '-', '-'] || c.rest.take 3 == ['.', '.', '.']) && isWideGap (c.peekAt 3)

end Cursor

/-- Reading pieces of tokens moves the cursor. -/
abbrev Scan := StateT Cursor (Except Error)

namespace Scan

def here : Scan Mark := return (← get).mark

def peek : Scan Char := return (← get).peek

def forward (n : Nat) : Scan Unit := modify (·.forward n)

def chars (p : Char → Bool) : Scan (List Char) := modifyGet (·.run p)

def skip (p : Char → Bool) : Scan Unit := modify (·.skip p)

def skipBlanks : Scan Unit := modify (·.skipBlanks)

def lineBreak : Scan (List Char) := modifyGet (·.lineBreak)

/-- Ends with a problem here in what began at the given mark. -/
def fail {α : Type} (activity : Activity) (start : Mark) (what : Problem) : Scan α := do
  throw (.problem .tokens (some (activity, some start)) what (← here))

/-- Ends with the character here as the problem. -/
def failExpecting {α : Type} (activity : Activity) (start : Mark) (expected : Expected) : Scan α := do
  fail activity start (.unexpected expected (← peek))

end Scan

open Scan

def isWordChar (c : Char) : Bool := c.isAlphanum || c == '-' || c == '_'

def isHexDigit (c : Char) : Bool :=
  c.isDigit || ('a' ≤ c && c ≤ 'f') || ('A' ≤ c && c ≤ 'F')

def hexValue (c : Char) : Nat :=
  if c.isDigit then c.toNat - 48 else if c.toNat < 97 then c.toNat - 55 else c.toNat - 87

def hexNumber (cs : List Char) : Nat := cs.foldl (fun n c => 16 * n + hexValue c) 0

/-- Characters that stand for themselves in a tag. -/
def isUriChar (c : Char) : Bool :=
  c.isAlphanum || "-;/?:@&=+$,_.!~*'()[]".toList.contains c

/-- The rest of a line after a directive or the head of a block scalar: blanks and a comment. -/
def lineEnd (activity : Activity) (start : Mark) : Scan Unit := do
  skipBlanks
  if (← peek) == '#' then skip fun d => !isBreak d
  if isBreakOrEnd (← peek) then discard lineBreak
  else failExpecting activity start .commentOrBreak

/-- The name after the indicator of an anchor or of a reference to it. -/
def anchorName (activity : Activity) (start : Mark) : Scan String := do
  forward 1
  let name ← chars isWordChar
  if name.isEmpty then failExpecting activity start .word
  let c ← peek
  if isWideGap c || "?:,]\x7d%@`".toList.contains c then return String.ofList name
  else failExpecting activity start .word

/-- One exclamation mark, or a word between two. -/
def tagHandle (activity : Activity) (start : Mark) : Scan String := do
  if (← peek) != '!' then failExpecting activity start .exclamation
  if (← get).peekAt 1 == ' ' then
    forward 1
    return "!"
  else
    forward 1
    let word ← chars isWordChar
    if (← peek) != '!' then failExpecting activity start .exclamation
    forward 1
    return String.ofList ('!' :: word ++ ['!'])

/-- The bytes of percent escapes in a row. -/
def uriBytes (activity : Activity) (start : Mark) : Nat → Scan (List UInt8)
  | 0 => return []
  | fuel + 1 => do
    if (← peek) != '%' then return []
    forward 1
    let c ← get
    let wrong := [c.peekAt 0, c.peekAt 1].find? fun d => !isHexDigit d
    match wrong with
    | some d => fail activity start (.unexpected .uriEscape d)
    | none =>
      forward 2
      let byte := (hexNumber (c.rest.take 2)).toUInt8
      return byte :: (← uriBytes activity start fuel)

def uriPieces (activity : Activity) (start : Mark) : Nat → Scan (List Char)
  | 0 => return []
  | fuel + 1 => do
    let plain ← chars isUriChar
    if (← peek) == '%' then
      let mark ← here
      let bytes ← uriBytes activity start (← get).rest.length
      match Utf8.decode bytes with
      | .ok text => return plain ++ text.toList ++ (← uriPieces activity start fuel)
      | .error e => throw (.problem .tokens (some (activity, some start)) (.uriText e) mark)
    else return plain

/-- The text of a tag; its escapes are part of one activity, its absence of another. -/
def tagUri (activity uriActivity : Activity) (start : Mark) : Scan String := do
  let c ← get
  let text ← uriPieces activity start (c.rest.length + 1)
  if (← get).mark.index == c.mark.index then failExpecting uriActivity start .uri
  return String.ofList text

/-- The handle and the rest of a tag; a tag in angle brackets and a lone exclamation mark have no
handle. -/
def tagParts : Scan (Option String × String) := do
  let start ← here
  let c ← get
  let second := c.peekAt 1
  let parts ←
    if second == '<' then do
      forward 2
      let uri ← tagUri .tag .tagUri start
      if (← peek) != '>' then failExpecting .tagUri start .closingAngle
      forward 1
      pure (none, uri)
    else if isWideGap second then do
      forward 1
      pure (none, "!")
    else if ((c.rest.drop 1).takeWhile fun d => !isGap d).contains '!' then do
      let handle ← tagHandle .tag start
      pure (some handle, ← tagUri .tag .tagUri start)
    else do
      forward 1
      pure (some "!", ← tagUri .tag .tagUri start)
  if isGap (← peek) then return parts else failExpecting .tag start .blank

/-- How the line breaks at the end of a block scalar are kept: the first one, none or all. -/
inductive Chomping where
  | clip
  | strip
  | keep
deriving DecidableEq, Repr

def chomping? (c : Char) : Option Chomping :=
  if c == '+' then some .keep else if c == '-' then some .strip else none

/-- The digit that fixes the indentation of a block scalar. -/
def indentDigit (start : Mark) : Scan (Option Nat) := do
  let c ← peek
  if c.isDigit then
    if c == '0' then fail .blockScalar start .zeroIndent
    forward 1
    return some (c.toNat - 48)
  else return none

/-- The chomping and the indentation digit after the indicator of a block scalar, in either order. -/
def blockIndicators (start : Mark) : Scan (Chomping × Option Nat) := do
  let result ←
    match chomping? (← peek) with
    | some chomp => do
      forward 1
      pure (chomp, ← indentDigit start)
    | none => do
      let digit ← indentDigit start
      match digit, chomping? (← peek) with
      | some _, some chomp => do
        forward 1
        pure (chomp, digit)
      | _, _ => pure (.clip, digit)
  if isGap (← peek) then return result else failExpecting .blockScalar start .indicators

/-- Blank lines before the first line of a block scalar, and the widest indentation seen. -/
def leadingBreaks : Nat → Nat → Scan (List Char × Nat)
  | 0, widest => return ([], widest)
  | fuel + 1, widest => do
    let c ← peek
    if c == ' ' then
      forward 1
      leadingBreaks fuel (max widest (← here).column)
    else if isBreak c then
      let b ← lineBreak
      let (bs, widest) ← leadingBreaks fuel widest
      return (b ++ bs, widest)
    else return ([], widest)

/-- Passes over blanks up to a column. -/
def indentTo (column : Nat) : Scan Unit := do
  let c ← get
  let blanks := (c.rest.takeWhile (· == ' ')).length
  forward (min blanks (column - c.column))

/-- Blank lines between the lines of a block scalar. -/
def blockBreaks (indent : Nat) : Nat → Scan (List Char)
  | 0 => return []
  | fuel + 1 => do
    indentTo indent
    if isBreak (← peek) then
      let b ← lineBreak
      return b ++ (← blockBreaks indent fuel)
    else return []

def isBlankOrTab (c : Char) : Bool := c == ' ' || c == '\t'

/-- What joins two lines of a block scalar. In a folded one a line feed between two lines that are not
indented further becomes a blank, or nothing if blank lines follow. -/
def lineJoin (folded indented : Bool) (ending breaks : List Char) (next : Char) : List Char :=
  if folded && ending == ['\n'] && !indented && !isBlankOrTab next then
    if breaks.isEmpty then [' '] else []
  else ending

/-- The lines of a block scalar, the ending of the last one and the blank lines behind it. -/
def blockLines (folded : Bool) (indent : Nat) (breaks : List Char) :
    Nat → Scan (List Char × List Char × List Char)
  | 0 => return ([], [], breaks)
  | fuel + 1 => do
    let c ← get
    if c.column != indent || c.rest.isEmpty then return ([], [], breaks)
    let indented := isBlankOrTab c.peek
    let line ← chars fun d => !isBreak d
    let ending ← lineBreak
    let more ← blockBreaks indent (c.rest.length + 1)
    let c ← get
    if c.column == indent && !c.rest.isEmpty then
      let (text, last, final) ← blockLines folded indent more fuel
      return (breaks ++ line ++ lineJoin folded indented ending more c.peek ++ text, last, final)
    else return (breaks ++ line, ending, more)

/-- The text of a block scalar below a given indentation. -/
def blockScalar (folded : Bool) (parent : Int) : Scan String := do
  let start ← here
  forward 1
  let (chomp, digit) ← blockIndicators start
  lineEnd .blockScalar start
  let least := (max (parent + 1) 1).toNat
  let length := (← get).rest.length + 1
  let (breaks, indent) ←
    match digit with
    | none => do
      let (breaks, widest) ← leadingBreaks length 0
      pure (breaks, max least widest)
    | some n => do
      let indent := least + n - 1
      pure (← blockBreaks indent length, indent)
  let (text, ending, more) ← blockLines folded indent breaks length
  let tail :=
    match chomp with
    | .clip => ending
    | .strip => []
    | .keep => ending ++ more
  return String.ofList (text ++ tail)

def escapes : List (Char × Char) := [
  ('0', '\x00'), ('a', '\x07'), ('b', '\x08'), ('t', '\t'), ('\t', '\t'), ('n', '\n'), ('v', '\x0b'),
  ('f', '\x0c'), ('r', '\r'), ('e', '\x1b'), (' ', ' '), ('"', '"'), ('\\', '\\'), ('/', '/'),
  ('N', '\x85'), ('_', '\xa0'), ('L', '\u2028'), ('P', '\u2029')]

def escapeWidth? (c : Char) : Option Nat :=
  if c == 'x' then some 2 else if c == 'u' then some 4 else if c == 'U' then some 8 else none

/-- Line breaks inside quotes, with the blanks around them. -/
def quotedBreaks (start : Mark) : Nat → Scan (List Char)
  | 0 => return []
  | fuel + 1 => do
    if (← get).isSeparator then fail .quotedScalar start .separatorInQuotes
    skip isBlankOrTab
    if isBreak (← peek) then
      let b ← lineBreak
      return b ++ (← quotedBreaks start fuel)
    else return []

/-- A character by its code. -/
def escapedCode (start : Mark) (width : Nat) : Scan (List Char) := do
  let digits := (← get).rest.take width
  match digits.find? fun d => !isHexDigit d with
  | some d => fail .doubleQuoted start (.unexpected (.escapeDigits width) d)
  | none =>
    if digits.length < width then
      fail .doubleQuoted start (.unexpected (.escapeDigits width) endChar)
    let code := hexNumber digits
    if 0x10FFFF < code then throw (.refused (if code < 2147483648 then .refusedValue else .overflow))
    forward width
    return [Char.ofNat code]

/-- What a backslash begins in double quotes. -/
def escape (start : Mark) : Scan (List Char) := do
  forward 1
  let c ← peek
  match escapes.find? (·.1 == c), escapeWidth? c with
  | some (_, d), _ => do
    forward 1
    return [d]
  | none, some width => do
    forward 1
    escapedCode start width
  | none, none =>
    if isBreak c then do
      discard lineBreak
      quotedBreaks start (← get).rest.length
    else fail .doubleQuoted start (.unknownEscape c)

def isQuotedPlain (c : Char) : Bool :=
  !(c == '\'' || c == '"' || c == '\\' || isBlankOrTab c || isBreak c)

/-- Text in quotes up to a blank, a line break, the closing quote or the end. -/
def quotedWord (double : Bool) (start : Mark) : Nat → Scan (List Char)
  | 0 => return []
  | fuel + 1 => do
    let plain ← chars isQuotedPlain
    let c ← get
    let d := c.peek
    if !double && d == '\'' && c.peekAt 1 == '\'' then
      forward 2
      return plain ++ '\'' :: (← quotedWord double start fuel)
    else if (double && d == '\'') || (!double && (d == '"' || d == '\\')) then
      forward 1
      return plain ++ d :: (← quotedWord double start fuel)
    else if double && d == '\\' then
      let text ← escape start
      return plain ++ text ++ (← quotedWord double start fuel)
    else return plain

/-- Blanks in quotes; a line break among them becomes a blank or the blank lines behind it. -/
def quotedSpace (start : Mark) : Scan (List Char) := do
  let blanks ← chars isBlankOrTab
  let c ← get
  if c.rest.isEmpty then fail .quotedScalar start .unclosedQuote
  if isBreak c.peek then
    let b ← lineBreak
    let more ← quotedBreaks start c.rest.length
    return (if b != ['\n'] then b else if more.isEmpty then [' '] else []) ++ more
  else return blanks

def quotedRest (double : Bool) (start : Mark) : Nat → Scan (List Char)
  | 0 => return []
  | fuel + 1 => do
    let c ← get
    if c.peek == (if double then '"' else '\'') then return []
    let blanks ← quotedSpace start
    let word ← quotedWord double start (c.rest.length + 1)
    return blanks ++ word ++ (← quotedRest double start fuel)

/-- The text of a scalar in quotes. -/
def quotedScalar (double : Bool) : Scan String := do
  let start ← here
  forward 1
  let length := (← get).rest.length + 1
  let word ← quotedWord double start length
  let text ← quotedRest double start (length + 1)
  forward 1
  return String.ofList (word ++ text)

/-- The blanks and line breaks behind a piece of a plain scalar, and whether they cross a line. Nothing
is given where the scalar ends. -/
def plainBreaks : Nat → Scan (Option (List Char))
  | 0 => return some []
  | fuel + 1 => do
    let c ← peek
    if c == ' ' then
      forward 1
      plainBreaks fuel
    else if isBreak c then
      let b ← lineBreak
      if (← get).isSeparator then return none
      return (← plainBreaks fuel).map (b ++ ·)
    else return some []

def plainSpace : Scan (List Char × Bool) := do
  let blanks ← chars (· == ' ')
  if isBreak (← peek) then
    let b ← lineBreak
    if (← get).isSeparator then return ([], true)
    match ← plainBreaks (← get).rest.length with
    | none => return ([], true)
    | some more => return ((if b != ['\n'] then b else if more.isEmpty then [' '] else []) ++ more, true)
  else return (blanks, false)

def isFlowIndicator (c : Char) : Bool := ",[]\x7b\x7d".toList.contains c

/-- A piece of a plain scalar; a colon ends it before a gap, in brackets also before an indicator. -/
def plainPiece (inFlow : Bool) : List Char → List Char
  | [] => []
  | c :: rest =>
    let next := rest.headD endChar
    if isWideGap c || (c == ':' && (isWideGap next || (inFlow && isFlowIndicator next))) ||
        (inFlow && (c == '?' || isFlowIndicator c)) then []
    else c :: plainPiece inFlow rest

/-- The pieces of a plain scalar, the mark behind the last one, and whether a line break follows. -/
def plainPieces (inFlow : Bool) (indent : Int) (before : List Char) (crossed : Bool) (stop : Mark) :
    Nat → Scan (List Char × Mark × Bool)
  | 0 => return ([], stop, crossed)
  | fuel + 1 => do
    let c ← get
    if c.peek == '#' then return ([], stop, crossed)
    let piece := plainPiece inFlow c.rest
    if piece.isEmpty then return ([], stop, crossed)
    forward piece.length
    let stop ← here
    let (space, crossed) ← plainSpace
    let c ← get
    if space.isEmpty || c.peek == '#' || (!inFlow && (c.column : Int) < indent) then
      return (before ++ piece, stop, crossed)
    let (text, stop, crossed) ← plainPieces inFlow indent space crossed stop fuel
    return (before ++ piece ++ text, stop, crossed)

/-- A scalar without quotes. -/
def plainScalar (inFlow : Bool) (parent : Int) : Scan (String × Mark × Bool) := do
  let c ← get
  let (text, stop, crossed) ← plainPieces inFlow (parent + 1) [] false c.mark (c.rest.length + 1)
  return (String.ofList text, stop, crossed)

/-- The numbers of a version directive. -/
def versionNumber (start : Mark) : Scan Nat := do
  let digits ← chars Char.isDigit
  if digits.isEmpty then failExpecting .directive start .digit
  return digits.foldl (fun n d => 10 * n + (d.toNat - 48)) 0

def versionDirective (start : Mark) : Scan Directive := do
  skipBlanks
  let major ← versionNumber start
  if (← peek) != '.' then failExpecting .directive start .digitOrPoint
  forward 1
  let minor ← versionNumber start
  if !isGap (← peek) then failExpecting .directive start .digitOrBlank
  return .version major minor

def tagDirective (start : Mark) : Scan Directive := do
  skipBlanks
  let handle ← tagHandle .directive start
  if (← peek) != ' ' then failExpecting .directive start .blank
  skipBlanks
  let uri ← tagUri .directive .directiveUri start
  if !isGap (← peek) then failExpecting .directive start .blank
  return .tagHandle handle uri

/-- A directive and the mark behind it; the rest of its line holds at most a comment. -/
def directive : Scan (Directive × Mark) := do
  let start ← here
  forward 1
  let name ← chars isWordChar
  if name.isEmpty then failExpecting .directive start .word
  if !isGap (← peek) then failExpecting .directive start .word
  let d ←
    match String.ofList name with
    | "YAML" => versionDirective start
    | "TAG" => tagDirective start
    | _ => do
      skip fun d => !isBreak d
      pure .unknown
  let stop ← here
  lineEnd .directive start
  return (d, stop)

end Runbook.Yaml
