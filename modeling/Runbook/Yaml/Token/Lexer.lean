import Runbook.Yaml.Token.Cursor

/-! Tokens on demand. The indentation of a block is part of the tokens, and so is the start of a mapping
whose first key is only known as one when its colon is met: a place where such a key can have begun is kept
until then. -/

namespace Runbook.Yaml

/-- A place where a key can have begun: the number of its token, and whether its column demands a key. -/
structure PossibleKey where
  number : Nat
  required : Bool
  mark : Mark
deriving DecidableEq, Repr

/-- `flow` counts the open brackets, `taken` the tokens given away, and `keys` has at most one possible key
for each count of brackets. -/
structure Lexer where
  cursor : Cursor
  flow : Nat := 0
  indent : Int := -1
  indents : List Int := []
  allowKey : Bool := true
  keys : List (Nat × PossibleKey) := []
  tokens : List Token := []
  taken : Nat := 0
  done : Bool := false

abbrev Lexing := StateT Lexer (Except Error)

/-- A key stands on one line and has at most this many characters. -/
def keyReach : Nat := 1024

namespace Lexer

def here (l : Lexer) : Mark := l.cursor.mark

def column (l : Lexer) : Int := l.cursor.mark.column

def push (l : Lexer) (kind : TokenKind) (start stop : Mark) : Lexer :=
  { l with tokens := l.tokens ++ [⟨kind, start, stop⟩] }

def pushHere (l : Lexer) (kind : TokenKind) : Lexer := l.push kind l.here l.here

/-- A key whose colon cannot come any more; one that its column demands is an error. -/
def dropKey (l : Lexer) (key : PossibleKey) : Except Error Unit :=
  if key.required then
    .error (.problem .tokens (some (.simpleKey, some key.mark)) .keyWithoutColon l.here)
  else .ok ()

def isStale (l : Lexer) (key : PossibleKey) : Bool :=
  key.mark.line != l.here.line || keyReach < l.here.index - key.mark.index

/-- Drops the possible keys that are on another line or too far away. -/
def dropStaleKeys (l : Lexer) : Except Error Lexer := do
  for (_, key) in l.keys do
    if l.isStale key then l.dropKey key
  return { l with keys := l.keys.filter fun (_, key) => !l.isStale key }

/-- Drops the possible key inside the brackets open now. -/
def dropLevelKey (l : Lexer) : Except Error Lexer := do
  match l.keys.find? (·.1 == l.flow) with
  | none => return l
  | some (_, key) =>
    l.dropKey key
    return { l with keys := l.keys.filter (·.1 != l.flow) }

/-- Notes that a key can begin here. -/
def noteKey (l : Lexer) : Except Error Lexer := do
  if l.allowKey then
    let required := l.flow == 0 && l.indent == l.column
    let l ← l.dropLevelKey
    return { l with keys := l.keys ++ [(l.flow, ⟨l.taken + l.tokens.length, required, l.here⟩)] }
  else return l

/-- Closes the blocks that are indented further than a column. -/
def unwind (column : Int) (indents : List Int) (l : Lexer) : Lexer :=
  if l.flow == 0 && column < l.indent then
    match indents with
    | [] => l
    | outer :: rest =>
      unwind column rest ({ l with indent := outer, indents := rest }.pushHere .blockEnd)
  else l

def unwindTo (l : Lexer) (column : Int) : Lexer := l.unwind column l.indents

/-- Opens a block at a column if that is indented further than the block around it. -/
def deepen (l : Lexer) (column : Int) : Option Lexer :=
  if l.indent < column then some { l with indents := l.indent :: l.indents, indent := column }
  else none

/-- Opens a block here, with its token. -/
def openBlock (l : Lexer) (kind : TokenKind) : Lexer :=
  match l.deepen l.column with
  | some m => m.pushHere kind
  | none => l

/-- Places a token before one that was read already. -/
def insert (l : Lexer) (number : Nat) (kind : TokenKind) (mark : Mark) : Lexer :=
  let i := number - l.taken
  { l with tokens := l.tokens.take i ++ ⟨kind, mark, mark⟩ :: l.tokens.drop i }

/-- A token of a fixed count of characters. -/
def pushMark (l : Lexer) (kind : TokenKind) (width : Nat) : Lexer :=
  let cursor := l.cursor.forward width
  { l.push kind l.here cursor.mark with cursor }

def atSeparator (l : Lexer) (c : Char) : Bool :=
  l.cursor.column == 0 && l.cursor.peek == c && l.cursor.isSeparator

/-- Whether an indicator stands alone here. -/
def beforeGap (l : Lexer) : Bool := isWideGap (l.cursor.peekAt 1)

/-- Whether a plain scalar can begin here. -/
def atPlain (l : Lexer) : Bool :=
  let c := l.cursor.peek
  !(isWideGap c || "-?:,[]\x7b\x7d#&*!|>'\"%@`".toList.contains c) ||
    (!l.beforeGap && (c == '-' || (l.flow == 0 && (c == '?' || c == ':'))))

def failHere {α : Type} (l : Lexer) (what : Problem) : Except Error α :=
  .error (.problem .tokens none what l.here)

/-- Passes over blanks, comments and line breaks; behind a line break outside brackets a key can begin. -/
def skipToToken (l : Lexer) : Nat → Lexer
  | 0 => l
  | fuel + 1 =>
    let cursor := l.cursor.skipBlanks
    let cursor := if cursor.peek == '#' then cursor.skipLine else cursor
    let (b, after) := cursor.lineBreak
    if b.isEmpty then { l with cursor }
    else skipToToken { l with cursor := after, allowKey := l.allowKey || l.flow == 0 } fuel

/-- A token that is read in several pieces. -/
def scanned {α : Type} (l : Lexer) (s : Scan α) (kind : α → TokenKind) : Except Error Lexer := do
  let (a, cursor) ← s.run l.cursor
  return { l.push (kind a) l.here cursor.mark with cursor }

/-- The end of the document closes every block. -/
def fetchEnd (l : Lexer) : Except Error Lexer := do
  let l ← (l.unwindTo (-1)).dropLevelKey
  return { l with allowKey := false, keys := [], done := true }.pushHere .streamEnd

def fetchDirective (l : Lexer) : Except Error Lexer := do
  let l ← (l.unwindTo (-1)).dropLevelKey
  let ((d, stop), cursor) ← directive.run l.cursor
  return { l.push (.directive d) l.here stop with cursor, allowKey := false }

def fetchSeparator (l : Lexer) (kind : TokenKind) : Except Error Lexer := do
  let l ← (l.unwindTo (-1)).dropLevelKey
  return { l with allowKey := false }.pushMark kind 3

def fetchOpening (l : Lexer) (kind : TokenKind) : Except Error Lexer := do
  let l ← l.noteKey
  return { l with flow := l.flow + 1, allowKey := true }.pushMark kind 1

def fetchClosing (l : Lexer) (kind : TokenKind) : Except Error Lexer := do
  let l ← l.dropLevelKey
  return { l with flow := l.flow - 1, allowKey := false }.pushMark kind 1

def fetchComma (l : Lexer) : Except Error Lexer := do
  let l ← { l with allowKey := true }.dropLevelKey
  return l.pushMark .flowEntry 1

def fetchDash (l : Lexer) : Except Error Lexer := do
  if l.flow == 0 && !l.allowKey then l.failHere .sequenceEntryNotAllowed
  let l := if l.flow == 0 then l.openBlock .blockSequenceStart else l
  let l ← { l with allowKey := true }.dropLevelKey
  return l.pushMark .blockEntry 1

def fetchQuestion (l : Lexer) : Except Error Lexer := do
  if l.flow == 0 && !l.allowKey then l.failHere .keyNotAllowed
  let l := if l.flow == 0 then l.openBlock .blockMappingStart else l
  let l ← { l with allowKey := l.flow == 0 }.dropLevelKey
  return l.pushMark .key 1

/-- A colon makes the possible key before it a key, and opens a mapping there if none is open. -/
def fetchColon (l : Lexer) : Except Error Lexer := do
  match l.keys.find? (·.1 == l.flow) with
  | some (_, key) =>
    let l := { l with keys := l.keys.filter (·.1 != l.flow), allowKey := false }
    let l := l.insert key.number .key key.mark
    let l :=
      if l.flow == 0 then
        match l.deepen key.mark.column with
        | some m => m.insert key.number .blockMappingStart key.mark
        | none => l
      else l
    return l.pushMark .value 1
  | none =>
    if l.flow == 0 && !l.allowKey then l.failHere .valueNotAllowed
    let l := if l.flow == 0 then l.openBlock .blockMappingStart else l
    let l ← { l with allowKey := l.flow == 0 }.dropLevelKey
    return l.pushMark .value 1

/-- Anchors, references, tags and scalars in quotes can begin a key. -/
def fetchKeyPart {α : Type} (l : Lexer) (s : Scan α) (kind : α → TokenKind) : Except Error Lexer := do
  let l ← l.noteKey
  { l with allowKey := false }.scanned s kind

def fetchBlockScalar (l : Lexer) (folded : Bool) : Except Error Lexer := do
  let l ← { l with allowKey := true }.dropLevelKey
  l.scanned (blockScalar folded l.indent) (.scalar · false)

def fetchPlain (l : Lexer) : Except Error Lexer := do
  let l ← l.noteKey
  let ((text, stop, crossed), cursor) ← (plainScalar (l.flow != 0) l.indent).run l.cursor
  return { l.push (.scalar text true) l.here stop with cursor, allowKey := crossed }

/-- The token that begins with a character. -/
def fetchBy (l : Lexer) (c : Char) : Except Error Lexer :=
  if c == endChar then l.fetchEnd
  else if c == '%' && l.cursor.column == 0 then l.fetchDirective
  else if l.atSeparator '-' then l.fetchSeparator .documentStart
  else if l.atSeparator '.' then l.fetchSeparator .documentEnd
  else if c == '[' then l.fetchOpening .flowSequenceStart
  else if c == '\x7b' then l.fetchOpening .flowMappingStart
  else if c == ']' then l.fetchClosing .flowSequenceEnd
  else if c == '\x7d' then l.fetchClosing .flowMappingEnd
  else if c == ',' then l.fetchComma
  else if c == '-' && l.beforeGap then l.fetchDash
  else if c == '?' && (l.flow != 0 || l.beforeGap) then l.fetchQuestion
  else if c == ':' && (l.flow != 0 || l.beforeGap) then l.fetchColon
  else if c == '*' then l.fetchKeyPart (do anchorName .reference (← Scan.here)) .reference
  else if c == '&' then l.fetchKeyPart (do anchorName .anchor (← Scan.here)) .anchor
  else if c == '!' then l.fetchKeyPart tagParts fun (handle, rest) => .tag handle rest
  else if c == '|' && l.flow == 0 then l.fetchBlockScalar false
  else if c == '>' && l.flow == 0 then l.fetchBlockScalar true
  else if c == '\'' then l.fetchKeyPart (quotedScalar false) (.scalar · false)
  else if c == '"' then l.fetchKeyPart (quotedScalar true) (.scalar · false)
  else if l.atPlain then l.fetchPlain
  else .error (.problem .tokens (some (.nextToken, none)) (.badTokenStart c) l.here)

/-- Reads at least one more token. -/
def fetch (l : Lexer) : Except Error Lexer := do
  let l ← (l.skipToToken (l.cursor.rest.length + 1)).dropStaleKeys
  let l := l.unwindTo l.column
  l.fetchBy l.cursor.peek

/-- Whether a token before the first one may still come to light. -/
def firstIsOpen (l : Lexer) : Bool :=
  l.tokens.isEmpty || (l.keys.map (·.2.number)).min? == some l.taken

/-- Reads on until the first token is certain. -/
def settle (l : Lexer) : Nat → Except Error Lexer
  | 0 => .ok l
  | fuel + 1 => do
    if l.done then return l
    if l.tokens.isEmpty then settle (← l.fetch) fuel
    else
      let l ← l.dropStaleKeys
      if l.firstIsOpen then settle (← l.fetch) fuel else return l

/-- The lexer at the start of a document; a byte order mark there is passed over. -/
def ofText (text : List Char) : Lexer :=
  let cursor : Cursor := ⟨text, .start⟩
  { cursor := if cursor.peek == '\uFEFF' then cursor.next else cursor }

end Lexer

namespace Lexing

/-- The next token, which stays. -/
def peek : Lexing Token := do
  let l ← get
  let l ← l.settle (l.cursor.rest.length + 2)
  set l
  return l.tokens.headD ⟨.streamEnd, l.here, l.here⟩

def next : Lexing Token := do
  let t ← peek
  modify fun l => { l with tokens := l.tokens.drop 1, taken := l.taken + 1 }
  return t

end Lexing

end Runbook.Yaml
