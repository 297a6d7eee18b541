import Runbook.Yaml.Scalar
import Runbook.Yaml.Token.Lexer

/-! The tree of nodes that tokens form. Tokens are read as they are needed, so of two problems the one that
comes first in the text is reported. A reference to a collection inside itself stands for an empty one. -/

namespace Runbook.Yaml

/-- `handles` are the beginnings of tags and `anchors` the named nodes so far. -/
structure Reader where
  lexer : Lexer
  handles : List (String × String) := []
  anchors : List (String × Node) := []

abbrev Reading := StateT Reader (Except Error)

/-- What can stand before the content of a node. -/
structure Properties where
  anchor : Option String := none
  tag : Option String := none
  start : Option Mark := none

namespace Reading

def onLexer {α : Type} (l : Lexing α) : Reading α := do
  let r ← get
  let (a, lexer) ← l.run r.lexer
  set { r with lexer }
  return a

def peek : Reading Token := onLexer Lexing.peek

def next : Reading Token := onLexer Lexing.next

def fail {α : Type} (activity : Option (Activity × Option Mark)) (what : Problem) (mark : Mark) :
    Reading α :=
  throw (.problem .grammar activity what mark)

def standardHandles : List (String × String) := [("!", "!"), ("!!", Tag.base)]

/-- The standard handles where the document does not define its own. -/
def allHandles (own : List (String × String)) : List (String × String) :=
  own ++ standardHandles.filter fun (h, _) => !own.any (·.1 == h)

/-- The directives before a document. -/
def directives (version : Bool) (own : List (String × String)) :
    Nat → Reading (List (String × String))
  | 0 => return own
  | fuel + 1 => do
    let t ← peek
    match t.kind with
    | .directive d => do
      discard next
      match d with
      | .version major _ => do
        if version then fail none .versionTwice t.start
        if major != 1 then fail none .badVersion t.start
        directives true own fuel
      | .tagHandle handle uri => do
        if own.any (·.1 == handle) then fail none (.tagHandleTwice handle) t.start
        directives version (own ++ [(handle, uri)]) fuel
      | .unknown => directives version own fuel
    | _ => return own

/-- The full tag of a handle and its rest. -/
def fullTag (start mark : Mark) (handle : Option String) (rest : String) : Reading String := do
  match handle with
  | none => return rest
  | some h =>
    match (← get).handles.find? (·.1 == h) with
    | some (_, uri) => return uri ++ rest
    | none => fail (some (.node, some start)) (.unknownTagHandle h) mark

/-- An anchor and a tag, in either order. -/
def properties : Reading Properties := do
  let first ← peek
  match first.kind with
  | .anchor name => do
    discard next
    let second ← peek
    match second.kind with
    | .tag handle rest => do
      discard next
      let tag ← fullTag first.start second.start handle rest
      return { anchor := some name, tag := some tag, start := some first.start }
    | _ => return { anchor := some name, start := some first.start }
  | .tag handle rest => do
    discard next
    let second ← peek
    match second.kind with
    | .anchor name => do
      discard next
      let tag ← fullTag first.start first.start handle rest
      return { anchor := some name, tag := some tag, start := some first.start }
    | _ => return { tag := some (← fullTag first.start first.start handle rest), start := some first.start }
  | _ => return {}

def findAnchor? (name : String) : Reading (Option Node) := do
  return ((← get).anchors.find? (·.1 == name)).map (·.2)

def checkAnchor (anchor : Option String) (start : Mark) : Reading Unit := do
  match anchor with
  | none => return
  | some name =>
    match ← findAnchor? name with
    | some node =>
      throw (.problem .nodes (some (.anchorTwice name, some node.mark)) .secondAnchor start)
    | none => return

/-- Gives a node its name, in place of an earlier one. -/
def define (anchor : Option String) (node : Node) : Reading Node := do
  match anchor with
  | some name => modify fun r => { r with anchors := (name, node) :: r.anchors }
  | none => pure ()
  return node

def referenced (name : String) (mark : Mark) : Reading Node := do
  match ← findAnchor? name with
  | some node => return node
  | none => throw (.problem .nodes none (.unknownAnchor name) mark)

/-- The tag in a document, unless it leaves the type to the form of the node. -/
def givenTag? (tag : Option String) : Option Tag :=
  match tag with
  | some uri => if uri == "!" then none else some (.ofUri uri)
  | none => none

/-- The type of a scalar: the tag, else the form of a plain scalar, else text. -/
def scalarTag (tag : Option String) (text : String) (plain : Bool) : Tag :=
  match givenTag? tag with
  | some t => t
  | none => if plain || tag.isSome then Scalar.plainTag text else .text

def emptyScalar (mark : Mark) : Node := .scalar .null "" mark

/-- Whether the token cannot begin the content that the one before it announces. -/
def endsItem (ends : List TokenKind) (kind : TokenKind) : Bool := ends.contains kind

mutual

/-- A node. Block collections are read only where `block` says so, a sequence without an indentation of
its own only where `indentless` says so. -/
def node (block indentless : Bool) : Nat → Reading Node
  | 0 => return default
  | fuel + 1 => do
    let t ← peek
    match t.kind with
    | .reference name => do
      discard next
      referenced name t.start
    | _ => do
      let p ← properties
      let t ← peek
      let start := p.start.getD t.start
      content block indentless p t start fuel

/-- The content of a node behind its properties. -/
def content (block indentless : Bool) (p : Properties) (t : Token) (start : Mark) :
    Nat → Reading Node
  | 0 => return default
  | fuel + 1 => do
    let seqTag := (givenTag? p.tag).getD .sequence
    let mapTag := (givenTag? p.tag).getD .mapping
    let sequence (items : Reading (List Node)) : Reading Node := do
      checkAnchor p.anchor start
      discard <| define p.anchor (.sequence seqTag [] start)
      define p.anchor (.sequence seqTag (← items) start)
    let mapping (entries : Reading (List (Node × Node))) : Reading Node := do
      checkAnchor p.anchor start
      discard <| define p.anchor (.mapping mapTag [] start)
      define p.anchor (.mapping mapTag (← entries) start)
    match t.kind, block, indentless with
    | .blockEntry, _, true => sequence (looseItems fuel)
    | .scalar text plain, _, _ => do
      discard next
      checkAnchor p.anchor start
      define p.anchor (.scalar (scalarTag p.tag text plain) text start)
    | .flowSequenceStart, _, _ => sequence do
      discard next
      flowItems t.start true fuel
    | .flowMappingStart, _, _ => mapping do
      discard next
      flowEntries t.start true fuel
    | .blockSequenceStart, true, _ => sequence do
      discard next
      blockItems t.start fuel
    | .blockMappingStart, true, _ => mapping do
      discard next
      blockEntries t.start fuel
    | kind, _, _ => do
      if p.anchor.isSome || p.tag.isSome then
        checkAnchor p.anchor start
        define p.anchor (.scalar (scalarTag p.tag "" true) "" start)
      else
        fail (some (if block then .blockNode else .flowNode, some start)) (.noContent kind.name) t.start

def blockItems (start : Mark) : Nat → Reading (List Node)
  | 0 => return []
  | fuel + 1 => do
    let t ← next
    match t.kind with
    | .blockEntry => do
      let item ←
        if endsItem [.blockEntry, .blockEnd] (← peek).kind then pure (emptyScalar t.stop)
        else node true false fuel
      return item :: (← blockItems start fuel)
    | .blockEnd => return []
    | kind => fail (some (.blockSequence, some start)) (.notBlockEnd kind.name) t.start

/-- The items of a sequence at the indentation of the mapping around it. -/
def looseItems : Nat → Reading (List Node)
  | 0 => return []
  | fuel + 1 => do
    let t ← peek
    match t.kind with
    | .blockEntry => do
      discard next
      let item ←
        if endsItem [.blockEntry, .key, .value, .blockEnd] (← peek).kind then
          pure (emptyScalar t.stop)
        else node true false fuel
      return item :: (← looseItems fuel)
    | _ => return []

def blockEntries (start : Mark) : Nat → Reading (List (Node × Node))
  | 0 => return []
  | fuel + 1 => do
    let ends : List TokenKind := [.key, .value, .blockEnd]
    let t ← peek
    match t.kind with
    | .blockEnd => do
      discard next
      return []
    | .key => do
      discard next
      let key ←
        if endsItem ends (← peek).kind then pure (emptyScalar t.stop) else node true true fuel
      let v ← peek
      let value ←
        match v.kind with
        | .value => do
          discard next
          if endsItem ends (← peek).kind then pure (emptyScalar v.stop) else node true true fuel
        | _ => pure (emptyScalar v.start)
      return (key, value) :: (← blockEntries start fuel)
    | kind => fail (some (.blockMapping, some start)) (.notBlockEnd kind.name) t.start

def flowItems (start : Mark) (first : Bool) : Nat → Reading (List Node)
  | 0 => return []
  | fuel + 1 => do
    let t ← peek
    if t.kind == .flowSequenceEnd then
      discard next
      return []
    if !first then
      if t.kind == .flowEntry then discard next
      else fail (some (.flowSequence, some start)) (.notSequenceEnd t.kind.name) t.start
    let t ← peek
    match t.kind with
    | .flowSequenceEnd => do
      discard next
      return []
    | .key => do
      discard next
      let entry ← pairEntry t fuel
      return .mapping .mapping [entry] t.start :: (← flowItems start false fuel)
    | _ => do
      let item ← node false false fuel
      return item :: (← flowItems start false fuel)

/-- A single key with its value as an item of a sequence in brackets. -/
def pairEntry (t : Token) : Nat → Reading (Node × Node)
  | 0 => return (default, default)
  | fuel + 1 => do
    let key ←
      if endsItem [.value, .flowEntry, .flowSequenceEnd] (← peek).kind then
        pure (emptyScalar t.stop)
      else node false false fuel
    let v ← peek
    match v.kind with
    | .value => do
      discard next
      if endsItem [.flowEntry, .flowSequenceEnd] (← peek).kind then return (key, emptyScalar v.stop)
      else return (key, ← node false false fuel)
    | _ => return (key, emptyScalar v.start)

def flowEntries (start : Mark) (first : Bool) : Nat → Reading (List (Node × Node))
  | 0 => return []
  | fuel + 1 => do
    let t ← peek
    if t.kind == .flowMappingEnd then
      discard next
      return []
    if !first then
      if t.kind == .flowEntry then discard next
      else fail (some (.flowMapping, some start)) (.notMappingEnd t.kind.name) t.start
    let t ← peek
    match t.kind with
    | .flowMappingEnd => do
      discard next
      return []
    | .key => do
      discard next
      let key ←
        if endsItem [.value, .flowEntry, .flowMappingEnd] (← peek).kind then
          pure (emptyScalar t.stop)
        else node false false fuel
      let v ← peek
      let value ←
        match v.kind with
        | .value => do
          discard next
          if endsItem [.flowEntry, .flowMappingEnd] (← peek).kind then pure (emptyScalar v.stop)
          else node false false fuel
        | _ => pure (emptyScalar v.start)
      return (key, value) :: (← flowEntries start false fuel)
    | _ => do
      let key ← node false false fuel
      return (key, emptyScalar (← peek).start) :: (← flowEntries start false fuel)

end

/-- Passes over marks of the end of a document. -/
def skipEnds : Nat → Reading Unit
  | 0 => return
  | fuel + 1 => do
    if (← peek).kind == .documentEnd then
      discard next
      skipEnds fuel

/-- The start of a document with its directives, and where it is; none at the end of the text. -/
def documentStart (fuel : Nat) : Reading (Option Mark) := do
  skipEnds fuel
  let t ← peek
  if t.kind == .streamEnd then return none
  let own ← directives false [] fuel
  modify fun r => { r with handles := allHandles own }
  let s ← peek
  if s.kind != .documentStart then fail none (.notDocumentStart s.kind.name) s.start
  discard next
  return some t.start

def isDirective : TokenKind → Bool
  | .directive _ => true
  | _ => false

/-- Whether the token stands between documents. -/
def isOutside (kind : TokenKind) : Bool :=
  isDirective kind || kind == .documentStart || kind == .streamEnd

/-- The node of a document behind its start. -/
def documentNode (fuel : Nat) : Reading Node := do
  let t ← peek
  if isOutside t.kind || t.kind == .documentEnd then return emptyScalar t.start
  else node true false fuel

/-- The only document of a text; none in an empty text. -/
def onlyDocument (fuel : Nat) : Reading (Option Node) := do
  let root ←
    if isOutside (← peek).kind then do
      if (← documentStart fuel).isNone then return none
      documentNode fuel
    else do
      modify fun r => { r with handles := standardHandles }
      node true false fuel
  if (← peek).kind == .documentEnd then discard next
  match ← documentStart fuel with
  | some second =>
    throw (.problem .nodes (some (.document, some root.mark)) .secondDocument second)
  | none => return some root

end Reading

namespace Node

def isAllowed (c : Char) : Bool :=
  let n := c.toNat
  n = 9 || n = 10 || n = 13 || (32 ≤ n && n ≤ 126) || n = 0x85 || (0xA0 ≤ n && n ≤ 0xFFFD) ||
    0x10000 ≤ n

/-- Every node takes at least one token or stands for a missing one, so this depth is never used up. -/
def depthBound (text : List Char) : Nat := 8 * (text.length + 4)

/-- The tree of a text, none if the text has no document. -/
def ofText? (text : List Char) : Except Error (Option Node) :=
  match text.findIdx? fun c => !isAllowed c with
  | some i => .error (.badCharacter ((text.drop i).headD endChar) i)
  | none => do
    let (root, _) ← (Reading.onlyDocument (depthBound text)).run { lexer := .ofText text }
    return root

end Node

end Runbook.Yaml
