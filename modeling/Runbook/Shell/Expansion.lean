import Runbook.Shell.Arithmetic
import Runbook.Shell.Machine
import Runbook.Shell.Reader

/-! Words to texts: parameters, arithmetic and the output of commands take their places, then blanks part
fields and patterns become the names of files. -/

namespace Runbook.Shell

open Text

/-- An expanded word is made of characters, of marks that there is a text even if it is empty, and of gaps
between fields. -/
inductive Glyph where
  | char (c : Char) (quoted : Bool)
  | hold
  | gap
deriving DecidableEq, Repr

namespace Glyph

def quotedText (cs : List Char) : List Glyph := if cs.isEmpty then [.hold] else cs.map (.char · true)

/-- Characters outside quotes; separators part fields. -/
def openText (separators : List Char) (cs : List Char) : List Glyph :=
  cs.map fun c => if separators.contains c then .gap else .char c false

def value (separators : List Char) (quoted : Bool) (s : String) : List Glyph :=
  if quoted then quotedText s.toList else openText separators s.toList

/-- The text without gaps. -/
def text (gs : List Glyph) : String :=
  String.ofList <| gs.filterMap fun
    | .char c _ => some c
    | .gap => some ' '
    | .hold => none

/-- The text as a pattern, in which quoted characters stand for themselves. -/
def pattern (gs : List Glyph) : String :=
  String.ofList <| gs.flatMap fun
    | .char c quoted => if quoted && "*?[".toList.contains c then ['[', c, ']'] else [c]
    | .gap => [' ']
    | .hold => []

/-- The fields between gaps; a field without characters counts if it is held. -/
def fields (current : List Glyph) : List Glyph → List (List Glyph)
  | [] => if current.isEmpty then [] else [current.reverse]
  | .gap :: rest => if current.isEmpty then fields [] rest else current.reverse :: fields [] rest
  | g :: rest => fields (g :: current) rest

def isPattern (gs : List Glyph) : Bool :=
  gs.any fun
    | .char c false => "*?[".toList.contains c
    | _ => false

end Glyph

/-- The paths below a directory whose components fit patterns. A point in front has to be written. -/
def fittingPaths (f : Files) (dir : Place) (shown : String) : List String → List String
  | [] => []
  | form :: more =>
    let names := (f.namesIn dir).filter fun n =>
      Glob.nameFits form n && (!startsWith n "." || startsWith form ".")
    names.flatMap fun n =>
      if more.isEmpty then [shown ++ n]
      else if f.nodeAt (dir ++ [n]) = some .directory then
        fittingPaths f (dir ++ [n]) (shown ++ n ++ "/") more
      else []

/-- The names of files that fit a field, or the field itself where it is no pattern or nothing fits. -/
def pathsOf (f : Files) (gs : List Glyph) : List String :=
  if Glyph.isPattern gs then
    let form := Glyph.pattern gs
    let found :=
      if startsWith form "/" then fittingPaths f [] "/" (splitOn (String.ofList (form.toList.drop 1)) '/')
      else fittingPaths f f.workDir "" (splitOn form '/')
    if found.isEmpty then [Glyph.text gs] else found
  else [Glyph.text gs]

namespace Machine

def separators (m : Machine) : List Char := ((m.look? "IFS").getD " \t\n").toList

def parameter? (m : Machine) (name : String) : Option String :=
  match name with
  | "?" => some (toString m.status)
  | "$" => some (toString m.pid)
  | "#" => some (toString m.arguments.length)
  | "!" => m.lastJob.map toString
  | "-" => some ""
  | "@" | "*" => if m.arguments.isEmpty then none else some (joinWith " " m.arguments)
  | _ =>
    match name.toNat? with
    | some 0 => some m.name
    | some n => m.arguments[n - 1]?
    | none => m.look? name

/-- All arguments: in quotes each is a field of its own. -/
def allArguments (m : Machine) (quoted : Bool) : List Glyph :=
  let one (s : String) : List Glyph :=
    if quoted then .hold :: Glyph.quotedText s.toList else Glyph.openText m.separators s.toList
  ((m.arguments.map one).intersperse [.gap]).flatten

end Machine

/-- A value without the shortest or the longest part at one of its ends that fits a pattern. -/
def trimmed (atEnd longest : Bool) (form value : String) : String :=
  let cs := value.toList
  let sizes := List.range (cs.length + 1)
  let sizes := if longest then sizes.reverse else sizes
  let part (n : Nat) : List Char := if atEnd then cs.drop (cs.length - n) else cs.take n
  match sizes.find? fun n => Glob.nameFits form (String.ofList (part n)) with
  | some n => String.ofList (if atEnd then cs.take (cs.length - n) else cs.drop n)
  | none => value

namespace Step

/-- A fault of the script, which ends the shell. -/
def abort {α : Type} (message : String) : Step α := do
  fail 2 message
  throw (.leave 2)

def orAbort {α : Type} (r : Except Flaw α) : Step α :=
  match r with
  | .ok a => pure a
  | .error f => abort f.message

/-- The value of an expression over the variables. -/
def arithmetic (expression : String) : Step Int := do
  let m ← get
  let look (name : String) : Except Arithmetic.Error Int :=
    let s := (m.look? name).getD ""
    match Arithmetic.integer? s with
    | some n => .ok n
    | none => .error (.badNumber s)
  match (Arithmetic.read expression.toList).bind (Arithmetic.eval look) with
  | .ok n => return n
  | .error e => abort (e.message expression)

end Step

section Expand

variable (capture : List Char → Step String)

/-- The glyphs of a piece; `capture` runs a script for its output, and the fuel bounds how deep words stand
within pieces. -/
def expandPiece : Nat → Piece → Step (List Glyph)
  | 0, _ => throw .over
  | fuel + 1, piece => do
    let inner (quoted : Bool) (cs : List Char) : Step (List Glyph) := do
      let w ← Step.orAbort (if quoted then readQuoted cs else readWord cs)
      return (← w.mapM (expandPiece fuel)).flatten
    match piece with
    | .text cs quoted => return if quoted then Glyph.quotedText cs else cs.map (.char · false)
    | .size name quoted =>
      let m ← get
      return Glyph.value m.separators quoted (toString ((m.parameter? name).getD "").length)
    | .number expression quoted =>
      let n ← Step.arithmetic (Glyph.text (← inner true expression))
      return Glyph.value (← get).separators quoted (intText n)
    | .output script quoted =>
      let s ← capture script
      return Glyph.value (← get).separators quoted s
    | .parameter name rule quoted =>
      let m ← get
      let plain : List Glyph :=
        if name == "@" then m.allArguments quoted
        else if name == "*" && !quoted then m.allArguments false
        else Glyph.value m.separators quoted ((m.parameter? name).getD "")
      match rule with
      | none => return plain
      | some r =>
        let isMissing :=
          match m.parameter? name with
          | some s => r.emptyToo && s.isEmpty
          | none => true
        match r.kind with
        | .fallback => if isMissing then inner quoted r.word else return plain
        | .assigned =>
          if isMissing then
            let gs ← inner quoted r.word
            modify (·.assign name (Glyph.text gs))
            return gs
          else return plain
        | .replacement => if isMissing then return Glyph.value [] quoted "" else inner quoted r.word
        | .demand =>
          if isMissing then
            let text := Glyph.text (← inner quoted r.word)
            Step.abort (name ++ ": " ++
              if text.isEmpty then if r.emptyToo then "parameter not set or null" else "parameter not set"
              else text)
          else return plain
        | .trimmed atEnd longest =>
          let form := Glyph.pattern (← inner false r.word)
          return Glyph.value m.separators quoted
            (trimmed atEnd longest form ((m.parameter? name).getD ""))

/-- A tilde in front stands for the home directory. -/
def withHome (m : Machine) (w : Word) : Word :=
  match w, m.look? "HOME" with
  | .text ('~' :: rest) false :: more, some home =>
    if rest.isEmpty || rest.head? = some '/' then .text home.toList true :: .text rest false :: more else w
  | _, _ => w

def depth : Nat := 64

def expandGlyphs (w : Word) : Step (List Glyph) := do
  return (← (withHome (← get) w).mapM (expandPiece capture depth)).flatten

/-- A word as one text. -/
def expandText (w : Word) : Step String := do return Glyph.text (← expandGlyphs capture w)

def expandPattern (w : Word) : Step String := do return Glyph.pattern (← expandGlyphs capture w)

/-- A word as fields. -/
def expandFields (w : Word) : Step (List String) := do
  let gs ← expandGlyphs capture w
  return (Glyph.fields [] gs).flatMap (pathsOf (← get).files)

end Expand

end Runbook.Shell
