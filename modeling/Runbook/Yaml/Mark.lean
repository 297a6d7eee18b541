import Runbook.Text.Basic

/-! Places in a document, counted from zero, and the piece of text that shows a place. -/

namespace Runbook.Yaml

open Text

/-- Stands where the document has ended; no document holds it. -/
def endChar : Char := '\x00'

def isBreak (c : Char) : Bool :=
  c == '\r' || c == '\n' || c == '\x85' || c == '\u2028' || c == '\u2029'

def isBreakOrEnd (c : Char) : Bool := c == endChar || isBreak c

/-- A blank, a line break or the end. -/
def isGap (c : Char) : Bool := c == ' ' || isBreakOrEnd c

/-- A blank, a tab, a line break or the end. -/
def isWideGap (c : Char) : Bool := c == '\t' || isGap c

structure Mark where
  index : Nat
  line : Nat
  column : Nat
deriving DecidableEq, Repr

namespace Mark

def start : Mark := ⟨0, 0, 0⟩

/-- The mark behind a character. A carriage return before a line feed does not end the line, and a byte
order mark has no width. -/
def after (m : Mark) (c next : Char) : Mark :=
  if isBreak c && !(c == '\r' && next == '\n') then ⟨m.index + 1, m.line + 1, 0⟩
  else if c == '\uFEFF' then { m with index := m.index + 1 }
  else { m with index := m.index + 1, column := m.column + 1 }

/-- How far a line is shown to either side of a mark, and how much remains of a longer one. -/
def reach : Nat := 36

def reachCut : Nat := 32

/-- Marks are shown as places in the document, which has no name. -/
def place (m : Mark) : String :=
  s!"  in \"<unicode string>\", line {m.line + 1}, column {m.column + 1}"

/-- A part of a line as far as it is shown, and whether it goes on. -/
def shown (cs : List Char) : List Char × List Char :=
  let line := cs.takeWhile fun c => !isBreakOrEnd c
  if reach < line.length then (line.take reachCut, " ... ".toList) else (line, [])

/-- The place, the line around it and a caret below. -/
def display (text : List Char) (m : Mark) : String :=
  let (before, head) := shown (text.take m.index).reverse
  let (after, tail) := shown (text.drop m.index)
  let indent := List.replicate 4 ' '
  m.place ++ ":\n" ++ String.ofList (indent ++ head ++ before.reverse ++ after ++ tail ++
    '\n' :: indent ++ List.replicate (before.length + head.length) ' ' ++ ['^'])

end Mark

end Runbook.Yaml
