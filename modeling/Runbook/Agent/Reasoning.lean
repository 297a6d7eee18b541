import Runbook.Text.Basic

/-! Replies without the reasoning that some models write between tags before their answer. -/

namespace Runbook.Reasoning

open Text

def opening : List Char := "<think>".toList

def closing : List Char := "</think>".toList

/-- Leaves out each block from an opening tag to the nearest closing tag after it. An opening tag that
nothing closes stays. The fuel bounds the count of blocks. -/
def dropBlocks : Nat → List Char → List Char
  | 0, cs => cs
  | fuel + 1, cs =>
    match cut? opening cs with
    | none => cs
    | some (before, rest) =>
      match cut? closing rest with
      | none => cs
      | some (_, after) => before ++ dropBlocks fuel after

def strip (reply : String) : String :=
  let cs := reply.toList
  String.ofList (trimEnd (trimStart (dropBlocks cs.length cs)))

end Runbook.Reasoning
