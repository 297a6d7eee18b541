import Mathlib.Data.List.TakeWhile
import Mathlib.Tactic
import Runbook.Proofs.Execution.Reads
import Runbook.Template

/-! The placeholders of a template. A template is cut in one way into the placeholders that are found from left to
right and the texts around them, and filling it puts the values in the place of these and leaves all else as it is. -/

namespace Runbook.Template

open Unicode

/-! ## Where a placeholder begins -/

/-- At least one character, and none that does not belong to a word. -/
def IsName (name : List Char) : Prop := name ≠ [] ∧ ∀ c ∈ name, isWordChar c = true

/-- A name in double braces. -/
def placeholder (name : List Char) : List Char := '\x7b' :: '\x7b' :: (name ++ ['\x7d', '\x7d'])

/-- A placeholder begins the text. -/
def Opens (cs : List Char) : Prop := ∃ name, IsName name ∧ placeholder name <+: cs

variable {cs before rest name : List Char}

/-- The placeholders in a template by their names, each with the text before it, and the text behind the last one. -/
structure Pieces where
  holes : List (List Char × List Char)
  tail : List Char

namespace Pieces

def names (p : Pieces) : List String := p.holes.map fun hole => String.ofList hole.2

/-- What is put in the place of a placeholder: the value of its name, or the placeholder itself. -/
def shown (b : Bindings) (name : List Char) : List Char :=
  match b.get? (String.ofList name) with
  | some v => (valueText v).toList
  | none => placeholder name

def fill (p : Pieces) (b : Bindings) : List Char :=
  (p.holes.flatMap fun (before, name) => before ++ shown b name) ++ p.tail

/-- The pieces with text put before them. -/
def after (before : List Char) : Pieces → Pieces
  | ⟨[], tail⟩ => ⟨[], before ++ tail⟩
  | ⟨(first, name) :: holes, tail⟩ => ⟨(before ++ first, name) :: holes, tail⟩

end Pieces

/-- The text, with the rest behind it, has no place at which a placeholder begins. -/
def IsLiteral (cs rest : List Char) : Prop := ∀ i < cs.length, ¬ Opens ((cs ++ rest).drop i)

/-- The pieces of a template: each placeholder is the first one in what is left of the template, and none begins in
the tail. -/
inductive IsCut : List Char → Pieces → Prop where
  | last {tail : List Char} (htail : IsLiteral tail []) : IsCut tail ⟨[], tail⟩
  | next {before name rest : List Char} {holes : List (List Char × List Char)} {tail : List Char}
      (hname : IsName name) (hbefore : IsLiteral before (placeholder name ++ rest)) (hrest : IsCut rest ⟨holes, tail⟩) :
      IsCut (before ++ (placeholder name ++ rest)) ⟨(before, name) :: holes, tail⟩

theorem isLiteral_cons_iff {c : Char} : IsLiteral (c :: cs) rest ↔ ¬ Opens (c :: (cs ++ rest)) ∧ IsLiteral cs rest := by
  constructor
  · intro h
    exact ⟨h 0 (Nat.succ_pos _), fun i hi => h (i + 1) (Nat.succ_lt_succ hi)⟩
  · rintro ⟨hfirst, hrest⟩ i hi
    cases i with
    | zero => exact hfirst
    | succ i => exact hrest i (Nat.lt_of_succ_lt_succ hi)

theorem IsCut.cons {c : Char} {p : Pieces} (hfirst : ¬ Opens (c :: cs)) (h : IsCut cs p) :
    IsCut (c :: cs) (p.after [c]) := by
  cases h with
  | last htail => exact .last (isLiteral_cons_iff.mpr ⟨by rwa [List.append_nil], htail⟩)
  | @next before name rest holes tail hname hbefore hrest =>
    exact @IsCut.next (c :: before) name rest holes tail hname (isLiteral_cons_iff.mpr ⟨hfirst, hbefore⟩) hrest

/-- Of braces in a row the inner ones are taken, and what a value brings in is left alone. -/
example :
    fill "\x7b\x7b\x7bx\x7d\x7d\x7d \x7b\x7ba\x7b\x7bb\x7d\x7d"
      [("x", .text "\x7b\x7bb\x7d\x7d"), ("b", .text "1")] =
    "\x7b\x7b\x7bb\x7d\x7d\x7d \x7b\x7ba1" := by decide

end Runbook.Template
