import Mathlib.Tactic
import Runbook.Http.Exchange

/-! What is read from JSON is a value of one of few kinds, whatever stands inside it. -/

namespace Runbook

namespace Json

/-- The kinds of values that there are in JSON. -/
inductive IsKind : Value → Prop where
  | null : IsKind .null
  | bool (b : Bool) : IsKind (.bool b)
  | int (n : ℤ) : IsKind (.int n)
  | num (x : Binary64) : IsKind (.num x)
  | text (s : String) : IsKind (.text s)
  | list (xs : List Value) : IsKind (.list xs)
  | map (es : List (Value × Value)) : IsKind (.map es)

/-- The names of the types of values that are no objects. -/
def plainTypes : List String := ["NoneType", "bool", "int", "float", "str", "list"]

theorem IsKind.typeName_mem {v : Value} (h : IsKind v) (hmap : v.isMap = false) : v.typeName ∈ plainTypes := by
  cases h with
  | map es => cases hmap
  | _ => simp [Value.typeName, plainTypes]

variable {v : Value} {cs left : List Char}

theorem isKind_word? (h : word? cs = some (v, left)) : IsKind v := by
  obtain ⟨⟨w, u⟩, hmem, hfound⟩ := List.exists_of_findSome?_eq_some h
  obtain ⟨rest, -, hrest⟩ := Option.map_eq_some_iff.mp hfound
  obtain ⟨rfl, -⟩ := Prod.mk.inj hrest
  simp only [List.mem_cons, Prod.mk.injEq, List.not_mem_nil, or_false] at hmem
  rcases hmem with ⟨-, rfl⟩ | ⟨-, rfl⟩ | ⟨-, rfl⟩ | ⟨-, rfl⟩ | ⟨-, rfl⟩ | ⟨-, rfl⟩ <;> constructor

theorem isKind_number? {neg : Bool} (h : number? neg cs = some (.ok (v, left))) : IsKind v := by
  unfold number? at h
  split at h
  · cases h
  · dsimp only at h
    split at h
    · split_ifs at h <;> cases h
      · exact .int _
      · exact .int _
    · cases h
      exact .num _
    · cases h
      exact .num _

theorem isKind_of_getD {number : Option (Result Value)} {e : Fail}
    (hnumber : ∀ r, number = some (.ok r) → IsKind r.1) (h : number.getD (.error e) = .ok (v, left)) : IsKind v := by
  cases number with
  | none => cases h
  | some r => exact hnumber (v, left) (congrArg some h)

theorem isKind_readItems {fuel : ℕ} {done : List Value} (h : readItems fuel done cs = .ok (v, left)) : IsKind v := by
  induction fuel generalizing done cs with
  | zero => cases h
  | succ fuel ih =>
    unfold readItems at h
    split at h
    · cases h
    · split at h
      · cases h
        exact .list _
      · exact ih h
      · cases h

theorem isKind_readMembers {fuel : ℕ} {done : List (Value × Value)} (h : readMembers fuel done cs = .ok (v, left)) :
    IsKind v := by
  induction fuel generalizing done cs with
  | zero => cases h
  | succ fuel ih =>
    unfold readMembers at h
    repeat' split at h
    all_goals first
      | exact ih h
      | cases h
    exact .map _

theorem isKind_readValue {fuel : ℕ} (h : readValue fuel cs = .ok (v, left)) : IsKind v := by
  cases fuel with
  | zero => cases h
  | succ fuel =>
    unfold readValue at h
    split at h
    · split at h
      · cases h
        exact .text _
      · cases h
    · split at h
      · cases h
        exact .map _
      · exact isKind_readMembers h
    · split at h
      · cases h
        exact .list _
      · exact isKind_readItems h
    · split at h
      · rename_i hword
        cases h
        exact isKind_word? hword
      · refine isKind_of_getD (fun r hr => ?_) h
        split at hr <;> exact isKind_number? hr

theorem isKind_parse {s : String} (h : parse s = .ok v) : IsKind v := by
  unfold parse readAll at h
  split at h
  · cases h
  · split at h
    · cases h
    · rename_i hread
      split at h
      · cases h
        exact isKind_readValue hread
      · cases h

end Json

theorem Http.Reply.isKind_document {r : Reply} {doc : Value} (h : r.document = .ok doc) : Json.IsKind doc := by
  unfold document at h
  repeat' split at h
  all_goals cases h
  rename_i hparse
  exact Json.isKind_parse hparse

end Runbook
