import Mathlib.Tactic
import Runbook.Condition
import Runbook.Proofs.Decimal.Integers

/-! Which conditions have an answer: all but those that compare an integer beyond the range of numbers, or the
text of a value with an integer in it that is too long to be shown. -/

namespace Runbook

namespace Value

/-- The value is no integer that is rounded to infinity. -/
def InRange (v : Value) : Prop := ∀ n, v = .int n → n.natAbs < Binary64.overflow

/-- A value that is no number, and no text that is read as one. -/
def HasNoNumber : Value → Prop
  | .bool _ => False
  | .int _ => False
  | .num _ => False
  | .text s => Decimal.readFloat? s = none
  | _ => True

theorem inRange_of_ne_int {v : Value} (h : ∀ n, v ≠ .int n) : v.InRange := fun n hv => absurd hv (h n)

end Value

namespace Condition

variable {b : Bindings}

/-! ## The comparison in a condition -/

/-- The comparison that a condition makes and the values on its two sides, if it makes one. -/
def compared? (b : Bindings) : Condition → Option (Comparison × Value × Value)
  | .compare op left right => some (op, operand b left, operand b right)
  | .bar .equals name arg => (lookup? b name).map fun v => (.equal, v, literal arg)
  | .bar .greaterThan name arg => (lookup? b name).map fun v => (.greater, v, .text arg)
  | .bar .lessThan name arg => (lookup? b name).map fun v => (.less, v, .text arg)
  | _ => none

theorem holds_of_compared {c : Condition} {op : Comparison} {left right : Value}
    (h : compared? b c = some (op, left, right)) : c.holds b = compareValues op left right := by
  cases c with
  | constant t => cases h
  | approved => cases h
  | fileExists => cases h
  | bare name => cases h
  | compare op' l r =>
    cases h
    rfl
  | bar test name arg =>
    cases test with
    | contains => cases h
    | equals | greaterThan | lessThan =>
      obtain ⟨v, hv, heq⟩ := Option.map_eq_some_iff.mp h
      cases heq
      rw [holds, hv]
      rfl

/-- A condition that compares nothing has an answer. -/
theorem exists_holds_of_not_compared {c : Condition} (h : compared? b c = none) : ∃ t, c.holds b = .ok t := by
  cases c with
  | constant t => exact ⟨_, rfl⟩
  | approved => exact ⟨_, rfl⟩
  | fileExists => exact ⟨_, rfl⟩
  | bare name => exact ⟨_, rfl⟩
  | compare op l r => cases h
  | bar test name arg =>
    rw [holds]
    cases hv : lookup? b name with
    | none => exact ⟨_, rfl⟩
    | some v =>
      cases test with
      | contains => exact ⟨_, rfl⟩
      | equals | greaterThan | lessThan => simp [compared?, hv] at h

/-! ## The numbers and the texts of values -/

/-- A value has a number, or is none, unless it is an integer out of range. -/
theorem number?_cases (v : Value) :
    ¬ v.InRange ∧ number? v = .error hugeNumber ∨
      v.InRange ∧ v.HasNoNumber ∧ number? v = .ok none ∨
        v.InRange ∧ ¬ v.HasNoNumber ∧ ∃ x, number? v = .ok (some x) := by
  cases v with
  | int n =>
    rw [number?, Binary64.ofInt?_eq]
    by_cases h : Binary64.overflow ≤ n.natAbs
    · have hout : ¬ (Value.int n).InRange := fun hrange => absurd h (not_le.mpr (hrange n rfl))
      exact .inl ⟨hout, by rw [if_pos h]⟩
    · have hrange : (Value.int n).InRange := fun m hm => by
        cases hm
        exact not_le.mp h
      exact .inr (.inr ⟨hrange, id, _, by rw [if_neg h]⟩)
  | text s =>
    have hrange : (Value.text s).InRange := Value.inRange_of_ne_int (by simp)
    cases hread : Decimal.readFloat? s with
    | none => exact .inr (.inl ⟨hrange, hread, congrArg Except.ok hread⟩)
    | some x => exact .inr (.inr ⟨hrange, by simp [Value.HasNoNumber, hread], x, congrArg Except.ok hread⟩)
  | bool t => exact .inr (.inr ⟨Value.inRange_of_ne_int (by simp), id, _, rfl⟩)
  | num x => exact .inr (.inr ⟨Value.inRange_of_ne_int (by simp), id, _, rfl⟩)
  | _ => exact .inr (.inl ⟨Value.inRange_of_ne_int (by simp), trivial, rfl⟩)

theorem numbers?_cases (left right : Value) :
    ¬ (left.InRange ∧ right.InRange) ∧ numbers? left right = .error hugeNumber ∨
      left.InRange ∧ right.InRange ∧ (left.HasNoNumber ∨ right.HasNoNumber) ∧ numbers? left right = .ok none ∨
        left.InRange ∧ right.InRange ∧ ¬ (left.HasNoNumber ∨ right.HasNoNumber) ∧
          ∃ x y, numbers? left right = .ok (some (x, y)) := by
  unfold numbers?
  rcases number?_cases left with ⟨hl, hleft⟩ | ⟨hl, hnone, hleft⟩ | ⟨hl, hsome, x, hleft⟩
  · exact .inl ⟨fun h => hl h.1, by rw [hleft]⟩
  · rcases number?_cases right with ⟨hr, hright⟩ | ⟨hr, -, hright⟩ | ⟨hr, -, y, hright⟩
    · exact .inl ⟨fun h => hr h.2, by rw [hleft, hright]⟩
    · exact .inr (.inl ⟨hl, hr, .inl hnone, by rw [hleft, hright]⟩)
    · exact .inr (.inl ⟨hl, hr, .inl hnone, by rw [hleft, hright]⟩)
  · rcases number?_cases right with ⟨hr, hright⟩ | ⟨hr, hnone, hright⟩ | ⟨hr, hsome', y, hright⟩
    · exact .inl ⟨fun h => hr h.2, by rw [hleft, hright]⟩
    · exact .inr (.inl ⟨hl, hr, .inr hnone, by rw [hleft, hright]⟩)
    · exact .inr (.inr ⟨hl, hr, fun h => h.elim hsome hsome', x, y, by rw [hleft, hright]⟩)

theorem comparedText_cases (v : Value) :
    v.hasText = false ∧ comparedText v = .error hugeText ∨ v.hasText = true ∧ ∃ s, comparedText v = .ok s := by
  have hshown (w : Value) : w.hasText = false ∧ (if w.hasText then .ok w.display else .error hugeText) =
      (.error hugeText : Except Fault String) ∨
      w.hasText = true ∧ ∃ s, (if w.hasText then .ok w.display else .error hugeText : Except Fault String) = .ok s := by
    cases h : w.hasText with
    | false => exact .inl ⟨rfl, rfl⟩
    | true => exact .inr ⟨rfl, _, rfl⟩
  cases v with
  | bool t => exact .inr ⟨rfl, _, rfl⟩
  | null => exact .inr ⟨rfl, _, rfl⟩
  | num x =>
    refine .inr ⟨rfl, ?_⟩
    rw [comparedText]
    cases x.toInt? <;> exact ⟨_, rfl⟩
  | _ => exact hshown _

/-! ## The answer of a condition -/

/-- Two values that can be compared: no integer is out of range, and if they are tested for equality by their texts,
each has one. -/
structure Comparable (op : Comparison) (left right : Value) : Prop where
  left_inRange : left.InRange
  right_inRange : right.InRange
  shown : op = .equal ∨ op = .notEqual → left.HasNoNumber ∨ right.HasNoNumber →
    left.hasText = true ∧ right.hasText = true

theorem looselyEqual_cases (left right : Value) :
    Comparable .equal left right ∧ (∃ t, looselyEqual left right = .ok t) ∨
      ¬ Comparable .equal left right ∧
        (looselyEqual left right = .error hugeNumber ∨ looselyEqual left right = .error hugeText) := by
  unfold looselyEqual
  rcases numbers?_cases left right with ⟨hout, hnumbers⟩ | ⟨hl, hr, hnone, hnumbers⟩ | ⟨hl, hr, hboth, x, y, hnumbers⟩
  · refine .inr ⟨fun h => hout ⟨h.left_inRange, h.right_inRange⟩, .inl ?_⟩
    rw [hnumbers]
  · rw [hnumbers]
    rcases comparedText_cases left with ⟨hleft, htext⟩ | ⟨hleft, l, htext⟩
    · refine .inr ⟨fun h => ?_, .inr (by rw [htext]; rfl)⟩
      have hshown := (h.shown (.inl rfl) hnone).1
      rw [hleft] at hshown
      cases hshown
    · rcases comparedText_cases right with ⟨hright, htext'⟩ | ⟨hright, r, htext'⟩
      · refine .inr ⟨fun h => ?_, .inr (by rw [htext, htext']; rfl)⟩
        have hshown := (h.shown (.inl rfl) hnone).2
        rw [hright] at hshown
        cases hshown
      · exact .inl ⟨⟨hl, hr, fun _ _ => ⟨hleft, hright⟩⟩, l == r, by rw [htext, htext']; rfl⟩
  · exact .inl ⟨⟨hl, hr, fun _ h => absurd h hboth⟩, x.eqv y, by rw [hnumbers]⟩

theorem ordered_cases {op : Comparison} (hop : ¬ (op = .equal ∨ op = .notEqual))
    (test : Binary64 → Binary64 → Bool) (left right : Value) :
    Comparable op left right ∧ (∃ t, ordered test left right = .ok t) ∨
      ¬ Comparable op left right ∧
        (ordered test left right = .error hugeNumber ∨ ordered test left right = .error hugeText) := by
  unfold ordered
  rcases numbers?_cases left right with ⟨hout, hnumbers⟩ | ⟨hl, hr, -, hnumbers⟩ | ⟨hl, hr, -, x, y, hnumbers⟩
  · refine .inr ⟨fun h => hout ⟨h.left_inRange, h.right_inRange⟩, .inl ?_⟩
    rw [hnumbers]
  · exact .inl ⟨⟨hl, hr, fun h => absurd h hop⟩, false, by rw [hnumbers]⟩
  · exact .inl ⟨⟨hl, hr, fun h => absurd h hop⟩, test x y, by rw [hnumbers]⟩

theorem compareValues_cases (op : Comparison) (left right : Value) :
    Comparable op left right ∧ (∃ t, compareValues op left right = .ok t) ∨
      ¬ Comparable op left right ∧
        (compareValues op left right = .error hugeNumber ∨ compareValues op left right = .error hugeText) := by
  cases op with
  | equal => exact looselyEqual_cases left right
  | notEqual =>
    rcases looselyEqual_cases left right with ⟨h, t, ht⟩ | ⟨h, he⟩
    · exact .inl ⟨⟨h.1, h.2, fun _ => h.3 (.inl rfl)⟩, !t, by rw [compareValues, ht]; rfl⟩
    · refine .inr ⟨fun hcomparable => h ⟨hcomparable.1, hcomparable.2, fun _ => hcomparable.3 (.inr rfl)⟩, ?_⟩
      rw [compareValues]
      rcases he with he | he
      · exact .inl (by rw [he]; rfl)
      · exact .inr (by rw [he]; rfl)
  | atLeast => exact ordered_cases (by decide) _ left right
  | atMost => exact ordered_cases (by decide) _ left right
  | greater => exact ordered_cases (by decide) _ left right
  | less => exact ordered_cases (by decide) _ left right

theorem has_answer_of_comparable {text : String}
    (h : ∀ op left right, compared? b (read text) = some (op, left, right) → Comparable op left right) :
    ∃ t, evaluate text b = .ok t := by
  unfold evaluate
  cases hcompared : compared? b (read text) with
  | none => exact exists_holds_of_not_compared hcompared
  | some comparison =>
    obtain ⟨op, left, right⟩ := comparison
    rw [holds_of_compared hcompared]
    rcases compareValues_cases op left right with ⟨-, hanswer⟩ | ⟨hnot, -⟩
    · exact hanswer
    · exact absurd (h op left right hcompared) hnot

/-- A condition has an answer exactly if the two values that it compares, if any, can be compared; it ends with no
other fault than that of an integer out of range or of a text that is too long. -/
theorem has_answer_iff_comparable (text : String) (b : Bindings) :
    ((∃ t, evaluate text b = .ok t) ↔
      ∀ op left right, compared? b (read text) = some (op, left, right) → Comparable op left right) ∧
      ∀ e, evaluate text b = .error e → e = hugeNumber ∨ e = hugeText := by
  refine ⟨⟨fun ⟨t, ht⟩ op left right hcompared => ?_, has_answer_of_comparable⟩, fun e he => ?_⟩
  · rw [evaluate, holds_of_compared hcompared] at ht
    rcases compareValues_cases op left right with ⟨h, -⟩ | ⟨-, hfault | hfault⟩
    · exact h
    · cases hfault.symm.trans ht
    · cases hfault.symm.trans ht
  · cases hcompared : compared? b (read text) with
    | none =>
      obtain ⟨t, ht⟩ := exists_holds_of_not_compared hcompared
      cases ht.symm.trans he
    | some comparison =>
      obtain ⟨op, left, right⟩ := comparison
      rw [evaluate, holds_of_compared hcompared] at he
      rcases compareValues_cases op left right with ⟨-, t, ht⟩ | ⟨-, hfault⟩
      · cases ht.symm.trans he
      · exact hfault.imp (fun h => Except.error.inj (he.symm.trans h)) fun h => Except.error.inj (he.symm.trans h)

/-- The order of an integer of 401 digits has no answer. -/
theorem huge_integer_has_no_answer : evaluate "x > 1" [("x", .int (10 ^ 400))] = .error hugeNumber := by
  have hread : read "x > 1" = .compare .greater "x" "1" := by decide +kernel
  have hlookup : operand [("x", .int (10 ^ 400))] "x" = .int (10 ^ 400) := rfl
  have hnumber : number? (.int (10 ^ 400)) = .error hugeNumber := by
    have hover : Binary64.overflow ≤ (10 ^ 400 : ℤ).natAbs := by decide +kernel
    rw [number?, Binary64.ofInt?_eq, if_pos hover]
  rw [evaluate, hread, holds, hlookup, compareValues, ordered, numbers?, hnumber]

/-! ## Values that are always compared -/

theorem literal_ne_int (s : String) (n : ℤ) : literal s ≠ .int n := by
  unfold literal
  split
  · simp
  · split <;> try simp
    split <;> simp

theorem hasText_literal (s : String) : (literal s).hasText = true := by
  unfold literal
  split
  · rfl
  · split
    any_goals rfl
    split <;> rfl

theorem exists_mem_of_lookup? {name : String} {v : Value} (h : lookup? b name = some v) : ∃ e ∈ b, e.2 = v := by
  unfold lookup? at h
  split at h
  · rename_i w hget
    obtain ⟨e, he, hv⟩ := Option.map_eq_some_iff.mp hget
    exact ⟨e, List.mem_of_find?_eq_some he, hv.trans (Option.some.inj h)⟩
  · obtain ⟨e, he, hv⟩ := Option.map_eq_some_iff.mp h
    exact ⟨e, List.mem_of_find?_eq_some he, hv⟩

/-- Among values that are in range and can be shown every condition has an answer. -/
theorem has_answer_of_values (hb : ∀ e ∈ b, e.2.InRange ∧ e.2.hasText = true) (text : String) :
    ∃ t, evaluate text b = .ok t := by
  have hfound {name : String} {v : Value} (h : lookup? b name = some v) : v.InRange ∧ v.hasText = true := by
    obtain ⟨e, he, rfl⟩ := exists_mem_of_lookup? h
    exact hb e he
  have hliteral (s : String) : (literal s).InRange ∧ (literal s).hasText = true :=
    ⟨Value.inRange_of_ne_int (literal_ne_int s), hasText_literal s⟩
  have htext (s : String) : (Value.text s).InRange ∧ (Value.text s).hasText = true :=
    ⟨Value.inRange_of_ne_int nofun, rfl⟩
  have hoperand (s : String) : (operand b s).InRange ∧ (operand b s).hasText = true := by
    unfold operand
    cases h : lookup? b s with
    | none => exact hliteral s
    | some v => exact hfound h
  have hcomparable {op : Comparison} {left right : Value} (hl : left.InRange ∧ left.hasText = true)
      (hr : right.InRange ∧ right.hasText = true) : Comparable op left right :=
    ⟨hl.1, hr.1, fun _ _ => ⟨hl.2, hr.2⟩⟩
  refine has_answer_of_comparable fun op left right h => ?_
  cases hc : read text with
  | constant | approved | fileExists | bare => rw [hc] at h; cases h
  | compare op' l r =>
    rw [hc] at h
    cases h
    exact hcomparable (hoperand l) (hoperand r)
  | bar test name arg =>
    rw [hc] at h
    cases test with
    | contains => cases h
    | equals =>
      obtain ⟨v, hv, heq⟩ := Option.map_eq_some_iff.mp h
      cases heq
      exact hcomparable (hfound hv) (hliteral arg)
    | greaterThan | lessThan =>
      obtain ⟨v, hv, heq⟩ := Option.map_eq_some_iff.mp h
      cases heq
      exact hcomparable (hfound hv) (htext arg)

end Condition

end Runbook
