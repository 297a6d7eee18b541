import Runbook.Proofs.Condition.Literal
import Runbook.Proofs.Condition.Reading
import Runbook.Proofs.Condition.Totality
import Runbook.Proofs.Decimal.Reading

/-! How conditions compare integers: in the order of the nearest numbers, which is their own order up to 2^53. -/

namespace Runbook

open Binary64

/-- The relation of two integers that the sign stands for. -/
def Comparison.between (op : Comparison) (m n : ℤ) : Bool :=
  match op with
  | .equal => m = n
  | .notEqual => m ≠ n
  | .atLeast => n ≤ m
  | .atMost => m ≤ n
  | .greater => n < m
  | .less => m < n

/-- The relation that a test asks for, if it asks for one. -/
def BarTest.relation? : BarTest → Option Comparison
  | .equals => some .equal
  | .contains => none
  | .greaterThan => some .greater
  | .lessThan => some .less

namespace Condition

variable {b : Bindings} {v w : Value} {m n : ℤ}

/-- The value stands for the integer: it is that integer, in range, or a text that writes it. -/
inductive Stands : Value → ℤ → Prop where
  | int {n : ℤ} (h : n.natAbs < overflow) : Stands (.int n) n
  | text {s : String} {n : ℤ} (h : Decimal.Writes s n) : Stands (.text s) n

/-- A side of a comparison gives the integer: as the value of a variable, or as a literal that names no variable. -/
inductive Gives (b : Bindings) (side : String) (n : ℤ) : Prop where
  | named {v : Value} (h : lookup? b side = some v) (hv : Stands v n)
  | literal (h : lookup? b side = none) (hs : Decimal.Writes side n)

/-- The condition asks for the relation of two integers. -/
inductive Asks (b : Bindings) : Condition → Comparison → ℤ → ℤ → Prop where
  | sign {op : Comparison} {l r : String} {m n : ℤ} (hl : Gives b l m) (hr : Gives b r n) :
      Asks b (.compare op l r) op m n
  | test {test : BarTest} {op : Comparison} {name arg : String} {v : Value} {m n : ℤ}
      (htest : test.relation? = some op) (h : lookup? b name = some v) (hv : Stands v m)
      (harg : Decimal.Writes arg n) : Asks b (.bar test name arg) op m n

/-- Two words that give integers, with a sign between them, ask for the relation of these. -/
theorem asks_comparison (op : Comparison) {l r : String} (hl : Text.IsWord l) (hr : Text.IsWord r)
    (hleft : IsUnmarked l.toList) (hright : IsUnmarked r.toList) (hm : Gives b l m) (hn : Gives b r n) :
    Asks b (read (l ++ " " ++ op.sign ++ " " ++ r)) op m n := by
  rw [read_comparison op hl hr hleft hright]
  exact .sign hm hn

/-- The name of an integer and a decimal between bars ask for the relation that the test stands for. -/
theorem asks_test {test : BarTest} {op : Comparison} (htest : test.relation? = some op) {name arg : String}
    (hname : Text.IsWord name) (harg : Text.IsWord arg) (hbar : '|' ∉ name.toList) (h : lookup? b name = some v)
    (hv : Stands v m) (hn : Decimal.Writes arg n) : Asks b (read (test.word ++ "|" ++ name ++ "|" ++ arg)) op m n := by
  rw [read_test test hname harg hbar]
  exact .test htest h hv hn

/-- The value has the number nearest to the integer. -/
def HasNearest (v : Value) (n : ℤ) : Prop := ∃ x, number? v = .ok (some x) ∧ x.IsNearest n

theorem Stands.hasNearest (h : Stands v n) : HasNearest v n := by
  cases h with
  | int h =>
    refine ⟨ofInt n, ?_, isNearest_ofInt n⟩
    rw [number?, ofInt?_eq, if_neg (not_le.mpr h)]
  | text h =>
    obtain ⟨x, hx, hnearest⟩ := h.readFloat?
    exact ⟨x, congrArg Except.ok hx, hnearest⟩

/-- A literal that writes an integer is a number. -/
theorem hasNearest_literal {s : String} (h : Decimal.Writes s n) : HasNearest (literal s) n := by
  obtain ⟨x, hx, hnearest⟩ := h.readFloat?
  exact ⟨x, by rw [literal_of_readFloat? hx]; rfl, hnearest⟩

theorem Gives.hasNearest {side : String} (h : Gives b side n) : HasNearest (operand b side) n := by
  cases h with
  | named h hv =>
    rw [operand_named h]
    exact hv.hasNearest
  | literal h hs =>
    rw [operand_unnamed h]
    exact hasNearest_literal hs

/-- Values with the numbers nearest to integers are compared as those. -/
theorem compareValues_of_hasNearest (op : Comparison) (hv : HasNearest v m) (hw : HasNearest w n) :
    compareValues op v w = .ok (op.between (nearest m) (nearest n)) := by
  obtain ⟨x, hx, hm⟩ := hv
  obtain ⟨y, hy, hn⟩ := hw
  obtain ⟨hless, heqv⟩ := hm.order hn
  obtain ⟨hgreater, heqv'⟩ := hn.order hm
  have hnumbers : numbers? v w = .ok (some (x, y)) := by
    rw [numbers?, hx, hy]
  have hle {p q : ℤ} : (decide (p < q) || decide (p = q)) = decide (p ≤ q) := by
    rw [← Bool.decide_or]
    exact decide_eq_decide.mpr le_iff_lt_or_eq.symm
  cases op with
  | equal => simp [compareValues, looselyEqual, hnumbers, heqv, Comparison.between]
  | notEqual => simp [compareValues, looselyEqual, hnumbers, heqv, Comparison.between, Except.map]
  | atLeast => simp [compareValues, ordered, hnumbers, lessOrEqual, hgreater, heqv', hle, Comparison.between]
  | atMost => simp [compareValues, ordered, hnumbers, lessOrEqual, hless, heqv, hle, Comparison.between]
  | greater => simp [compareValues, ordered, hnumbers, hgreater, Comparison.between]
  | less => simp [compareValues, ordered, hnumbers, hless, Comparison.between]

theorem Asks.holds_eq {c : Condition} {op : Comparison} (h : Asks b c op m n) :
    c.holds b = .ok (op.between (nearest m) (nearest n)) := by
  cases h with
  | sign hl hr => exact compareValues_of_hasNearest op hl.hasNearest hr.hasNearest
  | @test test _ _ _ _ _ _ htest h hv harg =>
    rw [holds, h]
    cases test with
    | equals =>
      obtain rfl := Option.some.inj htest
      exact compareValues_of_hasNearest .equal hv.hasNearest (hasNearest_literal harg)
    | contains => cases htest
    | greaterThan =>
      obtain rfl := Option.some.inj htest
      exact compareValues_of_hasNearest .greater hv.hasNearest (Stands.text harg).hasNearest
    | lessThan =>
      obtain rfl := Option.some.inj htest
      exact compareValues_of_hasNearest .less hv.hasNearest (Stands.text harg).hasNearest

/-- Nearest numbers that differ are in the order of the integers. -/
theorem between_nearest (op : Comparison) (h : nearest m ≠ nearest n) :
    op.between (nearest m) (nearest n) = op.between m n := by
  have hmono (p q : ℤ) (hpq : nearest p < nearest q) : p < q := by
    by_contra hle
    exact absurd hpq (not_lt.mpr (nearest_mono (not_lt.mp hle)))
  rcases lt_or_gt_of_ne h with hlt | hgt
  · have := hmono m n hlt
    cases op <;> simp only [Comparison.between, decide_eq_decide] <;> omega
  · have := hmono n m hgt
    cases op <;> simp only [Comparison.between, decide_eq_decide] <;> omega

/-- Different integers in range with the same nearest number differ by no more than one part in 2^53 of both. -/
theorem dist_of_nearest_eq (hm : m.natAbs < overflow) (hn : n.natAbs < overflow) (h : nearest m = nearest n) :
    2 ^ 53 * |m - n| ≤ |m| + |n| := by
  have hm' := dist_nearest hm
  have hn' := dist_nearest hn
  rw [abs_sub_comm, h] at hm'
  have htriangle : |m - n| ≤ |m - nearest n| + |nearest n - n| := abs_sub_le _ _ _
  calc 2 ^ 53 * |m - n| ≤ 2 ^ 53 * (|m - nearest n| + |nearest n - n|) :=
        mul_le_mul_of_nonneg_left htriangle (by norm_num)
    _ = 2 ^ 53 * |m - nearest n| + 2 ^ 53 * |nearest n - n| := mul_add _ _ _
    _ ≤ |m| + |n| := add_le_add hm' hn'

/-- Integers are compared as the numbers nearest to them. Up to 2^53 that is their own relation; beyond, the answer is
another one only for integers that differ and have the same nearest number, which lie close together in range. -/
theorem integers_compare_as_nearest {text : String} {op : Comparison} (h : Asks b (read text) op m n) :
    evaluate text b = .ok (op.between (nearest m) (nearest n)) ∧
      (|m| ≤ 2 ^ 53 → |n| ≤ 2 ^ 53 → evaluate text b = .ok (op.between m n)) ∧
      (evaluate text b ≠ .ok (op.between m n) → m ≠ n ∧ nearest m = nearest n ∧
        (m.natAbs < overflow → n.natAbs < overflow → 2 ^ 53 * |m - n| ≤ |m| + |n|)) := by
  have hanswer : evaluate text b = .ok (op.between (nearest m) (nearest n)) := h.holds_eq
  refine ⟨hanswer, fun hm hn => ?_, fun hother => ?_⟩
  · rw [hanswer, nearest_eq_self hm, nearest_eq_self hn]
  · rw [hanswer] at hother
    have hsame : nearest m = nearest n := by
      by_contra hne
      exact hother (congrArg Except.ok (between_nearest op hne))
    have hne : m ≠ n := by
      rintro rfl
      exact hother (congrArg Except.ok (by cases op <;> simp [Comparison.between]))
    exact ⟨hne, hsame, fun hm hn => dist_of_nearest_eq hm hn hsame⟩

/-- A text below an integer. -/
theorem text_is_below_integer :
    Asks [("a", .text "-7"), ("b", .int 12)] (read "a < b") .less (-7) 12 ∧
      evaluate "a < b" [("a", .text "-7"), ("b", .int 12)] = .ok true := by
  have htext : Decimal.Writes "-7" (-7) := by
    have hself : Text.intText (-7) = "-7" := by decide
    rw [← hself]
    exact Decimal.writes_intText (-7)
  have hrange : (12 : ℤ).natAbs < overflow := by decide +kernel
  have ha : Text.IsWord "a" ∧ IsUnmarked "a".toList :=
    ⟨⟨by decide, Text.forall_of_all (by decide)⟩, Text.forall_of_all (by decide)⟩
  have hb : Text.IsWord "b" ∧ IsUnmarked "b".toList :=
    ⟨⟨by decide, Text.forall_of_all (by decide)⟩, Text.forall_of_all (by decide)⟩
  have hjoin : "a" ++ " " ++ Comparison.less.sign ++ " " ++ "b" = "a < b" := by decide
  have hasks : Asks [("a", .text "-7"), ("b", .int 12)] (read "a < b") .less (-7) 12 := by
    rw [← hjoin]
    exact asks_comparison .less ha.1 hb.1 ha.2 hb.2 (.named rfl (.text htext)) (.named rfl (.int hrange))
  exact ⟨hasks, (integers_compare_as_nearest hasks).2.1 (by decide) (by decide)⟩

/-- The integer after 2^53 is taken for 2^53. -/
theorem next_integer_is_taken_for_equal :
    evaluate "x == 9007199254740992" [("x", .int 9007199254740993)] = .ok true ∧
      (9007199254740993 : ℤ) ≠ 9007199254740992 := by
  have hread : read "x == 9007199254740992" = .compare .equal "x" "9007199254740992" := by decide +kernel
  have htext : Decimal.Writes "9007199254740992" 9007199254740992 := by
    have hself : Text.intText 9007199254740992 = "9007199254740992" := by decide +kernel
    rw [← hself]
    exact Decimal.writes_intText 9007199254740992
  have hunnamed : lookup? [("x", .int 9007199254740993)] "9007199254740992" = none :=
    Option.isNone_iff_eq_none.mp (by decide +kernel)
  have hrange : (9007199254740993 : ℤ).natAbs < overflow := by decide +kernel
  have hasks : Asks [("x", .int 9007199254740993)] (read "x == 9007199254740992") .equal 9007199254740993
      9007199254740992 := by
    rw [hread]
    exact .sign (.named rfl (.int hrange)) (.literal hunnamed htext)
  have hsame : Comparison.equal.between (nearest 9007199254740993) (nearest 9007199254740992) = true := by decide +kernel
  exact ⟨hasks.holds_eq.trans (congrArg Except.ok hsame), by decide⟩

end Condition

end Runbook
