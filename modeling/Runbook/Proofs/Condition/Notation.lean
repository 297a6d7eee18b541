import Runbook.Proofs.Condition.Literal
import Runbook.Proofs.Condition.Order

/-! The notations of comparisons: what a sign in a quoted text does to one, and that tests with bars say the same as
signs. -/

namespace Runbook.Condition

open Text

variable {b : Bindings} {op other : Comparison} {x s : String} {q : Char} {v w : Value}

/-! ## Signs in quoted texts -/

theorem quotes_plain (hq : q ∈ quotes) : q ∉ marks ∧ Unicode.isBlank q = false :=
  forall_of_all (p := fun q => q ∉ marks ∧ Unicode.isBlank q = false) (by decide) q hq

theorem toList_quote (q : Char) (s : String) : (quote q s).toList = q :: (s.toList ++ [q]) := String.toList_ofList

theorem hasEnds_quote (hq : q ∈ quotes) (s : String) : HasEnds (quote q s).toList := by
  rw [toList_quote]
  exact ⟨⟨q, rfl, (quotes_plain hq).2⟩, q, List.getLast?_concat (l := q :: s.toList), (quotes_plain hq).2⟩

theorem trim_before_quote (hx : IsWord x) (op : Comparison) (hq : q ∈ quotes) (s : String) :
    trim (x ++ " " ++ op.sign ++ " " ++ quote q s) = x ++ " " ++ op.sign ++ " " ++ quote q s := by
  have hends := hx.hasEnds.join (hasEnds_quote hq s) (" " ++ op.sign ++ " ").toList
  apply trim_eq_self
  simpa using hends

/-- A sign that is looked for before the one in front of the quotes is found in them only. -/
theorem split?_before_quote (hunmarked : IsUnmarked x.toList) (hother : other ∈ op.before) (hq : q ∈ quotes)
    (s : String) : split? (x ++ " " ++ op.sign ++ " " ++ quote q s) other.sign =
      (split? s other.sign).map fun p =>
        (x ++ " " ++ op.sign ++ " " ++ String.singleton q ++ p.1, p.2 ++ String.singleton q) := by
  obtain ⟨c, more, hsign, hc⟩ := exists_sign_eq other
  have hquote : q ∉ c :: more := fun hmem =>
    (quotes_plain hq).1 (mem_marks_of_sign other q (by rw [hsign]; exact hmem))
  have hhead : cut? (c :: more) (x ++ " " ++ op.sign ++ " ").toList = none := by
    have hbefore : c ∉ (x ++ " ").toList := isUnmarked_append_space hunmarked c hc
    have hnone : ¬ c :: more <:+: (x ++ " ").toList ++ (op.sign.toList ++ [' ']) := fun hin => by
      have hbehind := infix_of_infix_append hbefore hin
      rw [← hsign] at hbehind
      exact not_infix_of_before hother isUnmarked_space hbehind
    rw [← isSome_cut?_iff, Option.not_isSome_iff_eq_none] at hnone
    simpa using hnone
  have hinside : cut? (c :: more) (s.toList ++ [q]) =
      (cut? (c :: more) s.toList).map fun p => (p.1, p.2 ++ [q]) := by
    rw [cut?_append_cons hquote]
    cases cut? (c :: more) s.toList <;> rfl
  unfold split?
  rw [String.toList_append, toList_quote, hsign, cut?_append_cons hquote, hhead]
  dsimp only
  rw [hinside]
  cases cut? (c :: more) s.toList with
  | none => rfl
  | some p => simp [String.ext_iff]

/-- What stands before the sign that a text is cut at, and the sign, decide how the text is read. -/
theorem read_before_quote (hx : IsWord x) (hunmarked : IsUnmarked x.toList) (op : Comparison) (hq : q ∈ quotes)
    (s : String) : read (x ++ " " ++ op.sign ++ " " ++ quote q s) =
      (ofSigns? (x ++ " " ++ op.sign ++ " " ++ quote q s)).getD (.bare (x ++ " " ++ op.sign ++ " " ++ quote q s)) := by
  have hread := read_of_sign op (isUnmarked_append_space hunmarked) (" " ++ quote q s)
  have htext : x ++ " " ++ op.sign ++ (" " ++ quote q s) = x ++ " " ++ op.sign ++ " " ++ quote q s :=
    String.append_assoc.symm
  rw [htext, trim_before_quote hx op hq s] at hread
  exact hread

theorem cutAt?_before_quote (hunmarked : IsUnmarked x.toList) (hother : other ∈ op.before) (hq : q ∈ quotes)
    (h : hasPart s other.sign = false) : cutAt? (x ++ " " ++ op.sign ++ " " ++ quote q s) other = none := by
  have hnone : split? s other.sign = none := by
    rw [hasPart, Option.isSome_eq_false_iff, Option.isNone_iff_eq_none] at h
    rw [split?, h]
    rfl
  rw [cutAt?, split?_before_quote hunmarked hother hq, hnone]
  rfl

/-- Without a sign in it that is looked for before, a quoted text is the right side of the comparison. -/
theorem read_quote (hx : IsWord x) (hunmarked : IsUnmarked x.toList) (hq : q ∈ quotes)
    (hclear : ∀ other ∈ op.before, hasPart s other.sign = false) :
    read (x ++ " " ++ op.sign ++ " " ++ quote q s) = .compare op x (quote q s) := by
  have hcut : cutAt? (x ++ " " ++ op.sign ++ " " ++ quote q s) op = some (.compare op x (quote q s)) := by
    have hsign := cutAt?_sign op (isUnmarked_append_space hunmarked) (" " ++ quote q s).toList
    rw [String.ofList_toList, String.ofList_toList, trim_append_space hx.hasEnds,
      trim_space_append (hasEnds_quote hq s)] at hsign
    rw [← hsign]
    exact congrArg (cutAt? · op) (String.toList_injective (by simp))
  rw [read_before_quote hx hunmarked op hq,
    ofSigns?_eq (fun other hother => cutAt?_before_quote hunmarked hother hq (hclear other hother)) hcut]
  rfl

/-- With such a sign in it, the text is cut inside the quotes, at the one that is looked for first. -/
theorem read_cut_quote (hx : IsWord x) (hunmarked : IsUnmarked x.toList) (hq : q ∈ quotes) (hother : other ∈ op.before)
    (hfirst : ∀ earlier ∈ other.before, hasPart s earlier.sign = false) {first last : String}
    (hcut : split? s other.sign = some (first, last)) :
    read (x ++ " " ++ op.sign ++ " " ++ quote q s) =
      .compare other (trim (x ++ " " ++ op.sign ++ " " ++ String.singleton q ++ first))
        (trim (last ++ String.singleton q)) := by
  have hhere : cutAt? (x ++ " " ++ op.sign ++ " " ++ quote q s) other =
      some (.compare other (trim (x ++ " " ++ op.sign ++ " " ++ String.singleton q ++ first))
        (trim (last ++ String.singleton q))) := by
    rw [cutAt?, split?_before_quote hunmarked hother hq, hcut]
    rfl
  have hnone : ∀ earlier ∈ other.before, cutAt? (x ++ " " ++ op.sign ++ " " ++ quote q s) earlier = none :=
    fun earlier hearlier =>
      cutAt?_before_quote hunmarked (Comparison.before_trans hearlier hother) hq (hfirst earlier hearlier)
  rw [read_before_quote hx hunmarked op hq, ofSigns?_eq hnone hhere]
  rfl

/-- A text in quotes is compared as it is, whatever else is in it, if it has none of the signs that are looked for
before the one in front of it. With one of these, the condition is another comparison, of what stands before the first
of them and what stands behind. -/
theorem quoted_text_is_opaque_to_later_signs (hx : IsWord x) (hunmarked : IsUnmarked x.toList)
    (hvalue : lookup? b x = some v) (hq : q ∈ quotes) (hunnamed : lookup? b (quote q s) = none) :
    ((∀ other ∈ op.before, hasPart s other.sign = false) →
        evaluate (x ++ " " ++ op.sign ++ " " ++ quote q s) b = compareValues op v (.text s)) ∧
      ∀ other ∈ op.before, (∀ earlier ∈ other.before, hasPart s earlier.sign = false) →
        ∀ first last, split? s other.sign = some (first, last) →
          evaluate (x ++ " " ++ op.sign ++ " " ++ quote q s) b =
            compareValues other (operand b (trim (x ++ " " ++ op.sign ++ " " ++ String.singleton q ++ first)))
              (operand b (trim (last ++ String.singleton q))) := by
  refine ⟨fun hclear => ?_, fun other hother hfirst first last hcut => ?_⟩
  · rw [evaluate, read_quote hx hunmarked hq hclear, holds, operand_named hvalue, operand_unnamed hunnamed,
      literal_quote hq]
  · rw [evaluate, read_cut_quote hx hunmarked hq hother hfirst hcut, holds]

/-- A text with a bar, blanks and a later sign in it is compared as it is. -/
theorem quoted_bar_is_compared :
    lookup? [("x", .text "a|b > c")] "x" = some (.text "a|b > c") ∧
      evaluate "x != 'a|b > c'" [("x", .text "a|b > c")] = .ok false := by
  have hx : IsWord "x" ∧ IsUnmarked "x".toList :=
    ⟨⟨by decide, forall_of_all (by decide)⟩, forall_of_all (by decide)⟩
  have hunnamed : lookup? [("x", .text "a|b > c")] (quote '\'' "a|b > c") = none :=
    Option.isNone_iff_eq_none.mp (by decide +kernel)
  have hclear : ∀ other ∈ Comparison.notEqual.before, hasPart "a|b > c" other.sign = false :=
    forall_of_all (by decide)
  have htext : "x" ++ " " ++ Comparison.notEqual.sign ++ " " ++ quote '\'' "a|b > c" = "x != 'a|b > c'" := by decide
  have hanswer := (quoted_text_is_opaque_to_later_signs hx.1 hx.2 rfl (by decide) hunnamed).1 hclear
  rw [htext] at hanswer
  exact ⟨rfl, hanswer⟩

/-- A quoted text with an earlier sign in it is cut at that. -/
theorem quoted_sign_is_cut_at :
    lookup? [("x", .text "a")] "x" = some (.text "a") ∧ lookup? [("x", .text "a")] "'a==b'" = none ∧
      evaluate "x != 'a==b'" [("x", .text "a")] = .ok false ∧
        compareValues .notEqual (.text "a") (.text "a==b") = .ok true := by
  have hread : read "x != 'a==b'" = .compare .equal "x != 'a" "b'" := by decide +kernel
  have hunnamed : lookup? [("x", .text "a")] "'a==b'" = none := Option.isNone_iff_eq_none.mp (by decide +kernel)
  refine ⟨rfl, hunnamed, ?_, rfl⟩
  rw [evaluate, hread]
  rfl

/-! ## Tests and signs -/

/-- An order asks nothing but the number of what it compares with. -/
theorem compareValues_of_number (hequal : op ≠ .equal) (hdiffer : op ≠ .notEqual) (hnumber : number? v = number? w)
    (u : Value) : compareValues op u v = compareValues op u w := by
  have hordered (test : Binary64 → Binary64 → Bool) : ordered test u v = ordered test u w := by
    unfold ordered numbers?
    rw [hnumber]
  cases op with
  | equal => exact absurd rfl hequal
  | notEqual => exact absurd rfl hdiffer
  | atLeast => exact hordered _
  | atMost => exact hordered _
  | greater => exact hordered _
  | less => exact hordered _

/-- What a test asks of a value and its argument is what its sign asks of the value and the literal. -/
theorem barHolds_eq {test : BarTest} (htest : test.relation? = some op) {a : String}
    (ha : op = .equal ∨ (Decimal.readFloat? a).isSome = true) (v : Value) :
    barHolds test (some v) a = compareValues op v (literal a) := by
  have hnumber (hsome : (Decimal.readFloat? a).isSome = true) : number? (.text a) = number? (literal a) := by
    obtain ⟨n, hn⟩ := Option.isSome_iff_exists.mp hsome
    rw [literal_of_readFloat? hn]
    exact congrArg Except.ok hn
  cases test with
  | equals =>
    obtain rfl := Option.some.inj htest
    rfl
  | contains => cases htest
  | greaterThan =>
    obtain rfl := Option.some.inj htest
    have hother : Comparison.greater ≠ .equal ∧ Comparison.greater ≠ .notEqual := by decide
    exact compareValues_of_number hother.1 hother.2 (hnumber (ha.resolve_left hother.1)) v
  | lessThan =>
    obtain rfl := Option.some.inj htest
    have hother : Comparison.less ≠ .equal ∧ Comparison.less ≠ .notEqual := by decide
    exact compareValues_of_number hother.1 hother.2 (hnumber (ha.resolve_left hother.1)) v

/-- Tests with bars and comparisons with signs agree: on every value, equality with any literal, and the two orders with
the literals of numbers; with any blanks around the parts and the word of the test in capitals or not. -/
theorem bars_agree_with_signs {test : BarTest} (htest : test.relation? = some op) {word name arg left right a : String}
    (hword : Unicode.toLower (trim word) = test.word) (hname : trim name = x) (harg : trim arg = a)
    (hleft : trim left = x) (hright : trim right = a) (hunmarked : IsUnmarked x.toList)
    (hvalue : (lookup? b x).isSome = true) (hunnamed : lookup? b a = none)
    (ha : op = .equal ∨ (Decimal.readFloat? a).isSome = true) :
    evaluate (word ++ "|" ++ name ++ "|" ++ arg) b = evaluate (left ++ op.sign ++ right) b := by
  obtain ⟨v, hv⟩ := Option.isSome_iff_exists.mp hvalue
  have hbar : '|' ∉ name.toList := by
    have hmarks := isUnmarked_trim_iff.mp (hname ▸ hunmarked)
    exact hmarks '|' (by decide)
  -- Nothing is looked for before the sign of equality, and the text of a number has no sign.
  have hbehind : ∀ other ∈ op.before, ¬ other.sign.toList <:+: op.sign.toList ++ right.toList := by
    intro other hother
    rcases ha with rfl | hsome
    · cases hother
    · obtain ⟨n, hn⟩ := Option.isSome_iff_exists.mp hsome
      exact not_infix_of_before hother (isUnmarked_trim_iff.mp (hright ▸ isUnmarked_of_readFloat? hn))
  have hbefore : IsUnmarked left.toList := isUnmarked_trim_iff.mp (hleft ▸ hunmarked)
  calc evaluate (word ++ "|" ++ name ++ "|" ++ arg) b
      = barHolds test (some v) a := by rw [evaluate, read_bars hword hbar, hname, harg, holds, hv]
    _ = compareValues op v (literal a) := barHolds_eq htest ha v
    _ = evaluate (left ++ op.sign ++ right) b := by
        rw [evaluate, read_sign op hbefore hbehind, hleft, hright, holds, operand_named hv, operand_unnamed hunnamed]

/-- A name that is bound up to case, and a number in other words. -/
theorem bars_agree_on_count :
    (lookup? [("Count", .text " 7 ")] "count").isSome = true ∧
      evaluate "  Greater-Than | count |1_0e-1 " [("Count", .text " 7 ")] =
        evaluate "count>  1_0e-1" [("Count", .text " 7 ")] := by
  have hvalue : (lookup? [("Count", .text " 7 ")] "count").isSome = true := by decide +kernel
  have hunnamed : lookup? [("Count", .text " 7 ")] "1_0e-1" = none := Option.isNone_iff_eq_none.mp (by decide +kernel)
  have hbars : "  Greater-Than " ++ "|" ++ " count " ++ "|" ++ "1_0e-1 " = "  Greater-Than | count |1_0e-1 " := by
    decide
  have hsign : "count" ++ Comparison.greater.sign ++ "  1_0e-1" = "count>  1_0e-1" := by decide
  have hagree := @bars_agree_with_signs [("Count", .text " 7 ")] .greater "count" .greaterThan rfl "  Greater-Than "
    " count " "1_0e-1 " "count" "  1_0e-1" "1_0e-1" (by decide +kernel) (by decide +kernel) (by decide +kernel)
    (by decide +kernel) (by decide +kernel) (forall_of_all (by decide)) hvalue hunnamed
    (.inr (by decide +kernel))
  rw [hbars, hsign] at hagree
  exact ⟨hvalue, hagree⟩

end Runbook.Condition
