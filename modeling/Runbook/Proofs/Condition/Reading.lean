import Mathlib.Tactic
import Runbook.Condition
import Runbook.Proofs.Text.Cutting
import Runbook.Proofs.Unicode.Lowercase

/-! How the texts of conditions are read: two words with a sign between them are a comparison, and words with bars
between them a test. -/

namespace Runbook

/-! ## Marks -/

namespace Comparison

/-- The signs that are looked for before this one. -/
def before (op : Comparison) : List Comparison := all.takeWhile (· ≠ op)

/-- What is looked for before a sign is looked for before every later one. -/
theorem before_trans {earlier other op : Comparison} (hearlier : earlier ∈ other.before) (hother : other ∈ op.before) :
    earlier ∈ op.before := by
  have htrans : ∀ other ∈ op.before, ∀ earlier ∈ other.before, earlier ∈ op.before := by cases op <;> decide
  exact htrans other hother earlier hearlier

theorem exists_all_eq (op : Comparison) : ∃ later, all = op.before ++ op :: later := by
  cases op <;> exact ⟨_, rfl⟩

end Comparison

namespace Condition

open Text

/-- The characters that signs and bars consist of. -/
def marks : List Char := ['=', '!', '>', '<', '|']

/-- A text without signs and bars in it. -/
def IsUnmarked (cs : List Char) : Prop := ∀ c ∈ marks, c ∉ cs

variable {left right more : List Char} {c : Char}

theorem marks_plain : ∀ c ∈ marks, Unicode.isBlank c = false ∧ c.toNat < 128 ∧ c.toLower = c :=
  forall_of_all (by decide)

theorem IsUnmarked.append (h : IsUnmarked left) (hmore : IsUnmarked more) :
    IsUnmarked (left ++ more) := fun c hc hmem => (List.mem_append.mp hmem).elim (h c hc) (hmore c hc)

theorem isUnmarked_space : IsUnmarked " ".toList := forall_of_all (by decide)

theorem isUnmarked_append_space {s : String} (h : IsUnmarked s.toList) : IsUnmarked (s ++ " ").toList := by
  rw [String.toList_append]
  exact h.append isUnmarked_space

/-- Blanks make no difference to it. -/
theorem isUnmarked_trim_iff {s : String} : IsUnmarked (trim s).toList ↔ IsUnmarked s.toList := by
  unfold IsUnmarked
  exact forall₂_congr fun c hc => not_congr (mem_trim_iff (marks_plain c hc).1 s)

theorem isUnmarked_trimStart (h : IsUnmarked left) : IsUnmarked (trimStart left) :=
  fun c hc hmem => h c hc (List.dropWhile_sublist _ |>.mem hmem)

theorem sign_ne_nil (op : Comparison) : op.sign.toList ≠ [] := by
  cases op <;> decide

theorem mem_marks_of_sign (op : Comparison) : ∀ c ∈ op.sign.toList, c ∈ marks := by
  have hsign : (op.sign.toList.all fun c => decide (c ∈ marks)) = true := by cases op <;> decide
  exact forall_of_all hsign

theorem exists_sign_eq (op : Comparison) : ∃ c more, op.sign.toList = c :: more ∧ c ∈ marks := by
  obtain ⟨c, more, heq⟩ := List.exists_cons_of_ne_nil (sign_ne_nil op)
  exact ⟨c, more, heq, mem_marks_of_sign op c (by rw [heq]; exact List.mem_cons_self)⟩

theorem hasEnds_sign (op : Comparison) : HasEnds op.sign.toList := by
  have hword : IsWord op.sign := ⟨sign_ne_nil op, fun c hc => (marks_plain c (mem_marks_of_sign op c hc)).1⟩
  exact hword.hasEnds

/-- A sign is no part of a sign that is looked for later, whatever follows that has no marks. -/
theorem not_infix_of_before {op other : Comparison} (h : other ∈ op.before) (hright : IsUnmarked right) :
    ¬ other.sign.toList <:+: op.sign.toList ++ right := by
  have halone : (op.before.all fun other => decide ¬ other.sign.toList <:+: op.sign.toList) = true := by
    cases op <;> decide
  have hsign := forall_of_all halone other h
  -- No character of the sign is found on the right, so the sign does not reach there.
  have hapart {part : List Char} (hpart : ∀ c ∈ part, c ∈ other.sign.toList) (hin : ∀ c ∈ part, c ∈ right) :
      part = [] :=
    List.eq_nil_iff_forall_not_mem.mpr fun c hc => hright c (mem_marks_of_sign other c (hpart c hc)) (hin c hc)
  rw [List.infix_append_iff]
  rintro (hleft | hin | ⟨first, last, heq, hfirst, hlast⟩)
  · exact hsign hleft
  · exact sign_ne_nil other (hapart (fun c hc => hc) fun c hc => hin.subset hc)
  · have hnil : last = [] := hapart (fun c hc => heq ▸ List.mem_append_right _ hc) fun c hc => hlast.subset hc
    rw [hnil, List.append_nil] at heq
    exact hsign (heq ▸ hfirst.isInfix)

/-! ## Comparisons -/

/-- The comparison as which a text is read that is cut at a sign. -/
def cutAt? (expr : String) (op : Comparison) : Option Condition :=
  (split? expr op.sign).map fun (left, right) => .compare op (trim left) (trim right)

theorem cutAt?_sign (op : Comparison) (hl : IsUnmarked left) (right : List Char) :
    cutAt? (String.ofList (left ++ op.sign.toList ++ right)) op =
      some (.compare op (trim (String.ofList left)) (trim (String.ofList right))) := by
  obtain ⟨c, more, hsign, hc⟩ := exists_sign_eq op
  have hhere : (c :: more).isPrefixOf? (c :: (more ++ right)) = some right :=
    List.isPrefixOf?_eq_some_iff_append_eq.mpr rfl
  unfold cutAt? split?
  rw [String.toList_ofList, List.append_assoc, hsign, cut?_append_of_notMem (hl c hc), List.cons_append, cut?, hhere]
  simp

theorem cutAt?_eq_none {op : Comparison} (h : ¬ op.sign.toList <:+: left) : cutAt? (String.ofList left) op = none := by
  unfold cutAt? split?
  rw [String.toList_ofList]
  cases hcut : cut? op.sign.toList left with
  | none => rfl
  | some p => exact absurd ((isSome_cut?_iff _ _).mp (by rw [hcut]; rfl)) h

/-- A text is cut at the first of the signs that is found in it. -/
theorem ofSigns?_eq {expr : String} {op : Comparison} {form : Condition}
    (hbefore : ∀ other ∈ op.before, cutAt? expr other = none) (h : cutAt? expr op = some form) :
    ofSigns? expr = some form := by
  obtain ⟨later, hall⟩ := op.exists_all_eq
  change Comparison.all.findSome? (cutAt? expr) = some form
  rw [hall, List.findSome?_append, List.findSome?_eq_none_iff.mpr hbefore, List.findSome?_cons, h]
  rfl

/-- A text with a sign or a bar in it is no keyword. -/
theorem read_of_mark {text : String} {c : Char} (hc : c ∈ marks) (h : c ∈ (trim text).toList) :
    read text = match ofBars? (trim text) with
      | some form => form
      | none => (ofSigns? (trim text)).getD (.bare (trim text)) := by
  obtain ⟨-, hascii, hlow⟩ := marks_plain c hc
  have hkeyword (word : String) (hword : (marks.all fun c => decide (c ∉ word.toList)) = true) :
      Unicode.toLower (trim text) ≠ word :=
    Unicode.toLower_ne hascii hlow h (forall_of_all hword c hc)
  rw [read]
  split
  · rename_i heq
    exact absurd heq (hkeyword "true" (by decide))
  · rename_i heq
    exact absurd heq (hkeyword "false" (by decide))
  · rename_i heq
    exact absurd heq (hkeyword "approved" (by decide))
  · rename_i heq
    exact absurd heq (hkeyword "file-exists" (by decide))
  · cases ofBars? (trim text) <;> rfl

/-- What has a mark before its first bar is no test. -/
theorem ofBars?_eq_none (hc : c ∈ marks) (hmem : c ∈ left) (hbar : '|' ∉ left) (right : List Char) :
    ofBars? (String.ofList (left ++ right)) = none := by
  obtain ⟨hblank, hascii, hlow⟩ := marks_plain c hc
  have hword (test : BarTest) : c ∉ test.word.toList := by
    have hwords : (marks.all fun c => decide (c ∉ test.word.toList)) = true := by cases test <;> decide
    exact forall_of_all hwords c hc
  have hkind (more : List Char) :
      BarTest.ofWord? (Unicode.toLower (trim (String.ofList (left ++ more)))) = none := by
    refine List.find?_eq_none.mpr fun test _ heq => ?_
    refine Unicode.toLower_ne hascii hlow ?_ (hword test) (beq_iff_eq.mp heq).symm
    rw [mem_trim_iff hblank, String.toList_ofList]
    exact List.mem_append_left _ hmem
  rw [ofBars?, split?_bar_append hbar]
  cases cut? ['|'] right with
  | none => rfl
  | some p =>
    dsimp only [Option.map_some]
    rw [hkind]

theorem trim_sign (op : Comparison) (l r : String) :
    trim (l ++ op.sign ++ r) = String.ofList (trimStart l.toList ++ op.sign.toList ++ trimEnd r.toList) := by
  rw [← trim_append (hasEnds_sign op)]
  exact congrArg trim (String.toList_injective (by simp))

/-- A text with a sign behind unmarked text is cut at a sign. -/
theorem read_of_sign (op : Comparison) {l : String} (hl : IsUnmarked l.toList) (r : String) :
    read (l ++ op.sign ++ r) = (ofSigns? (trim (l ++ op.sign ++ r))).getD (.bare (trim (l ++ op.sign ++ r))) := by
  obtain ⟨c, more, hsign, hc⟩ := exists_sign_eq op
  have hmem : c ∈ trimStart l.toList ++ op.sign.toList := by
    rw [hsign]
    exact List.mem_append_right _ List.mem_cons_self
  have hbar : '|' ∉ trimStart l.toList ++ op.sign.toList := by
    have hnone : '|' ∉ op.sign.toList := by cases op <;> decide
    exact fun h => (List.mem_append.mp h).elim (isUnmarked_trimStart hl '|' (by decide)) hnone
  have hbars : ofBars? (trim (l ++ op.sign ++ r)) = none := by
    rw [trim_sign]
    exact ofBars?_eq_none hc hmem hbar _
  rw [read_of_mark hc (by rw [trim_sign, String.toList_ofList]; exact List.mem_append_left _ hmem), hbars]

/-- A text is read as the comparison of the first sign in it, if none that is looked for before is behind that. -/
theorem read_sign (op : Comparison) {l r : String} (hl : IsUnmarked l.toList)
    (hr : ∀ other ∈ op.before, ¬ other.sign.toList <:+: op.sign.toList ++ r.toList) :
    read (l ++ op.sign ++ r) = .compare op (trim l) (trim r) := by
  have hstart := isUnmarked_trimStart hl
  have hend : op.sign.toList ++ trimEnd r.toList <:+: op.sign.toList ++ r.toList :=
    ((List.prefix_append_right_inj _).mpr (isPrefix_trimEnd _)).isInfix
  have hbefore : ∀ other ∈ op.before, cutAt? (trim (l ++ op.sign ++ r)) other = none := fun other hother => by
    obtain ⟨c, more, hsign, hc⟩ := exists_sign_eq other
    rw [trim_sign]
    refine cutAt?_eq_none fun hin => hr other hother ?_
    rw [hsign, List.append_assoc] at hin
    rw [hsign]
    exact (infix_of_infix_append (hstart c hc) hin).trans hend
  have hsplit := cutAt?_sign op hstart (trimEnd r.toList)
  rw [trim_trimStart, trim_trimEnd, ← trim_sign] at hsplit
  rw [read_of_sign op hl, ofSigns?_eq hbefore hsplit]
  simp

/-- Two words with a sign between them are read as the comparison. -/
theorem read_comparison (op : Comparison) {l r : String} (hl : IsWord l) (hr : IsWord r)
    (hleft : IsUnmarked l.toList) (hright : IsUnmarked r.toList) :
    read (l ++ " " ++ op.sign ++ " " ++ r) = .compare op l r := by
  have hbehind : IsUnmarked (" " ++ r).toList := by
    rw [String.toList_append]
    exact isUnmarked_space.append hright
  have htext : l ++ " " ++ op.sign ++ " " ++ r = l ++ " " ++ op.sign ++ (" " ++ r) := String.append_assoc
  rw [htext, read_sign op (isUnmarked_append_space hleft) fun other hother => not_infix_of_before hother hbehind,
    trim_append_space hl.hasEnds, trim_space_append hr.hasEnds]

/-! ## Tests -/

/-- A test with its name and its argument behind bars is read as the test, with any blanks around these and its word in
capitals or not. -/
theorem read_bars {test : BarTest} {word name : String} (hword : Unicode.toLower (trim word) = test.word)
    (hname : '|' ∉ name.toList) (arg : String) :
    read (word ++ "|" ++ name ++ "|" ++ arg) = .bar test (trim name) (trim arg) := by
  have hplain : '|' ∉ test.word.toList := by cases test <;> decide
  have hkind : BarTest.ofWord? test.word = some test := by cases test <;> decide
  have hbar : '|' ∉ trimStart word.toList := by
    intro hmem
    have hword' : '|' ∈ (trim word).toList := (mem_trim_iff (by decide) word).mpr (List.dropWhile_subset _ hmem)
    exact Unicode.toLower_ne (by decide) (by decide) hword' hplain hword
  have hends : HasEnds ('|' :: (name.toList ++ ['|'])) :=
    ⟨⟨'|', rfl, by decide⟩, '|', List.getLast?_concat (l := '|' :: name.toList), by decide⟩
  have htrim : trim (word ++ "|" ++ name ++ "|" ++ arg) =
      String.ofList (trimStart word.toList ++ '|' :: (name.toList ++ '|' :: trimEnd arg.toList)) := by
    have htext : word ++ "|" ++ name ++ "|" ++ arg =
        String.ofList (word.toList ++ '|' :: (name.toList ++ ['|']) ++ arg.toList) :=
      String.toList_injective (by simp)
    rw [htext, trim_append hends]
    simp
  have hform : ofBars? (trim (word ++ "|" ++ name ++ "|" ++ arg)) = some (.bar test (trim name) (trim arg)) := by
    have hfirst :
        split? (String.ofList (trimStart word.toList ++ '|' :: (name.toList ++ '|' :: trimEnd arg.toList))) "|" =
          some (String.ofList (trimStart word.toList), String.ofList (name.toList ++ '|' :: trimEnd arg.toList)) :=
      split?_bar (by simp) (by simpa using hbar)
    have hsecond : split? (String.ofList (name.toList ++ '|' :: trimEnd arg.toList)) "|" =
        some (name, String.ofList (trimEnd arg.toList)) :=
      split?_bar (by simp) hname
    have hkind' : trim (String.ofList (trimStart word.toList)) = trim word := by
      rw [trim_trimStart, String.ofList_toList]
    have harg : trim (String.ofList (trimEnd arg.toList)) = trim arg := by
      rw [trim_trimEnd, String.ofList_toList]
    rw [htrim, ofBars?, hfirst]
    dsimp only
    rw [hkind', hword, hkind]
    dsimp only
    rw [hsecond]
    dsimp only
    rw [harg]
  rw [read_of_mark (c := '|') (by decide) (by rw [htrim]; simp), hform]

/-- A test with its words between bars is read as the test. -/
theorem read_test (test : BarTest) {name arg : String} (hname : IsWord name) (harg : IsWord arg)
    (hunmarked : '|' ∉ name.toList) : read (test.word ++ "|" ++ name ++ "|" ++ arg) = .bar test name arg := by
  have hword : Unicode.toLower (trim test.word) = test.word := by cases test <;> decide
  rw [read_bars hword hunmarked, trim_eq_self hname.hasEnds, trim_eq_self harg.hasEnds]

end Condition

end Runbook
