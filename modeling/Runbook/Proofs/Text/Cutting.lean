import Mathlib.Data.List.DropRight
import Mathlib.Tactic
import Runbook.Text.Basic

/-! What is cut out of a text, what is found in it, what is left of it without the blanks around it, and how texts are
joined. -/

namespace Runbook.Text

/-- What holds of all members of a list by evaluation holds of each. -/
theorem forall_of_all {α : Type} {p : α → Prop} [DecidablePred p] {xs : List α}
    (h : (xs.all fun x => decide (p x)) = true) : ∀ x ∈ xs, p x :=
  fun x hx => of_decide_eq_true (List.all_eq_true.mp h x hx)

/-! ## Cutting -/

variable {c : Char} {left right more : List Char}

/-- Nothing is cut before the first character of the separator. -/
theorem cut?_append_of_notMem (h : c ∉ left) (rest : List Char) :
    cut? (c :: more) (left ++ rest) = (cut? (c :: more) rest).map fun (a, b) => (left ++ a, b) := by
  induction left with
  | nil => simp
  | cons d left ih =>
    obtain ⟨hd, hleft⟩ := List.ne_and_not_mem_of_not_mem_cons h
    simp [cut?, List.isPrefixOf?, hd, ih hleft, Function.comp_def]

/-- What is cut at a single character is the text before the first one of it. -/
theorem cut?_append (h : c ∉ left) (rest : List Char) : cut? [c] (left ++ c :: rest) = some (left, rest) := by
  have hhere : cut? [c] (c :: rest) = some ([], rest) := by simp [cut?, List.isPrefixOf?]
  rw [cut?_append_of_notMem h, hhere]
  simp

theorem split?_bar_append (h : '|' ∉ left) (right : List Char) :
    split? (String.ofList (left ++ right)) "|" =
      (cut? ['|'] right).map fun (a, b) => (String.ofList (left ++ a), String.ofList b) := by
  have hcut : cut? "|".toList (left ++ right) = (cut? ['|'] right).map fun (a, b) => (left ++ a, b) :=
    cut?_append_of_notMem h right
  unfold split?
  simp only [String.toList_ofList, hcut, Option.map_map]
  rfl

/-- Nor is anything cut across a character that the separator does not have. -/
theorem isPrefixOf?_append_cons {d : Char} {sep : List Char} (hd : d ∉ sep) (before after : List Char) :
    sep.isPrefixOf? (before ++ d :: after) = (sep.isPrefixOf? before).map (· ++ d :: after) := by
  induction sep generalizing before with
  | nil => simp [List.isPrefixOf?]
  | cons c sep ih =>
    obtain ⟨hc, hsep⟩ := List.ne_and_not_mem_of_not_mem_cons hd
    cases before with
    | nil => simp [List.isPrefixOf?, hc.symm]
    | cons e before =>
      simp only [List.cons_append, List.isPrefixOf?]
      split_ifs
      · exact ih hsep before
      · rfl

theorem cut?_append_cons {d : Char} (hd : d ∉ c :: more) (before after : List Char) :
    cut? (c :: more) (before ++ d :: after) =
      match cut? (c :: more) before with
      | some (a, b) => some (a, b ++ d :: after)
      | none => (cut? (c :: more) after).map fun (a, b) => (before ++ d :: a, b) := by
  induction before with
  | nil =>
    obtain ⟨hc, -⟩ := List.ne_and_not_mem_of_not_mem_cons hd
    simp [cut?, List.isPrefixOf?, hc.symm]
  | cons e before ih =>
    have hprefix := isPrefixOf?_append_cons hd (e :: before) after
    rw [List.cons_append] at hprefix ⊢
    rw [cut?, cut?, hprefix, ih]
    cases List.isPrefixOf? (c :: more) (e :: before) with
    | some rest => rfl
    | none =>
      cases cut? (c :: more) before with
      | some p => rfl
      | none => cases cut? (c :: more) after <;> rfl

theorem split?_bar {s before after : String} (hs : s.toList = before.toList ++ '|' :: after.toList)
    (h : '|' ∉ before.toList) : split? s "|" = some (before, after) := by
  have hcut : cut? "|".toList s.toList = some (before.toList, after.toList) := by
    rw [hs]
    exact cut?_append h after.toList
  unfold split?
  rw [hcut]
  simp

theorem isPrefixOf?_eq_none_iff {part cs : List Char} : part.isPrefixOf? cs = none ↔ ¬ part <+: cs := by
  constructor
  · rintro hnone ⟨rest, hrest⟩
    rw [List.isPrefixOf?_eq_some_iff_append_eq.mpr hrest] at hnone
    cases hnone
  · intro hnot
    cases hprefix : part.isPrefixOf? cs with
    | none => rfl
    | some rest => exact absurd ⟨rest, List.isPrefixOf?_eq_some_iff_append_eq.mp hprefix⟩ hnot

theorem isSome_cut?_iff (part cs : List Char) : (cut? part cs).isSome = true ↔ part <:+: cs := by
  induction cs with
  | nil => cases part <;> simp [cut?]
  | cons c cs ih =>
    rw [cut?, List.infix_cons_iff]
    cases hprefix : part.isPrefixOf? (c :: cs) with
    | none => simp [isPrefixOf?_eq_none_iff.mp hprefix, ih]
    | some rest =>
      have hpart : part <+: c :: cs := ⟨rest, List.isPrefixOf?_eq_some_iff_append_eq.mp hprefix⟩
      simp [hpart]

/-- A separator whose first character does not come again in it does not begin shortly in front of itself. -/
theorem isPrefix_of_isPrefix_append (hc : c ∉ more) {d : Char} {before after : List Char}
    (h : c :: more <+: d :: before ++ (c :: more ++ after)) : c :: more <+: d :: before := by
  obtain ⟨rfl, hmore⟩ := List.cons_prefix_cons.mp h
  refine List.cons_prefix_cons.mpr ⟨rfl, ?_⟩
  rcases List.prefix_or_prefix_of_prefix hmore (List.prefix_append before _) with hshort | ⟨rest, rfl⟩
  · exact hshort
  · cases rest with
    | nil => simp
    | cons e rest =>
      obtain ⟨rfl, -⟩ := List.cons_prefix_cons.mp ((List.prefix_append_right_inj before).mp hmore)
      simp at hc

/-- What is cut off is the text before the first separator. -/
theorem cut?_eq_some_iff (hc : c ∉ more) {cs before after : List Char} :
    cut? (c :: more) cs = some (before, after) ↔ cs = before ++ (c :: more ++ after) ∧ ¬ c :: more <:+: before := by
  induction cs generalizing before with
  | nil => simp [cut?]
  | cons d cs ih =>
    rw [cut?]
    cases hprefix : (c :: more).isPrefixOf? (d :: cs) with
    | some rest =>
      have hrest := List.isPrefixOf?_eq_some_iff_append_eq.mp hprefix
      cases before with
      | nil => simp [← hrest]
      | cons e before =>
        simp only [Option.some.injEq, Prod.mk.injEq, reduceCtorEq, false_and, false_iff, not_and, not_not]
        intro hcs
        rw [hcs] at hrest
        exact (isPrefix_of_isPrefix_append hc ⟨rest, hrest⟩).isInfix
    | none =>
      have hnot := isPrefixOf?_eq_none_iff.mp hprefix
      cases before with
      | nil =>
        simp only [Option.map_eq_some_iff, Prod.mk.injEq, reduceCtorEq, false_and, and_false, exists_false, false_iff]
        rintro ⟨hcs, -⟩
        exact hnot ⟨after, hcs.symm⟩
      | cons e before =>
        have hcut : (cut? (c :: more) cs).map (fun (a, b) => (d :: a, b)) = some (e :: before, after) ↔
            d = e ∧ cut? (c :: more) cs = some (before, after) := by
          rcases cut? (c :: more) cs with _ | ⟨a, b⟩ <;> simp [and_assoc]
        change Option.map _ _ = _ ↔ d :: cs = e :: (before ++ (c :: more ++ after)) ∧ _
        rw [hcut, ih, List.cons.injEq, and_assoc]
        refine and_congr_right fun hd => and_congr_right fun hcs => not_congr ?_
        subst hd hcs
        rw [List.infix_cons_iff, or_iff_right]
        exact fun hbefore => hnot (hbefore.trans (List.prefix_append (d :: before) _))

/-- What begins with a character that is not on the left is on the right. -/
theorem infix_of_infix_append (h : c ∉ left) (hpart : c :: more <:+: left ++ right) : c :: more <:+: right := by
  rw [← isSome_cut?_iff, cut?_append_of_notMem h, Option.isSome_map] at hpart
  exact (isSome_cut?_iff _ _).mp hpart

theorem hasPart_iff (s part : String) : hasPart s part = true ↔ part.toList <:+: s.toList := isSome_cut?_iff _ _

theorem endsWith_iff (t ending : String) : endsWith t ending = true ↔ ending.toList <:+ t.toList :=
  List.isSuffixOf_iff_suffix

theorem hasNull_eq_false_iff (s : String) : hasNull s = false ↔ '\x00' ∉ s.toList := by
  rw [hasNull, Bool.eq_false_iff, ne_eq, List.contains_iff_mem]

/-! ## Trimming -/

/-- The text begins and ends with characters that are no blanks. -/
def HasEnds (cs : List Char) : Prop :=
  (∃ c ∈ cs.head?, Unicode.isBlank c = false) ∧ ∃ c ∈ cs.getLast?, Unicode.isBlank c = false

theorem HasEnds.join {first last : List Char} (hfirst : HasEnds first) (hlast : HasEnds last) (between : List Char) :
    HasEnds (first ++ between ++ last) := by
  obtain ⟨⟨c, hc, hcblank⟩, -⟩ := hfirst
  obtain ⟨-, d, hd, hdblank⟩ := hlast
  refine ⟨⟨c, ?_, hcblank⟩, d, ?_, hdblank⟩
  · rw [Option.mem_def] at hc ⊢
    rw [List.append_assoc, List.head?_append, hc, Option.some_or]
  · rw [Option.mem_def] at hd ⊢
    rw [List.getLast?_append, hd, Option.some_or]

theorem trimStart_append {cs : List Char} (h : ∃ c ∈ cs.head?, Unicode.isBlank c = false) (before : List Char) :
    trimStart (before ++ cs) = trimStart before ++ cs := by
  obtain ⟨c, hc, hblank⟩ := h
  obtain ⟨rest, rfl⟩ := List.head?_eq_some_iff.mp hc
  have hstop : (c :: rest).dropWhile Unicode.isBlank = c :: rest := List.dropWhile_cons_of_neg (by simp [hblank])
  unfold trimStart
  rw [List.dropWhile_append, hstop]
  split_ifs with hempty
  · rw [List.isEmpty_iff.mp hempty, List.nil_append]
  · rfl

theorem trimEnd_append {cs : List Char} (h : ∃ c ∈ cs.getLast?, Unicode.isBlank c = false) (after : List Char) :
    trimEnd (cs ++ after) = cs ++ trimEnd after := by
  have hstart : trimStart (after.reverse ++ cs.reverse) = trimStart after.reverse ++ cs.reverse :=
    trimStart_append (by simpa using h) _
  unfold trimStart at hstart
  unfold trimEnd
  rw [List.reverse_append, hstart, List.reverse_append, List.reverse_reverse]

/-- What is trimmed are the blanks around the text. -/
theorem trim_append {cs : List Char} (h : HasEnds cs) (before after : List Char) :
    trim (String.ofList (before ++ cs ++ after)) = String.ofList (trimStart before ++ cs ++ trimEnd after) := by
  obtain ⟨⟨c, hc, hcblank⟩, d, hd, hdblank⟩ := h
  have hstart : ∃ c ∈ (cs ++ after).head?, Unicode.isBlank c = false :=
    ⟨c, List.mem_head?_append_of_mem_head? hc, hcblank⟩
  have hend : ∃ d ∈ (trimStart before ++ cs).getLast?, Unicode.isBlank d = false :=
    ⟨d, List.mem_getLast?_append_of_mem_getLast? hd, hdblank⟩
  unfold trim
  rw [String.toList_ofList, List.append_assoc, trimStart_append hstart, ← List.append_assoc, trimEnd_append hend]

theorem trimStart_of_blank {cs : List Char} (h : ∀ c ∈ cs, Unicode.isBlank c = true) : trimStart cs = [] :=
  List.dropWhile_eq_nil_iff.mpr h

theorem trimEnd_of_blank {cs : List Char} (h : ∀ c ∈ cs, Unicode.isBlank c = true) : trimEnd cs = [] := by
  have hreverse : trimStart cs.reverse = [] := trimStart_of_blank fun c hc => h c (List.mem_reverse.mp hc)
  exact List.reverse_eq_nil_iff.mpr hreverse

theorem trim_of_hasEnds {cs : List Char} (h : HasEnds cs) {before after : List Char}
    (hbefore : ∀ c ∈ before, Unicode.isBlank c = true) (hafter : ∀ c ∈ after, Unicode.isBlank c = true) :
    trim (String.ofList (before ++ cs ++ after)) = String.ofList cs := by
  rw [trim_append h, trimStart_of_blank hbefore, trimEnd_of_blank hafter, List.nil_append, List.append_nil]

theorem isPrefix_trimEnd (cs : List Char) : trimEnd cs <+: cs := List.rdropWhile_prefix _ cs

theorem trimEnd_cons (c : Char) (cs : List Char) :
    trimEnd (c :: cs) = if (trimEnd cs).isEmpty ∧ Unicode.isBlank c = true then [] else c :: trimEnd cs := by
  unfold trimEnd
  rw [List.reverse_cons, List.dropWhile_append]
  cases hblank : Unicode.isBlank c <;> cases hrest : cs.reverse.dropWhile Unicode.isBlank <;> simp [hblank]

/-- Which end is trimmed first makes no difference. -/
theorem trimStart_trimEnd (cs : List Char) : trimStart (trimEnd cs) = trimEnd (trimStart cs) := by
  induction cs with
  | nil => rfl
  | cons c cs ih =>
    cases hblank : Unicode.isBlank c with
    | true =>
      have hstart : trimStart (c :: cs) = trimStart cs := List.dropWhile_cons_of_pos hblank
      rw [hstart, ← ih, trimEnd_cons]
      split_ifs with hempty
      · rw [List.isEmpty_iff.mp hempty.1]
      · exact List.dropWhile_cons_of_pos hblank
    | false =>
      have hstay (rest : List Char) : trimStart (c :: rest) = c :: rest := List.dropWhile_cons_of_neg (by simp [hblank])
      rw [hstay, trimEnd_cons, if_neg (by simp [hblank]), hstay]

theorem trim_trimStart (cs : List Char) : trim (String.ofList (trimStart cs)) = trim (String.ofList cs) := by
  unfold trim trimStart
  simp only [String.toList_ofList, List.dropWhile_idempotent]

theorem trim_trimEnd (cs : List Char) : trim (String.ofList (trimEnd cs)) = trim (String.ofList cs) := by
  have htwice (rest : List Char) : trimEnd (trimEnd rest) = trimEnd rest := by
    unfold trimEnd
    rw [List.reverse_reverse, List.dropWhile_idempotent]
  unfold trim
  rw [String.toList_ofList, String.toList_ofList, trimStart_trimEnd, htwice]

/-- What is no blank is not trimmed. -/
theorem mem_trim_iff {c : Char} (hc : Unicode.isBlank c = false) (s : String) :
    c ∈ (trim s).toList ↔ c ∈ s.toList := by
  have hstart (cs : List Char) : c ∈ trimStart cs ↔ c ∈ cs := by
    have hblank : c ∉ cs.takeWhile Unicode.isBlank := fun hmem => by
      rw [List.mem_takeWhile_imp hmem] at hc
      cases hc
    have hsplit := List.takeWhile_append_dropWhile (p := Unicode.isBlank) (l := cs)
    have hmem : c ∈ cs ↔ c ∈ cs.takeWhile Unicode.isBlank ∨ c ∈ trimStart cs := by
      rw [← List.mem_append, trimStart, hsplit]
    rw [hmem, or_iff_right hblank]
  have hend (cs : List Char) : c ∈ trimEnd cs ↔ c ∈ cs :=
    List.mem_reverse.trans ((hstart cs.reverse).trans List.mem_reverse)
  unfold trim
  rw [String.toList_ofList, hend, hstart]

theorem trim_eq_self {s : String} (h : HasEnds s.toList) : trim s = s := by
  have hself : trim (String.ofList ([] ++ s.toList ++ [])) = String.ofList s.toList :=
    trim_of_hasEnds h (by simp) (by simp)
  simpa using hself

/-- What is trimmed is not trimmed further. -/
theorem trim_trim (s : String) : trim (trim s) = trim s := by
  have hself : String.ofList s.toList = s := String.ofList_toList
  calc trim (trim s) = trim (String.ofList (trimStart s.toList)) := trim_trimEnd (trimStart s.toList)
    _ = trim (String.ofList s.toList) := trim_trimStart s.toList
    _ = trim s := by rw [hself]

/-- What is trimmed begins and ends with characters that are no blanks, unless nothing is left. -/
theorem hasEnds_trim {s : String} (h : trim s ≠ "") : HasEnds (trim s).toList := by
  have hchars : (trim s).toList = trimEnd (trimStart s.toList) := String.toList_ofList
  have hne : (trim s).toList ≠ [] := by simpa using h
  have hhead {cs : List Char} (hcs : cs.dropWhile Unicode.isBlank ≠ []) :
      ∃ c ∈ (cs.dropWhile Unicode.isBlank).head?, Unicode.isBlank c = false :=
    ⟨_, List.head?_eq_some_head hcs, List.head_dropWhile_not _ hcs⟩
  constructor
  · rw [hchars, ← trimStart_trimEnd] at hne ⊢
    exact hhead hne
  · rw [hchars, trimEnd] at hne ⊢
    rw [List.getLast?_reverse]
    exact hhead (by simpa using hne)

theorem isBlankText_eq_false_iff (s : String) :
    isBlankText s = false ↔ ∃ c ∈ s.toList, Unicode.isBlank c = false := by
  simp [isBlankText]

theorem isBlankText_trim (s : String) : isBlankText (trim s) = isBlankText s := by
  rw [Bool.eq_iff_iff, ← not_iff_not, Bool.not_eq_true, Bool.not_eq_true, isBlankText_eq_false_iff,
    isBlankText_eq_false_iff]
  have hmem (c : Char) : c ∈ (trim s).toList ∧ Unicode.isBlank c = false ↔ c ∈ s.toList ∧ Unicode.isBlank c = false :=
    and_congr_left fun hc => mem_trim_iff hc s
  exact exists_congr hmem

theorem trim_of_isBlankText {s : String} (h : isBlankText s = true) : trim s = "" := by
  have hblank : trimStart s.toList = [] := trimStart_of_blank (List.all_eq_true.mp h)
  unfold trim
  rw [hblank]
  rfl

theorem trim_append_space {s : String} (h : HasEnds s.toList) : trim (s ++ " ") = s := by
  have htrim : trim (String.ofList ([] ++ s.toList ++ [' '])) = String.ofList s.toList :=
    trim_of_hasEnds h (by simp) (forall_of_all (by decide))
  rw [String.ofList_toList] at htrim
  exact (congrArg trim (String.toList_injective (by simp))).trans htrim

theorem trim_space_append {s : String} (h : HasEnds s.toList) : trim (" " ++ s) = s := by
  have htrim : trim (String.ofList ([' '] ++ s.toList ++ [])) = String.ofList s.toList :=
    trim_of_hasEnds h (forall_of_all (by decide)) (by simp)
  rw [String.ofList_toList] at htrim
  exact (congrArg trim (String.toList_injective (by simp))).trans htrim

/-- A text of at least one character in which none is blank. -/
def IsWord (s : String) : Prop := s.toList ≠ [] ∧ ∀ c ∈ s.toList, Unicode.isBlank c = false

theorem IsWord.hasEnds {s : String} (h : IsWord s) : HasEnds s.toList :=
  ⟨⟨_, List.head?_eq_some_head h.1, h.2 _ (List.head_mem h.1)⟩,
    _, List.getLast?_eq_some_getLast h.1, h.2 _ (List.getLast_mem h.1)⟩

/-! ## Splitting -/

theorem splitChars_of_notMem {cs : List Char} (h : c ∉ cs) : splitChars c cs = [cs] := by
  induction cs with
  | nil => rfl
  | cons d rest ih =>
    obtain ⟨hd, hrest⟩ := List.ne_and_not_mem_of_not_mem_cons h
    rw [splitChars, if_neg (Ne.symm hd), ih hrest]

theorem splitChars_append {cs : List Char} (h : c ∉ cs) (rest : List Char) :
    splitChars c (cs ++ c :: rest) = cs :: splitChars c rest := by
  induction cs with
  | nil => rw [List.nil_append, splitChars, if_pos rfl]
  | cons d cs ih =>
    obtain ⟨hd, hcs⟩ := List.ne_and_not_mem_of_not_mem_cons h
    rw [List.cons_append, splitChars, if_neg (Ne.symm hd), ih hcs]

theorem splitOn_of_notMem {s : String} (h : c ∉ s.toList) : splitOn s c = [s] := by
  rw [splitOn, splitChars_of_notMem h, List.map_singleton, String.ofList_toList]

/-- The last occurrence is the one behind which there is none. -/
theorem splitLast?_append {ending : String} (h : c ∉ ending.toList) (start : String) :
    splitLast? (start ++ String.singleton c ++ ending) c = some (start, ending) := by
  have hchars : (start ++ String.singleton c ++ ending).toList.reverse =
      ending.toList.reverse ++ c :: start.toList.reverse := by simp
  rw [splitLast?, hchars, cut?_append (by simpa using h)]
  simp

theorem splitLast?_eq_some_iff {s start ending : String} :
    splitLast? s c = some (start, ending) ↔ s = start ++ String.singleton c ++ ending ∧ c ∉ ending.toList := by
  constructor
  · intro h
    obtain ⟨⟨after, before⟩, hcut, hparts⟩ := Option.map_eq_some_iff.mp h
    obtain ⟨rfl, rfl⟩ := Prod.mk.inj hparts
    obtain ⟨hchars, hnot⟩ := (cut?_eq_some_iff List.not_mem_nil).mp hcut
    have hs := congrArg List.reverse hchars
    refine ⟨String.toList_injective (by simpa using hs), fun hmem => hnot ?_⟩
    exact (List.singleton_infix_iff _ _).mpr (by simpa using hmem)
  · rintro ⟨rfl, hending⟩
    exact splitLast?_append hending start

/-- The first occurrence is the one before which there is none. -/
theorem split?_eq_some_iff {s start ending : String} :
    split? s (String.singleton c) = some (start, ending) ↔
      s = start ++ String.singleton c ++ ending ∧ c ∉ start.toList := by
  have hcut : split? s (String.singleton c) = some (start, ending) ↔
      cut? [c] s.toList = some (start.toList, ending.toList) := by
    rw [split?, String.toList_singleton]
    constructor
    · intro h
      obtain ⟨⟨before, after⟩, hcut, hparts⟩ := Option.map_eq_some_iff.mp h
      obtain ⟨rfl, rfl⟩ := Prod.mk.inj hparts
      simpa using hcut
    · intro h
      simp [h]
  rw [hcut, cut?_eq_some_iff List.not_mem_nil, List.singleton_infix_iff, ← String.toList_inj]
  simp

/-- What is joined with a character that is in none of the texts is split there again. -/
theorem splitOn_joinWith {xs : List String} (hne : xs ≠ []) (h : ∀ x ∈ xs, c ∉ x.toList) :
    splitOn (joinWith (String.singleton c) xs) c = xs := by
  induction xs with
  | nil => exact absurd rfl hne
  | cons x xs ih =>
    rw [List.forall_mem_cons] at h
    cases xs with
    | nil =>
      rw [joinWith, String.intercalate_singleton]
      exact splitOn_of_notMem h.1
    | cons y ys =>
      have hchars : (joinWith (String.singleton c) (x :: y :: ys)).toList =
          x.toList ++ c :: (joinWith (String.singleton c) (y :: ys)).toList := by
        simp [joinWith, String.intercalate_cons_cons]
      have hrest := ih (List.cons_ne_nil y ys) h.2
      rw [splitOn] at hrest ⊢
      rw [hchars, splitChars_append h.1, List.map_cons, hrest, String.ofList_toList]

/-! ## Joining -/

theorem joinWith_concat (sep : String) {xs : List String} (hxs : xs ≠ []) (x : String) :
    joinWith sep (xs ++ [x]) = joinWith sep xs ++ sep ++ x := by
  induction xs with
  | nil => exact absurd rfl hxs
  | cons y ys ih =>
    cases ys with
    | nil => simp [joinWith, String.intercalate_cons_cons]
    | cons z zs =>
      simp only [joinWith, List.cons_append, String.intercalate_cons_cons] at ih ⊢
      rw [ih (List.cons_ne_nil z zs)]
      simp only [String.append_assoc]

theorem joinWith_le_append (sep : String) (xs : List String) (x : String) :
    (joinWith sep xs).utf8ByteSize ≤ (joinWith sep (xs ++ [x])).utf8ByteSize := by
  by_cases hxs : xs = []
  · simp [hxs, joinWith]
  · rw [joinWith_concat sep hxs]
    simp only [String.utf8ByteSize_append]
    omega

/-- What is not in the separator is in a joined text if it is in one of the parts. -/
theorem mem_joinWith_iff {sep : String} (hsep : c ∉ sep.toList) (xs : List String) :
    c ∈ (joinWith sep xs).toList ↔ ∃ x ∈ xs, c ∈ x.toList := by
  induction xs with
  | nil => simp [joinWith]
  | cons x xs ih =>
    cases xs with
    | nil => simp [joinWith]
    | cons y ys =>
      have hmore : joinWith sep (x :: y :: ys) = x ++ sep ++ joinWith sep (y :: ys) := by
        simp [joinWith, String.intercalate_cons_cons]
      rw [hmore, String.toList_append, String.toList_append, List.mem_append, List.mem_append, ih,
        List.exists_mem_cons_iff]
      simp [hsep]

theorem exists_joinWith_append_singleton (sep : String) (xs : List String) :
    ∃ start, ∀ x, joinWith sep (xs ++ [x]) = start ++ x := by
  by_cases hxs : xs = []
  · exact ⟨"", fun x => by simp [hxs, joinWith]⟩
  · exact ⟨_, joinWith_concat sep hxs⟩

end Runbook.Text
