import Mathlib.Tactic
import Runbook.Naming
import Runbook.Proofs.Text.Cutting

/-! Which names of branches are let pass: those with the form of a branch name, and such names with a line feed behind
them, of which the end is not looked at. -/

namespace Runbook

namespace Naming

open Text

/-- What a branch name consists of: letters, digits, low lines, full stops, hyphens and slashes, at least one, with no
hyphen or slash at the beginning and no two full stops in a row. -/
structure IsBranchBody (cs : List Char) : Prop where
  ne_nil : cs ≠ []
  plain : ∀ c ∈ cs, c.isAlpha = true ∨ c.isDigit = true ∨ c = '_' ∨ c = '.' ∨ c = '-' ∨ c = '/'
  start : ∀ c ∈ cs.head?, c ≠ '-' ∧ c ≠ '/'
  dots : ¬ ['.', '.'] <:+: cs

/-- A branch name has up to 255 characters and ends with no slash and not like a lock. -/
structure IsBranchName (name : String) : Prop where
  body : IsBranchBody name.toList
  length : name.length ≤ 255
  slash : ¬ "/".toList <:+ name.toList
  lock : ¬ ".lock".toList <:+ name.toList

/-- A name that is let pass: a branch name, or what one consists of with a line feed behind it. -/
def IsLetPass (name : String) : Prop :=
  IsBranchName name ∨ ∃ front, name = front ++ "\n" ∧ IsBranchBody front.toList ∧ front.length ≤ 254

/-- A line feed is taken off the end, and no other character. -/
theorem exists_body (cs : List Char) : ∃ ending, cs = body cs ++ ending ∧ (ending = [] ∨ ending = ['\n']) := by
  unfold body
  split_ifs with hlast
  · obtain ⟨front, rfl⟩ := List.getLast?_eq_some_iff.mp hlast
    exact ⟨['\n'], by rw [List.dropLast_concat], .inr rfl⟩
  · exact ⟨[], (List.append_nil cs).symm, .inl rfl⟩

theorem body_append {cs ending : List Char} (h : '\n' ∉ cs) (hending : ending = [] ∨ ending = ['\n']) :
    body (cs ++ ending) = cs := by
  rcases hending with rfl | rfl
  · have hlast : cs.getLast? ≠ some '\n' := fun heq => h (List.mem_of_getLast? heq)
    rw [List.append_nil, body, if_neg hlast]
  · rw [body, if_pos List.getLast?_concat, List.dropLast_concat]

theorem isBranchChar_iff (c : Char) :
    isBranchChar c = true ↔ c.isAlpha = true ∨ c.isDigit = true ∨ c = '_' ∨ c = '.' ∨ c = '-' ∨ c = '/' := by
  simp [isBranchChar, isAsciiWord, Char.isAlphanum, or_assoc]

/-- Of the parts that no name has, only two full stops consist of characters that names have. -/
theorem any_forbiddenParts_iff {name : String} {cs ending : List Char} (hname : name.toList = cs ++ ending)
    (hcs : ∀ c ∈ cs, isBranchChar c = true) (hending : ending = [] ∨ ending = ['\n']) :
    forbiddenParts.any (hasPart name) = true ↔ ['.', '.'] <:+: cs := by
  have hforbidden : ∀ part ∈ forbiddenParts,
      part = ".." ∨ (part.toList.any fun c => !isBranchChar c && c != '\n') = true := forall_of_all (by decide)
  have hchars : ∀ c ∈ cs ++ ending, isBranchChar c = true ∨ c = '\n' := by
    intro c hc
    rcases List.mem_append.mp hc with hc | hc
    · exact .inl (hcs c hc)
    · rcases hending with rfl | rfl
      · cases hc
      · exact .inr (List.mem_singleton.mp hc)
  have hdots : ['.', '.'] <:+: cs ++ ending ↔ ['.', '.'] <:+: cs := by
    rcases hending with rfl | rfl
    · rw [List.append_nil]
    · rw [List.infix_concat_iff]
      refine ⟨fun h => h.resolve_left fun ⟨front, hfront⟩ => ?_, .inr⟩
      have hlast := congrArg List.getLast? hfront
      simp at hlast
  rw [List.any_eq_true]
  constructor
  · rintro ⟨part, hpart, hhas⟩
    rw [hasPart_iff, hname] at hhas
    rcases hforbidden part hpart with rfl | hother
    · exact hdots.mp hhas
    · obtain ⟨c, hc, hplain⟩ := List.any_eq_true.mp hother
      rcases hchars c (hhas.subset hc) with h | h <;> simp [h] at hplain
  · intro h
    refine ⟨"..", by decide, ?_⟩
    rw [hasPart_iff, hname]
    exact hdots.mpr h

theorem isBranchBody_nil : ¬ IsBranchBody [] := fun h => h.ne_nil rfl

theorem isBranchBody_cons {c : Char} {rest : List Char} :
    IsBranchBody (c :: rest) ↔
      (c :: rest).all isBranchChar = true ∧ (c ≠ '-' ∧ c ≠ '/') ∧ ¬ ['.', '.'] <:+: c :: rest := by
  simp only [List.all_eq_true, isBranchChar_iff]
  exact ⟨fun h => ⟨h.plain, h.start c rfl, h.dots⟩,
    fun ⟨hplain, hstart, hdots⟩ => ⟨List.cons_ne_nil _ _, hplain, fun d hd => Option.some.inj hd ▸ hstart, hdots⟩⟩

/-- What is looked at: the characters before a line feed at the end, and the end of the whole name. -/
theorem isSafeBranch_append {name : String} {cs ending : List Char} (hname : name.toList = cs ++ ending)
    (hbody : body name.toList = cs) (hending : ending = [] ∨ ending = ['\n']) :
    isSafeBranch name = true ↔
      IsBranchBody cs ∧ name.length ≤ 255 ∧ ¬ "/".toList <:+ name.toList ∧ ¬ ".lock".toList <:+ name.toList := by
  have hends (text : String) : endsWith name text = false ↔ ¬ text.toList <:+ name.toList := by
    rw [← endsWith_iff, Bool.not_eq_true]
  unfold isSafeBranch
  dsimp only
  rw [hbody]
  cases cs with
  | nil => simp [isBranchBody_nil]
  | cons c rest =>
    have hempty : name.isEmpty = false := by
      rw [← Bool.not_eq_true, String.isEmpty_iff, ← String.toList_eq_nil_iff, hname]
      simp
    have hstarts : (startsWith name "-" || startsWith name "/") = false ↔ c ≠ '-' ∧ c ≠ '/' := by
      change (['-'].isPrefixOf name.toList || ['/'].isPrefixOf name.toList) = false ↔ _
      rw [hname]
      simp [List.isPrefixOf, ne_comm]
    simp only [hempty, Bool.and_eq_true, Bool.not_eq_true', hstarts, Bool.or_eq_false_iff, hends, decide_eq_true_eq,
      List.isEmpty_cons, isBranchBody_cons]
    constructor
    · rintro ⟨⟨⟨⟨⟨⟨-, hlength⟩, -⟩, hplain⟩, hparts⟩, hstart⟩, hend⟩
      have hdots := any_forbiddenParts_iff hname (List.all_eq_true.mp hplain) hending
      exact ⟨⟨hplain, hstart, fun h => by rw [hdots.mpr h] at hparts; cases hparts⟩, hlength, hend⟩
    · rintro ⟨⟨hplain, hstart, hnone⟩, hlength, hend⟩
      have hdots := any_forbiddenParts_iff hname (List.all_eq_true.mp hplain) hending
      exact ⟨⟨⟨⟨⟨⟨trivial, hlength⟩, trivial⟩, hplain⟩, Bool.eq_false_iff.mpr fun h => hnone (hdots.mp h)⟩, hstart⟩, hend⟩

/-- A line feed is no character of a branch name. -/
theorem IsBranchBody.feed_notMem {cs : List Char} (h : IsBranchBody cs) : '\n' ∉ cs :=
  fun hmem => absurd (h.plain '\n' hmem) (by decide)

theorem isSafeBranch_iff (name : String) : isSafeBranch name = true ↔ IsLetPass name := by
  constructor
  · intro h
    obtain ⟨ending, hname, hending⟩ := exists_body name.toList
    obtain ⟨hbody, hlength, hslash, hlock⟩ := (isSafeBranch_append hname rfl hending).mp h
    generalize body name.toList = cs at hname hbody
    rcases hending with rfl | rfl
    · rw [List.append_nil] at hname
      rw [← hname] at hbody
      exact .inl ⟨hbody, hlength, hslash, hlock⟩
    · have hself : name = String.ofList cs ++ "\n" := String.toList_injective (by simp [hname])
      refine .inr ⟨String.ofList cs, hself, by rwa [String.toList_ofList], ?_⟩
      rw [hself, String.length_append] at hlength
      exact Nat.le_of_succ_le_succ hlength
  · rintro (⟨hbody, hlength, hslash, hlock⟩ | ⟨front, rfl, hbody, hlength⟩)
    · have hself : body name.toList = name.toList := by
        simpa using body_append hbody.feed_notMem (.inl rfl)
      exact (isSafeBranch_append (List.append_nil _).symm hself (.inl rfl)).mpr ⟨hbody, hlength, hslash, hlock⟩
    · have hname : (front ++ "\n").toList = front.toList ++ ['\n'] := by simp
      have hself : body (front ++ "\n").toList = front.toList := by
        rw [hname, body_append hbody.feed_notMem (.inr rfl)]
      have hend (text : List Char) (hlast : text.getLast? ≠ some '\n') (hne : text ≠ []) :
          ¬ text <:+ (front ++ "\n").toList := by
        rintro ⟨before, hbefore⟩
        have heq := congrArg List.getLast? hbefore
        rw [hname, List.getLast?_concat, List.getLast?_append_of_ne_nil _ hne] at heq
        exact hlast heq
      refine (isSafeBranch_append hname hself (.inr rfl)).mpr ⟨hbody, ?_, hend _ (by decide) (by decide),
        hend _ (by decide) (by decide)⟩
      rw [String.length_append]
      exact Nat.succ_le_succ hlength

end Naming

end Runbook
