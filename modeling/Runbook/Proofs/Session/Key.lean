import Mathlib.Data.String.Basic
import Runbook.Proofs.Session.Store
import Runbook.Session.Key

/-! The file of a session: it has two names below the root of the store, and no temporary file takes its
place. -/

namespace Runbook

open Text

/-! ## Names -/

namespace Naming

theorem safeName_ne_empty (name : String) : safeName name ≠ "" := by
  unfold safeName
  split_ifs with h
  · decide
  · intro heq
    have : name.toList = [] := by simpa using congrArg String.toList heq
    exact h (by simpa [String.isEmpty_iff] using this)

theorem isSafeNameChar_safeName (name : String) : ∀ c ∈ (safeName name).toList, isSafeNameChar c = true := by
  unfold safeName
  split_ifs
  · rw [← List.all_eq_true]
    decide
  · intro c hc
    rw [String.toList_ofList, List.mem_map] at hc
    obtain ⟨d, -, rfl⟩ := hc
    split_ifs with hd
    · exact hd
    · decide

theorem isName_safeName (name : String) : PathName.IsName (safeName name) := by
  have hnot {c : Char} (hplain : isSafeNameChar c = false) : c ∉ (safeName name).toList := by
    intro hmem
    have hsafe := isSafeNameChar_safeName name c hmem
    rw [hplain] at hsafe
    cases hsafe
  have hpoint : '.' ∉ (safeName name).toList := hnot (by decide)
  refine ⟨safeName_ne_empty name, ?_, ?_, hnot (by decide), hnot (by decide)⟩ <;>
    intro heq <;> rw [heq] at hpoint <;> exact absurd hpoint (by decide)

end Naming

namespace SessionKey

/-- The name of the file of a session. -/
def fileName (k : SessionKey) : String := k.id ++ fileSuffix

/-- The places of files that are named for the session. -/
def Names (k : SessionKey) (q : Place) : Prop := ∃ dir, q = dir ++ [Naming.safeName k.workflow] ++ [k.fileName]

theorem path_eq_ok {k : SessionKey} {path : String} (h : k.path = .ok path) :
    isValidId k.id = true ∧ path = Naming.safeName k.workflow ++ "/" ++ k.fileName := by
  unfold SessionKey.path at h
  split_ifs at h with hid
  obtain rfl := Except.ok.inj h
  exact ⟨hid, by rw [fileName, ← String.append_assoc]⟩

/-- The sessions of the keys have one file: the same id, in the directory of the same name. -/
def SharesFile (k l : SessionKey) : Prop :=
  k.id = l.id ∧ Naming.safeName k.workflow = Naming.safeName l.workflow

theorem SharesFile.refl (k : SessionKey) : k.SharesFile k := ⟨rfl, rfl⟩

theorem SharesFile.trans {k l m : SessionKey} (h : k.SharesFile l) (h' : l.SharesFile m) :
    k.SharesFile m :=
  ⟨h.1.trans h'.1, h.2.trans h'.2⟩

theorem SharesFile.symm {k l : SessionKey} (h : k.SharesFile l) : l.SharesFile k := ⟨h.1.symm, h.2.symm⟩

theorem path_of_sharesFile {k l : SessionKey} {path : String} (h : k.SharesFile l) (hk : k.path = .ok path) :
    l.path = .ok path := by
  obtain ⟨hid, rfl⟩ := path_eq_ok hk
  rw [h.1] at hid
  unfold SessionKey.path
  rw [if_pos hid, fileName, h.1, h.2, String.append_assoc]

theorem mem_body {cs : List Char} {c : Char} (h : c ∈ cs) : c = '\n' ∨ c ∈ Naming.body cs := by
  unfold Naming.body
  split_ifs with hlast
  · obtain ⟨front, rfl⟩ := List.getLast?_eq_some_iff.mp hlast
    rcases List.mem_append.mp h with h | h
    · exact .inr (by simpa using h)
    · exact .inl (List.mem_singleton.mp h)
  · exact .inr h

/-- What is in an id is plain, but for a line feed at its end. -/
theorem notMem_of_isValidId {id : String} (h : isValidId id = true) {c : Char} (hfeed : c ≠ '\n')
    (hplain : Naming.isSafeNameChar c = false) : c ∉ id.toList := by
  intro hmem
  unfold isValidId at h
  simp only [Bool.and_eq_true, List.all_eq_true] at h
  have hsafe := h.2 c ((mem_body hmem).resolve_left hfeed)
  rw [hplain] at hsafe
  cases hsafe

theorem id_ne_empty {id : String} (h : isValidId id = true) : id ≠ "" := by
  rintro rfl
  exact absurd h (by decide)

theorem isName_fileName {k : SessionKey} (hid : isValidId k.id = true) : PathName.IsName k.fileName := by
  have hlast : k.fileName.toList.getLast? = some 'n' := by simp [fileName, fileSuffix]
  have hnot {c : Char} (hfeed : c ≠ '\n') (hplain : Naming.isSafeNameChar c = false)
      (hsuffix : c ∉ fileSuffix.toList) : c ∉ k.fileName.toList := by
    rw [fileName, String.toList_append, List.mem_append, not_or]
    exact ⟨notMem_of_isValidId hid hfeed hplain, hsuffix⟩
  refine ⟨?_, ?_, ?_, hnot (by decide) (by decide) (by decide), hnot (by decide) (by decide) (by decide)⟩ <;>
    intro heq <;> rw [heq] at hlast <;> exact absurd hlast (by decide)

theorem path_eq_joinWith {k : SessionKey} {path : String} (h : k.path = .ok path) :
    path = joinWith "/" [Naming.safeName k.workflow, k.fileName] := by
  rw [(path_eq_ok h).2, joinWith, String.intercalate_cons_cons, String.intercalate_singleton]

theorem isName_of_path {k : SessionKey} {path : String} (h : k.path = .ok path) :
    ∀ name ∈ [Naming.safeName k.workflow, k.fileName], PathName.IsName name := by
  rw [List.forall_mem_cons, List.forall_mem_singleton]
  exact ⟨Naming.isName_safeName k.workflow, isName_fileName (path_eq_ok h).1⟩

/-- The file has a name in the directory of its workflow. -/
theorem ofText_path {k : SessionKey} {path : String} (h : k.path = .ok path) :
    PathName.ofText path = ⟨false, [Naming.safeName k.workflow, k.fileName]⟩ := by
  rw [path_eq_joinWith h]
  exact PathName.ofText_joinWith (List.cons_ne_nil _ _) (isName_of_path h)

/-- Keys with valid ids share a file exactly if their paths are the same. -/
theorem sharesFile_iff {k l : SessionKey} {path path' : String} (hk : k.path = .ok path)
    (hl : l.path = .ok path') : k.SharesFile l ↔ path = path' := by
  constructor
  · rintro ⟨hid, hname⟩
    rw [(path_eq_ok hk).2, (path_eq_ok hl).2, fileName, fileName, hid, hname]
  · rintro rfl
    have hparts := congrArg PathName.parts ((ofText_path hk).symm.trans (ofText_path hl))
    obtain ⟨hname, hfile⟩ := List.cons.inj hparts
    have hchars := congrArg String.toList (List.cons.inj hfile).1
    rw [fileName, fileName, String.toList_append, String.toList_append] at hchars
    exact ⟨String.toList_inj.mp (List.append_cancel_right hchars), hname⟩

end SessionKey

/-! ## Places -/

namespace Store

/-- The file of a session is in the directory of its workflow below the root. -/
theorem placeBelow_eq {k : SessionKey} {path : String} (h : k.path = .ok path) (s : Store) (f : Files) :
    s.placeBelow f path = s.rootPlace f ++ [Naming.safeName k.workflow] ++ [k.fileName] := by
  rw [SessionKey.path_eq_joinWith h, placeBelow_joinWith (List.cons_ne_nil _ _) (SessionKey.isName_of_path h),
    List.append_assoc]
  rfl

/-- The place of a session's file ends with the name of its workflow and that of the file. -/
theorem exists_placeBelow {k : SessionKey} {path : String} (h : k.path = .ok path) (s : Store) (f : Files) :
    ∃ dir, s.placeBelow f path = dir ++ [Naming.safeName k.workflow] ++ [k.fileName] :=
  ⟨_, placeBelow_eq h s f⟩

theorem splitName_fileName {k : SessionKey} (hid : SessionKey.isValidId k.id = true) :
    PathName.splitName k.fileName = (k.id, SessionKey.fileSuffix) := by
  have hsplit : splitLast? k.fileName '.' = some (k.id, "json") := by
    have hname : k.fileName = k.id ++ String.singleton '.' ++ "json" := by
      rw [String.append_assoc]
      rfl
    have hending : '.' ∉ "json".toList := by decide
    rw [hname, splitLast?_append hending]
  have hne : k.id.isEmpty = false := by
    simpa [String.isEmpty_iff] using SessionKey.id_ne_empty hid
  rw [PathName.splitName, hsplit]
  simp only [hne, Bool.false_or]
  rfl

theorem tempNumbered_fileName {k : SessionKey} (hid : SessionKey.isValidId k.id = true) (dir : Place) (n : ℕ) :
    tempNumbered (dir ++ [k.fileName]) n =
      dir ++ [k.id ++ "_" ++ String.ofList (padLeft 8 '0' (natText n)) ++ tempSuffix] := by
  simp [tempNumbered, splitName_fileName hid]

/-- No temporary file takes the name of a session's file. -/
theorem tempNumbered_ne_fileName (place dir : Place) (n : ℕ) (k : SessionKey) :
    tempNumbered place n ≠ dir ++ [k.fileName] := by
  intro heq
  have hname := (List.append_inj' heq rfl).2
  have hlast := congrArg (fun t : String => t.toList.getLast?) (List.cons.inj hname).1
  simp only [String.toList_append, List.getLast?_append] at hlast
  simp [tempSuffix, SessionKey.fileName, SessionKey.fileSuffix] at hlast

theorem isLasting_placeBelow {k : SessionKey} {path : String} (h : k.path = .ok path) (s : Store) (f : Files) :
    IsLasting (s.placeBelow f path) := by
  rw [placeBelow_eq h]
  exact ⟨List.append_ne_nil_of_right_ne_nil _ (List.cons_ne_nil _ _),
    fun n => tempNumbered_ne_fileName _ _ n k⟩

theorem length_le_utf8ByteSize (cs : List Char) : cs.length ≤ (String.ofList cs).utf8ByteSize := by
  rw [String.utf8ByteSize_ofList]
  induction cs with
  | nil => exact le_rfl
  | cons c cs ih =>
    have := c.utf8Size_pos
    rw [String.utf8Len_cons, List.length_cons]
    omega

/-- Where the temporary file fits, so does the file itself. -/
theorem not_isTooLong_fileName {k : SessionKey} {dir : Place} {n : ℕ}
    (hid : SessionKey.isValidId k.id = true)
    (h : isTooLong (tempNumbered (dir ++ [k.fileName]) n) = false) :
    isTooLong (dir ++ [k.fileName]) = false := by
  obtain ⟨start, hstart⟩ := exists_joinWith_append_singleton "/" dir
  rw [tempNumbered_fileName hid] at h
  have hdigits : 8 ≤ (String.ofList (padLeft 8 '0' (natText n))).utf8ByteSize := by
    have := length_le_utf8ByteSize (padLeft 8 '0' (natText n))
    have hlength : 8 ≤ (padLeft 8 '0' (natText n)).length := by
      simp only [padLeft, List.length_append, List.length_replicate]
      omega
    omega
  have htemp : tempSuffix.utf8ByteSize = 4 := by decide
  have hsuffix : SessionKey.fileSuffix.utf8ByteSize = 5 := by decide
  simp only [isTooLong, Files.placeText, hstart, List.getLast?_append, List.getLast?_singleton,
    Option.some_or, Option.getD_some, Bool.or_eq_false_iff, decide_eq_false_iff_not, not_lt,
    String.utf8ByteSize_append] at h ⊢
  rw [SessionKey.fileName, String.utf8ByteSize_append]
  omega

end Store

end Runbook
