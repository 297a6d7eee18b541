import Runbook.Proofs.Naming
import Runbook.Proofs.Session.Repository

/-! A key of a session leads to one file in a directory below the root of the store, with names of plain
characters; or else it is refused, and no file is read or touched. -/

namespace Runbook

open Text

/-! ## Ids -/

namespace SessionKey

/-- A name of letters and digits of the ASCII alphabet, low lines and hyphens. -/
def IsPlain (name : String) : Prop :=
  ∀ c ∈ name.toList, c.isAlpha = true ∨ c.isDigit = true ∨ c = '_' ∨ c = '-'

/-- A plain name of 1 to 128 characters; a line feed behind it is let pass. -/
def IsSessionId (id : String) : Prop :=
  ∃ name ending, id = name ++ ending ∧ IsPlain name ∧ 1 ≤ name.length ∧ name.length ≤ 128 ∧
    (ending = "" ∨ ending = "\n")

theorem isSafeNameChar_iff (c : Char) :
    Naming.isSafeNameChar c = true ↔ c.isAlpha = true ∨ c.isDigit = true ∨ c = '_' ∨ c = '-' := by
  simp [Naming.isSafeNameChar, Naming.isAsciiWord, Char.isAlphanum, or_assoc]

theorem isPlain_iff (name : String) : IsPlain name ↔ name.toList.all Naming.isSafeNameChar = true := by
  simp only [IsPlain, List.all_eq_true, isSafeNameChar_iff]

theorem body_of_isPlain {name : String} (h : IsPlain name) {ending : List Char}
    (hending : ending = [] ∨ ending = ['\n']) : Naming.body (name.toList ++ ending) = name.toList :=
  Naming.body_append (fun hfeed => absurd (h '\n' hfeed) (by decide)) hending

theorem isValidId_iff (id : String) : isValidId id = true ↔ IsSessionId id := by
  constructor
  · intro h
    obtain ⟨ending, hid, hending⟩ := Naming.exists_body id.toList
    simp only [isValidId, Bool.and_eq_true, decide_eq_true_eq] at h
    obtain ⟨⟨hpos, hlong⟩, hplain⟩ := h
    refine ⟨String.ofList (Naming.body id.toList), String.ofList ending, ?_, ?_, ?_, ?_, ?_⟩
    · rw [← String.ofList_append, ← hid, String.ofList_toList]
    · rwa [isPlain_iff, String.toList_ofList]
    · rwa [String.length_ofList]
    · rwa [String.length_ofList]
    · rcases hending with rfl | rfl
      · exact .inl rfl
      · exact .inr rfl
  · rintro ⟨name, ending, rfl, hplain, hpos, hlong, hending⟩
    have hbody : Naming.body (name ++ ending).toList = name.toList := by
      rw [String.toList_append]
      refine body_of_isPlain hplain ?_
      rcases hending with rfl | rfl
      · exact .inl rfl
      · exact .inr rfl
    simp only [isValidId, hbody, Bool.and_eq_true, decide_eq_true_eq, String.length_toList]
    exact ⟨⟨hpos, hlong⟩, (isPlain_iff name).mp hplain⟩

theorem isPlain_safeName (name : String) : IsPlain (Naming.safeName name) := fun c hc =>
  (isSafeNameChar_iff c).mp (Naming.isSafeNameChar_safeName name c hc)

end SessionKey

/-! ## What changes -/

namespace Files

/-- Nothing changes but at the places of `N`, and that directories are made on the way down to `dir` where
there was nothing. -/
structure ChangesOnly (N : Place → Prop) (dir : Place) (f g : Files) : Prop where
  workDir : g.workDir = f.workDir
  home : g.home = f.home
  homes : g.homes = f.homes
  nodes : ∀ q, ¬N q → g.nodeAt q = f.nodeAt q ∨
    f.nodeAt q = none ∧ g.nodeAt q = some .directory ∧ q <+: dir

namespace ChangesOnly

variable {N : Place → Prop} {dir : Place} {f g k : Files}

theorem refl (N : Place → Prop) (dir : Place) (f : Files) : ChangesOnly N dir f f :=
  ⟨rfl, rfl, rfl, fun _ _ => .inl rfl⟩

theorem trans (h : ChangesOnly N dir f g) (h' : ChangesOnly N dir g k) : ChangesOnly N dir f k where
  workDir := h'.workDir.trans h.workDir
  home := h'.home.trans h.home
  homes := h'.homes.trans h.homes
  nodes q hq := by
    rcases h.nodes q hq with heq | ⟨hnone, hmade, hdir⟩ <;> rcases h'.nodes q hq with heq' | ⟨hnone', hmade', hdir'⟩
    · exact .inl (heq'.trans heq)
    · exact .inr ⟨heq ▸ hnone', hmade', hdir'⟩
    · exact .inr ⟨hnone, heq'.trans hmade, hdir⟩
    · exact .inr ⟨hnone, hmade', hdir⟩

theorem mono {M : Place → Prop} {dir' : Place} (hN : ∀ q, N q → M q) (hdir : dir <+: dir')
    (h : ChangesOnly N dir f g) : ChangesOnly M dir' f g :=
  ⟨h.workDir, h.home, h.homes, fun q hq =>
    (h.nodes q fun hmem => hq (hN q hmem)).imp_right fun ⟨hnone, hmade, hq'⟩ =>
      ⟨hnone, hmade, hq'.trans hdir⟩⟩

theorem mono_of_eq {p : Place} (hp : N p) (h : ChangesOnly (· = p) dir f g) : ChangesOnly N dir f g := by
  refine h.mono ?_ (List.prefix_refl _)
  rintro q rfl
  exact hp

theorem put (f : Files) (p dir : Place) (n : FileNode) : ChangesOnly (· = p) dir f (f.put p n) :=
  ⟨rfl, rfl, rfl, fun _ hq => .inl (nodeAt_put_of_ne f (Ne.symm hq) n)⟩

theorem erase (f : Files) (p dir : Place) : ChangesOnly (· = p) dir f (f.erase p) :=
  ⟨rfl, rfl, rfl, fun _ hq => .inl (nodeAt_erase_of_ne f (Ne.symm hq))⟩

/-- Directories are made where there was nothing, and on the way only. -/
theorem makeDirectories {here names : Place} (h : f.makeDirectories here names = .ok g) :
    ChangesOnly (fun _ => False) (here ++ names) f g := by
  induction names generalizing f here with
  | nil =>
    rw [Files.makeDirectories] at h
    obtain rfl := Except.ok.inj h
    exact refl _ _ _
  | cons name rest ih =>
    have hplace : here ++ name :: rest = here ++ [name] ++ rest := by simp
    rw [hplace]
    obtain ⟨-, k, hensured, hrest⟩ := makeDirectories_cons_eq_ok h
    refine ChangesOnly.trans ?_ (ih hrest)
    cases hensured with
    | there hnode => exact refl _ _ _
    | made hnone =>
      refine ⟨rfl, rfl, rfl, fun q _ => ?_⟩
      by_cases hq : here ++ [name] = q
      · subst hq
        exact .inr ⟨hnone, nodeAt_put_self f (by simp) _, List.prefix_append _ _⟩
      · exact .inl (nodeAt_put_of_ne f hq _)

end ChangesOnly

end Files

namespace Store

open Files

variable {s : Store} {key : String} {data : List UInt8} {f g : Files}

/-- In the middle of a write there is nothing new but a temporary file beside the place. -/
theorem Midway.changesOnly (h : Midway s key data f g) :
    ∃ n, ChangesOnly (· = tempNumbered (s.placeBelow f key) n) (s.placeBelow f key).dropLast f g := by
  cases h with
  | making n hplace hdirs =>
    rw [(placeOf_eq_ok hplace).1] at hdirs
    exact ⟨0, (ChangesOnly.makeDirectories hdirs).mono nofun (List.take_prefix _ _)⟩
  | @filling _ k part hplace hdirs hpart =>
    obtain rfl := (placeOf_eq_ok hplace).1
    obtain ⟨n, hn, -, -⟩ := tempFor_spec k (s.placeBelow f key)
    refine ⟨n, ((ChangesOnly.makeDirectories hdirs).mono nofun (List.prefix_refl _)).trans ?_⟩
    rw [hn]
    exact (ChangesOnly.put k _ _ _).trans (ChangesOnly.put _ _ _ _)

/-- After a write there is nothing new but the file of the key, wherever the system stopped it. -/
theorem changesOnly_writeWith (t : Trouble) (s : Store) (key : String) (data : List UInt8) (f : Files) :
    ChangesOnly (· = s.placeBelow f key) (s.placeBelow f key).dropLast f (writeWith t s key data f).2 := by
  rcases writeWith_cases t s key data f with ⟨e, g, n, hwrite, hdirs⟩ | ⟨place, k, hmade, -, hwrite⟩
  · rw [hwrite]
    exact (ChangesOnly.makeDirectories hdirs).mono nofun (List.take_prefix _ _)
  · rw [hwrite, ← (placeOf_eq_ok hmade.placeOf).1]
    exact ((ChangesOnly.makeDirectories hmade.directories).mono nofun (List.prefix_refl _)).trans (.put k _ _ _)

/-- A deletion makes no directories. -/
theorem changesOnly_delete (s : Store) (key : String) (f : Files) :
    ChangesOnly (· = s.placeBelow f key) [] f (s.delete key f).2 := by
  rw [delete_apply]
  cases hplace : s.placeOf f key with
  | error e => exact .refl _ _ f
  | ok place =>
    rw [← (placeOf_eq_ok hplace).1]
    dsimp only
    split
    · exact .erase f place []
    · exact .refl _ _ f
    · split_ifs <;> exact .refl _ _ f

end Store

/-! ## Sessions -/

namespace Repository

variable {store : Store} {f : Files} {key : SessionKey}

/-- What is done with the session of a key stays at one place. -/
structure Confined (store : Store) (f : Files) (key : SessionKey) (place : Place) : Prop where
  /-- A save changes the file, with the directories on the way to it. -/
  save (s : Session) (hs : s.key = key) :
    Files.ChangesOnly (· = place) place.dropLast f (save store s f).2
  /-- Until then a temporary file is beside it. -/
  midway (s : Session) (hs : s.key = key) (g : Files) (h : Midway store s f g) :
    ∃ n, Files.ChangesOnly (· = Store.tempNumbered place n) place.dropLast f g
  /-- A deletion takes the file away. -/
  delete : Files.ChangesOnly (· = place) [] f (delete store key f).2
  /-- What is loaded is what is read there. -/
  load (now : String) (g : Files) (hdir : g.workDir = f.workDir)
    (hread : g.read ⟨true, place⟩ = f.read ⟨true, place⟩) : load store g now key = load store f now key

theorem confined_of_path {path : String} (h : key.path = .ok path) (store : Store) (f : Files) :
    Confined store f key (store.placeBelow f path) where
  save s hs := by
    rw [save_apply, hs, h]
    cases fileText s with
    | error e => exact .refl _ _ f
    | ok text => exact Store.changesOnly_writeWith .none store path _ f
  midway s hs g hmidway := by
    obtain ⟨path', text, hpath, -, hwrite⟩ := hmidway
    rw [hs, h] at hpath
    obtain rfl := Except.ok.inj hpath
    exact hwrite.changesOnly
  delete := by
    rw [delete_apply, h]
    exact Store.changesOnly_delete store path f
  load now g hdir hread := by
    unfold load
    rw [h]
    simp only [bind, Except.bind, Store.read_congr hdir hread]

/-- The key is refused with the error, and nothing else happens. -/
structure Refused (store : Store) (f : Files) (key : SessionKey) (e : Fault) : Prop where
  save (s : Session) (hs : s.key = key) : save store s f = (.error e, f)
  delete : delete store key f = (.error e, f)
  load (now : String) : load store f now key = .error e

theorem refused_of_path {e : Fault} (h : key.path = .error e) (store : Store) (f : Files) :
    Refused store f key e where
  save s hs := by rw [save_apply, hs, h]
  delete := by rw [delete_apply, h]
  load now := by
    unfold load
    rw [h]
    rfl

end Repository

namespace SessionKey

/-- A key whose id is none is refused as one; every other key leads to a file with the name of the id in a
directory with a plain name, below the root of the store. -/
theorem refused_or_confined (key : SessionKey) :
    (¬IsSessionId key.id ∧ ∃ e : Failure, e.kind = .state ∧ key.path = .error (.failure e) ∧
        ∀ store f, Repository.Refused store f key (.failure e)) ∨
      (IsSessionId key.id ∧ ∃ dir, dir ≠ "" ∧ IsPlain dir ∧
        key.path = .ok (dir ++ "/" ++ key.id ++ ".json") ∧
        PathName.ofText (dir ++ "/" ++ key.id ++ ".json") = ⟨false, [dir, key.id ++ ".json"]⟩ ∧
        ∀ store f,
          Repository.Confined store f key (store.rootPlace f ++ [dir, key.id ++ ".json"])) := by
  by_cases hid : isValidId key.id = true
  · have hpath : key.path = .ok (Naming.safeName key.workflow ++ "/" ++ key.id ++ ".json") := by
      rw [SessionKey.path, if_pos hid, fileSuffix]
    refine .inr ⟨(isValidId_iff key.id).mp hid, Naming.safeName key.workflow,
      Naming.safeName_ne_empty _, isPlain_safeName _, hpath, ofText_path hpath, fun store f => ?_⟩
    have hplace : store.placeBelow f (Naming.safeName key.workflow ++ "/" ++ key.id ++ ".json") =
        store.rootPlace f ++ [Naming.safeName key.workflow, key.id ++ ".json"] := by
      rw [Store.placeBelow_eq hpath, List.append_assoc]
      rfl
    exact hplace ▸ Repository.confined_of_path hpath store f
  · have hpath := SessionKey.path.eq_1 key
    rw [if_neg hid] at hpath
    exact .inl ⟨(isValidId_iff key.id).not.mp hid, _, rfl, hpath, fun store f =>
      Repository.refused_of_path hpath store f⟩

/-- There is a key with a line feed in the name of its file. -/
theorem exists_path_not_plain :
    (⟨"demo", "s\n"⟩ : SessionKey).path = .ok "demo/s\n.json" ∧
      ¬∃ dir name, dir ≠ "" ∧ IsPlain dir ∧ IsPlain name ∧ 1 ≤ name.length ∧ name.length ≤ 128 ∧
        "demo/s\n.json" = dir ++ "/" ++ name ++ ".json" := by
  refine ⟨rfl, ?_⟩
  rintro ⟨dir, name, -, hdir, hname, -, -, heq⟩
  have hmem : '\n' ∈ (dir ++ "/" ++ name ++ ".json").toList := by
    rw [← heq]
    decide
  simp only [String.toList_append, List.mem_append] at hmem
  rcases hmem with ((hmem | hmem) | hmem) | hmem
  · exact absurd (hdir _ hmem) (by decide)
  · exact absurd hmem (by decide)
  · exact absurd (hname _ hmem) (by decide)
  · exact absurd hmem (by decide)

end SessionKey

end Runbook
