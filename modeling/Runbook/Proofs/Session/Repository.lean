import Runbook.Proofs.Session.Document
import Runbook.Proofs.Session.Key

/-! What saving a session leaves in its file, and that what is loaded is what the file holds. -/

namespace Runbook.Repository

variable {store : Store} {f g : Files} {key : SessionKey}

/-- What is at the place of the file of a session. -/
def nodeOf (store : Store) (f : Files) (key : SessionKey) : Option FileNode :=
  match key.path with
  | .ok path => f.nodeAt (store.placeBelow f path)
  | .error _ => none

theorem nodeOf_of_path {path : String} (h : key.path = .ok path) (store : Store) (f : Files) :
    nodeOf store f key = f.nodeAt (store.placeBelow f path) := by
  rw [nodeOf, h]

/-- Keys that share a file have the same node. -/
theorem nodeOf_of_sharesFile {l : SessionKey} (h : key.SharesFile l) (store : Store) (f : Files) :
    nodeOf store f key = nodeOf store f l := by
  unfold nodeOf
  cases hkey : key.path with
  | ok path => rw [SessionKey.path_of_sharesFile h hkey]
  | error e =>
    cases hl : l.path with
    | error e' => rfl
    | ok path =>
      rw [SessionKey.path_of_sharesFile h.symm hl] at hkey
      cases hkey

theorem save_apply (store : Store) (s : Session) (f : Files) :
    save store s f =
      match s.key.path, fileText s with
      | .error e, _ => (.error e, f)
      | .ok _, .error e => (.error e, f)
      | .ok path, .ok text => store.write path (Text.Utf8.encode text) f := by
  unfold save
  cases hpath : s.key.path with
  | error e => exact Act.bind_error rfl _
  | ok path =>
    rw [Act.bind_ok (Act.ofExcept_apply (.ok path) f)]
    cases htext : fileText s with
    | error e => exact Act.bind_error rfl _
    | ok text => rw [Act.bind_ok (Act.ofExcept_apply (.ok text) f)]

/-- A session that is saved stands in its file; one that is not saved leaves the file as it was. -/
theorem save_cases (store : Store) (s : Session) (f : Files) :
    (∃ g text, save store s f = (.ok (), g) ∧ fileText s = .ok text ∧
      nodeOf store g s.key = some (.file (Text.Utf8.encode text))) ∨
    (∃ e g, save store s f = (.error e, g) ∧ nodeOf store g s.key = nodeOf store f s.key) := by
  rw [save_apply]
  cases hpath : s.key.path with
  | error e => exact .inr ⟨e, f, rfl, rfl⟩
  | ok path =>
    cases htext : fileText s with
    | error e => exact .inr ⟨e, f, rfl, rfl⟩
    | ok text =>
      simp only [nodeOf_of_path hpath]
      have hlast := Store.isLasting_placeBelow hpath store f
      rcases @Store.write_cases store path (Text.Utf8.encode text) f hlast with
        ⟨g, hwrite, hdir, hnode⟩ | ⟨e, g, hwrite, hdir, hnode⟩
      · refine .inl ⟨g, text, hwrite, rfl, ?_⟩
        rw [Store.placeBelow_congr store hdir, hnode]
      · refine .inr ⟨e, g, hwrite, ?_⟩
        rw [Store.placeBelow_congr store hdir, hnode]

/-- A session is loaded where its file is read, what it holds is a session, and that is the one of the key. -/
theorem load_eq_ok_iff {now : String} {s : Session} : load store f now key = .ok s ↔
    ∃ path bytes, key.path = .ok path ∧ store.read f path = .ok bytes ∧ decode now bytes = .ok s ∧
      belongs s key = true := by
  unfold load
  simp only [bind_eq_ok_iff, mapError_eq_ok_iff]
  constructor
  · rintro ⟨path, hpath, bytes, hread, t, hdecode, h⟩
    split_ifs at h with hbelongs
    obtain rfl := Except.ok.inj h
    exact ⟨path, bytes, hpath, hread, hdecode, hbelongs⟩
  · rintro ⟨path, bytes, hpath, hread, hdecode, hbelongs⟩
    exact ⟨path, hpath, bytes, hread, s, hdecode, if_pos hbelongs⟩

/-- A session is loaded from what its file holds. -/
theorem load_eq_ok {now : String} {s : Session} (h : load store f now key = .ok s) :
    ∃ bytes, nodeOf store f key = some (.file bytes) ∧ decode now bytes = .ok s ∧ belongs s key = true := by
  obtain ⟨path, bytes, hpath, hread, hdecode, hbelongs⟩ := load_eq_ok_iff.mp h
  refine ⟨bytes, ?_, hdecode, hbelongs⟩
  rw [nodeOf_of_path hpath]
  exact Files.nodeAt_of_read Files.not_mem_resolve_dots (Store.read_eq_ok_iff_read.mp hread).2

theorem belongs_iff_sharesFile {s : Session} : belongs s key = true ↔ s.key.SharesFile key := by
  simp [belongs, SessionKey.SharesFile, Session.key]

/-! ## Other sessions -/

/-- Files of different sessions are at different places. -/
theorem placeBelow_ne {k l : SessionKey} {path path' : String} (hk : k.path = .ok path)
    (hl : l.path = .ok path') (hother : ¬k.SharesFile l) (store : Store) (f : Files) :
    store.placeBelow f path ≠ store.placeBelow f path' := by
  intro heq
  refine hother ((SessionKey.sharesFile_iff hk hl).mpr ?_)
  rw [Store.placeBelow_eq hk, Store.placeBelow_eq hl] at heq
  obtain ⟨hdir, hfile⟩ := List.append_inj' heq rfl
  have hname := (List.cons.inj (List.append_cancel_left hdir)).1
  rw [(SessionKey.path_eq_ok hk).2, (SessionKey.path_eq_ok hl).2, hname, (List.cons.inj hfile).1]

/-- What leaves the working directory and the place of a session's file alone leaves the file alone. -/
theorem nodeOf_congr (hdir : g.workDir = f.workDir)
    (hnode : ∀ path, key.path = .ok path →
      g.nodeAt (store.placeBelow f path) = f.nodeAt (store.placeBelow f path)) :
    nodeOf store g key = nodeOf store f key := by
  unfold nodeOf
  cases hpath : key.path with
  | error e => rfl
  | ok path =>
    dsimp only
    rw [Store.placeBelow_congr store hdir, hnode path hpath]

/-- A save leaves the files of other sessions as they were. -/
theorem nodeOf_save_of_other {s : Session} (hother : ¬s.key.SharesFile key) (store : Store) (f : Files) :
    nodeOf store (save store s f).2 key = nodeOf store f key := by
  rw [save_apply]
  cases hs : s.key.path with
  | error e => rfl
  | ok path =>
    cases htext : fileText s with
    | error e => rfl
    | ok text =>
      dsimp only
      have hkeeps (path' : String) (hpath' : key.path = .ok path') := by
        refine @Store.nodeAt_write_of_ne store path (Text.Utf8.encode text) f (store.placeBelow f path')
          (placeBelow_ne hs hpath' hother store f) ?_
        rw [Store.placeBelow_eq hs, Store.placeBelow_eq hpath']
        simp
      cases hpath : key.path with
      | error e => rw [nodeOf, nodeOf, hpath]
      | ok path' => exact nodeOf_congr (hkeeps path' hpath).1 fun q hq => (hkeeps q hq).2

theorem delete_apply (store : Store) (key : SessionKey) (f : Files) :
    delete store key f =
      match key.path with
      | .error e => (.error e, f)
      | .ok path => store.delete path f := by
  unfold delete
  cases hpath : key.path with
  | error e => exact Act.bind_error rfl _
  | ok path => rw [Act.bind_ok (Act.ofExcept_apply (.ok path) f)]

/-- A deletion leaves the files of other sessions as they were. -/
theorem nodeOf_delete_of_other {k : SessionKey} (hother : ¬k.SharesFile key) (store : Store) (f : Files) :
    nodeOf store (delete store k f).2 key = nodeOf store f key := by
  rw [delete_apply]
  cases hk : k.path with
  | error e => rfl
  | ok path =>
    dsimp only
    have hkeeps (path' : String) (hpath' : key.path = .ok path') :=
      @Store.nodeAt_delete_of_ne store path f _ (placeBelow_ne hk hpath' hother store f)
    cases hpath : key.path with
    | error e => rw [nodeOf, nodeOf, hpath]
    | ok path' => exact nodeOf_congr (hkeeps path' hpath).1 fun q hq => (hkeeps q hq).2

/-! ## Saving again -/

theorem names_placeBelow {path : String} (h : key.path = .ok path) (store : Store) (f : Files) :
    key.Names (store.placeBelow f path) :=
  Store.exists_placeBelow h store f

/-- Sessions of one key that can both be written, or neither, are saved both or neither, and leave the files
alike. -/
theorem save_alike {s t : Session} (h : Files.Alike key.Names f g) (hs : s.key = key) (ht : t.key = key)
    (htext : (fileText t).map (fun _ => ()) = (fileText s).map fun _ => ()) :
    (save store t g).1 = (save store s f).1 ∧ Files.Alike key.Names (save store s f).2 (save store t g).2 := by
  rw [save_apply, save_apply, hs, ht]
  cases hpath : key.path with
  | error e => exact ⟨rfl, h⟩
  | ok path =>
    cases hfs : fileText s with
    | error e =>
      cases hft : fileText t with
      | error e' =>
        rw [hfs, hft] at htext
        exact ⟨by rw [Except.error.inj htext], h⟩
      | ok text' =>
        rw [hfs, hft] at htext
        cases htext
    | ok text =>
      cases hft : fileText t with
      | error e' =>
        rw [hfs, hft] at htext
        cases htext
      | ok text' => exact Store.write_alike h (names_placeBelow hpath store f) _ _

/-- Where a save fails, another session of its key that can be written alike fails to be saved in the same way. -/
theorem save_of_save_error {s t : Session} {e : Fault} (h : save store s f = (.error e, g)) (hkey : t.key = s.key)
    (htext : (fileText t).map (fun _ => ()) = (fileText s).map fun _ => ()) :
    save store t f = (.error e, g) := by
  rw [save_apply] at h ⊢
  rw [hkey]
  cases hpath : s.key.path with
  | error e' =>
    rw [hpath] at h
    exact h
  | ok path =>
    rw [hpath] at h
    cases hs : fileText s with
    | error e' =>
      cases ht : fileText t with
      | error e'' =>
        rw [hs, ht] at htext
        rw [hs] at h
        rw [Except.error.inj htext]
        exact h
      | ok text' =>
        rw [hs, ht] at htext
        cases htext
    | ok text =>
      cases ht : fileText t with
      | error e'' =>
        rw [hs, ht] at htext
        cases htext
      | ok text' =>
        rw [hs] at h
        exact Store.write_of_write_error h _

/-- The session is what was saved last under its key, and another one can be saved in its place. -/
structure Saved (store : Store) (s : Session) (f : Files) : Prop where
  ready : ∃ path text, s.key.path = .ok path ∧ fileText s = .ok text ∧
    Store.Ready store path f (store.placeBelow f path) ∧
      f.nodeAt (store.placeBelow f path) = some (.file (Text.Utf8.encode text))

theorem saved_of_save {s : Session} (h : save store s f = (.ok (), g)) : Saved store s g := by
  rw [save_apply] at h
  cases hpath : s.key.path with
  | error e =>
    rw [hpath] at h
    cases (Prod.mk.inj h).1
  | ok path =>
    cases htext : fileText s with
    | error e =>
      rw [hpath, htext] at h
      cases (Prod.mk.inj h).1
    | ok text =>
      rw [hpath, htext] at h
      obtain ⟨hready, hnode⟩ := Store.ready_of_write (Store.isLasting_placeBelow hpath store f) h
      have hsame := (Store.placeOf_eq_ok hready.placeOf).1
      rw [hsame] at hready hnode
      exact ⟨path, text, hpath, htext, hready, hnode⟩

/-- A file of a session fits where its temporary file does. -/
theorem fits_of_ready {path : String} (hpath : key.path = .ok path)
    (h : Store.Ready store path f (store.placeBelow f path)) : Store.isTooLong (store.placeBelow f path) = false := by
  obtain ⟨dir, hdir⟩ := Store.exists_placeBelow hpath store f
  obtain ⟨n, hn, -, -⟩ := Store.tempFor_spec f (store.placeBelow f path)
  have htemp := h.fits
  rw [hn, hdir] at htemp
  rw [hdir]
  exact Store.not_isTooLong_fileName (SessionKey.path_eq_ok hpath).1 htemp

/-- Where a session was saved, another one of its key is saved, and nothing else changes. -/
theorem save_of_saved {s t : Session} (h : Saved store s f) (hkey : t.key = s.key)
    (htext : ∃ text, fileText t = .ok text) :
    ∃ g, save store t f = (.ok (), g) ∧ Saved store t g ∧ Files.Alike s.key.Names f g := by
  obtain ⟨path, text, hpath, -, hready, hnode⟩ := h.ready
  obtain ⟨text', htext'⟩ := htext
  have hlast := Store.isLasting_placeBelow hpath store f
  obtain ⟨g, hwrite, hwritten, -⟩ := Store.write_of_ready hlast hready (fits_of_ready hpath hready)
    (Text.Utf8.encode text')
  have hsave : save store t f = (.ok (), g) := by
    rw [save_apply, hkey, hpath, htext']
    exact hwrite
  refine ⟨g, hsave, saved_of_save hsave, hwritten.workDir, hwritten.home, hwritten.homes, fun q => ?_⟩
  by_cases hq : q = store.placeBelow f path
  · exact .inr ⟨hq ▸ names_placeBelow hpath store f, ⟨_, hq ▸ hnode⟩, _, hq ▸ hwritten.self⟩
  · exact .inl (hwritten.others q hq)

/-- What is saved takes the place of what was saved under its key before. -/
theorem save_of_save_save {s t : Session} {k : Files} (h : save store s f = (.ok (), g)) (hkey : t.key = s.key)
    (h' : save store t g = (.ok (), k)) : save store t f = (.ok (), k) := by
  obtain ⟨path, text, hpath, htext, -⟩ := (saved_of_save h).ready
  obtain ⟨-, text', -, htext', -⟩ := (saved_of_save h').ready
  rw [save_apply, hpath, htext] at h
  rw [save_apply, hkey, hpath, htext'] at h' ⊢
  exact (Store.write_write (Store.isLasting_placeBelow hpath store f) h).symm.trans h'

/-- A session that was saved is loaded under every key that shares its file, with the values of JSON for its
own. -/
theorem load_of_sharesFile {s : Session} (h : Saved store s f) (hkey : s.key.SharesFile key) (now : String) :
    load store f now key = .ok s.stored := by
  obtain ⟨path, text, hpath, htext, hready, hnode⟩ := h.ready
  have hfits := fits_of_ready hpath hready
  have hread : store.read f path = .ok (Text.Utf8.encode text) :=
    Store.read_of_ready hready Files.not_mem_resolve_dots (Store.isLasting_placeBelow hpath store f).1 hfits
      hnode
  have hbelongs : belongs s.stored key = true := belongs_iff_sharesFile.mpr hkey
  exact load_eq_ok_iff.mpr
    ⟨path, _, SessionKey.path_of_sharesFile hkey hpath, hread, decode_fileText htext now, hbelongs⟩

/-- A session that was saved is loaded with the values of JSON for its own. -/
theorem load_of_saved {s : Session} (h : Saved store s f) (now : String) :
    load store f now s.key = .ok s.stored :=
  load_of_sharesFile h (.refl _) now

/-! ## In the middle of a save -/

/-- The files at some time while a session is saved, before it stands in its file. -/
def Midway (store : Store) (s : Session) (f g : Files) : Prop :=
  ∃ path text, s.key.path = .ok path ∧ fileText s = .ok text ∧
    Store.Midway store path (Text.Utf8.encode text) f g

/-- What is loaded is loaded as well when there are more files. -/
theorem load_of_extends (h : f.Extends g) {now : String} {s : Session} (hload : load store f now key = .ok s) :
    load store g now key = .ok s := by
  obtain ⟨path, bytes, hpath, hread, hdecode, hbelongs⟩ := load_eq_ok_iff.mp hload
  exact load_eq_ok_iff.mpr ⟨path, bytes, hpath, Store.read_of_extends h hread, hdecode, hbelongs⟩

/-- A save that failed leaves what was there. -/
theorem extends_of_save_error {s : Session} {e : Fault} (h : save store s f = (.error e, g)) : f.Extends g := by
  rw [save_apply] at h
  cases hpath : s.key.path with
  | error e' =>
    rw [hpath] at h
    obtain ⟨-, rfl⟩ := Prod.mk.inj h
    exact .refl f
  | ok path =>
    cases htext : fileText s with
    | error e' =>
      rw [hpath, htext] at h
      obtain ⟨-, rfl⟩ := Prod.mk.inj h
      exact .refl f
    | ok text =>
      rw [hpath, htext] at h
      exact Store.extends_of_write_error h

/-- In the middle of a save what was loaded before is still loaded. -/
theorem Midway.load_eq {s t : Session} (h : Midway store t f g) {now : String}
    (hload : load store f now key = .ok s) : load store g now key = .ok s := by
  obtain ⟨path, text, -, -, hmidway⟩ := h
  exact load_of_extends hmidway.extends hload

end Runbook.Repository
