import Runbook.Proofs.Files.Tree

/-! Files that differ in the content of some of them only: what they are asked about paths, and what becomes
of them by a write, is the same. -/

namespace Runbook.Files

/-- The files are the same, but for the content of those at the places of `N`. -/
structure Alike (N : Place → Prop) (f g : Files) : Prop where
  workDir : g.workDir = f.workDir
  home : g.home = f.home
  homes : g.homes = f.homes
  nodes : ∀ q, g.nodeAt q = f.nodeAt q ∨
    N q ∧ (∃ a, f.nodeAt q = some (.file a)) ∧ ∃ b, g.nodeAt q = some (.file b)

variable {N : Place → Prop} {f g : Files}

namespace Alike

theorem refl (N : Place → Prop) (f : Files) : Alike N f f := ⟨rfl, rfl, rfl, fun _ => .inl rfl⟩

theorem trans {h : Files} (hfg : Alike N f g) (hgh : Alike N g h) : Alike N f h where
  workDir := hgh.workDir.trans hfg.workDir
  home := hgh.home.trans hfg.home
  homes := hgh.homes.trans hfg.homes
  nodes q := by
    rcases hfg.nodes q with heq | ⟨hN, hf, a, ha⟩ <;> rcases hgh.nodes q with heq' | ⟨hN', ⟨b, hb⟩, hh⟩
    · exact .inl (heq'.trans heq)
    · exact .inr ⟨hN', ⟨b, heq ▸ hb⟩, hh⟩
    · exact .inr ⟨hN, hf, a, heq'.trans ha⟩
    · exact .inr ⟨hN, hf, hh⟩

theorem symm (h : Alike N f g) : Alike N g f where
  workDir := h.workDir.symm
  home := h.home.symm
  homes := h.homes.symm
  nodes q := by
    rcases h.nodes q with heq | ⟨hN, hf, hg⟩
    · exact .inl heq.symm
    · exact .inr ⟨hN, hg, hf⟩

/-! ## Kinds of nodes -/

theorem directory_iff (h : Alike N f g) (q : Place) :
    g.nodeAt q = some .directory ↔ f.nodeAt q = some .directory := by
  rcases h.nodes q with heq | ⟨-, ⟨a, ha⟩, b, hb⟩
  · rw [heq]
  · rw [ha, hb]
    exact iff_of_false nofun nofun

theorem none_iff (h : Alike N f g) (q : Place) : g.nodeAt q = none ↔ f.nodeAt q = none := by
  rcases h.nodes q with heq | ⟨-, ⟨a, ha⟩, b, hb⟩
  · rw [heq]
  · rw [ha, hb]
    exact iff_of_false nofun nofun

theorem exists_file (h : Alike N f g) {q : Place} {a : List UInt8} (hq : f.nodeAt q = some (.file a)) :
    ∃ b, g.nodeAt q = some (.file b) := by
  rcases h.nodes q with heq | ⟨-, -, hb⟩
  · exact ⟨a, heq.trans hq⟩
  · exact hb

theorem isSome_eq (h : Alike N f g) (q : Place) : (g.nodeAt q).isSome = (f.nodeAt q).isSome := by
  rcases h.nodes q with heq | ⟨-, ⟨a, ha⟩, b, hb⟩
  · rw [heq]
  · rw [ha, hb]
    rfl

/-! ## Changes -/

/-- The same node is put at a place. -/
theorem put (h : Alike N f g) (p : Place) (n : FileNode) : Alike N (f.put p n) (g.put p n) where
  workDir := h.workDir
  home := h.home
  homes := h.homes
  nodes q := by
    by_cases hq : p = q
    · subst hq
      by_cases hp : p = []
      · subst hp
        exact .inl rfl
      · exact .inl ((nodeAt_put_self g hp n).trans (nodeAt_put_self f hp n).symm)
    · rw [nodeAt_put_of_ne g hq, nodeAt_put_of_ne f hq]
      exact h.nodes q

/-- Files of different content are put at a place where this does not matter. -/
theorem putFile (h : Alike N f g) {p : Place} (hp : N p) (a b : List UInt8) :
    Alike N (f.put p (.file a)) (g.put p (.file b)) where
  workDir := h.workDir
  home := h.home
  homes := h.homes
  nodes q := by
    by_cases hq : p = q
    · subst hq
      by_cases hnil : p = []
      · subst hnil
        exact .inl rfl
      · exact .inr ⟨hp, ⟨a, nodeAt_put_self f hnil _⟩, b, nodeAt_put_self g hnil _⟩
    · rw [nodeAt_put_of_ne g hq, nodeAt_put_of_ne f hq]
      exact h.nodes q

theorem mono {M : Place → Prop} (h : Alike N f g) (hNM : ∀ q, N q → M q) : Alike M f g :=
  ⟨h.workDir, h.home, h.homes, fun q => (h.nodes q).imp_right fun hq => ⟨hNM q hq.1, hq.2⟩⟩

/-- Where a place is erased, it does not matter what was there. -/
theorem erase_of_or {p : Place} (h : Alike (fun q => N q ∨ q = p) f g) :
    Alike N (f.erase p) (g.erase p) where
  workDir := h.workDir
  home := h.home
  homes := h.homes
  nodes q := by
    by_cases hq : p = q
    · subst hq
      by_cases hp : p = []
      · subst hp
        exact .inl rfl
      · exact .inl ((nodeAt_erase_self g hp).trans (nodeAt_erase_self f hp).symm)
    · rw [nodeAt_erase_of_ne g hq, nodeAt_erase_of_ne f hq]
      exact (h.nodes q).imp_right fun ⟨hN, hfiles⟩ => ⟨hN.resolve_right (Ne.symm hq), hfiles⟩

theorem erase (h : Alike N f g) (p : Place) : Alike N (f.erase p) (g.erase p) :=
  erase_of_or (h.mono fun _ => .inl)

/-! ## Paths -/

/-- A path leads to a node in both or in neither. -/
theorem walk (h : Alike N f g) (shown : String) (here names : Place) :
    (g.walk shown here names).map (fun p => p.2.isSome) =
      (f.walk shown here names).map fun p => p.2.isSome := by
  induction names generalizing here with
  | nil =>
    rw [Files.walk, Files.walk]
    exact congrArg Except.ok (h.isSome_eq here)
  | cons name rest ih =>
    rw [Files.walk, Files.walk]
    cases hf : f.nodeAt here with
    | none => rw [(h.none_iff here).mpr hf]
    | some n =>
      cases n with
      | directory =>
        rw [(h.directory_iff here).mpr hf]
        dsimp only
        split_ifs
        · exact ih _
        · rfl
        · exact ih _
      | file a =>
        obtain ⟨b, hb⟩ : ∃ b, g.nodeAt here = some (.file b) := by
          rcases h.nodes here with heq | ⟨-, -, hb⟩
          · exact ⟨a, heq.trans hf⟩
          · exact hb
        rw [hb]

theorem locate (h : Alike N f g) (p : PathName) :
    (g.locate p).map (fun q => q.2.isSome) = (f.locate p).map fun q => q.2.isSome := by
  unfold Files.locate
  dsimp only
  split_ifs
  · rfl
  · rfl
  · exact h.walk p.display [] p.parts
  · rw [h.workDir]
    exact h.walk p.display f.workDir p.parts

theorem isThere_eq (f : Files) (p : PathName) :
    f.isThere p =
      match (f.locate p).map (fun q => q.2.isSome) with
      | .ok b => .ok b
      | .error e =>
        if e.kind = .fileMissing ∨ e.kind = .notDirectory ∨ e.kind = .refusedValue then .ok false
        else .error e := by
  unfold Files.isThere find? stat
  cases hlocate : f.locate p with
  | error e =>
    dsimp only [Except.map]
    split_ifs <;> rfl
  | ok found =>
    obtain ⟨place, node⟩ := found
    cases node with
    | some n => rfl
    | none => rfl

theorem isThere (h : Alike N f g) (p : PathName) : g.isThere p = f.isThere p := by
  rw [isThere_eq, isThere_eq, h.locate p]

/-- Whether there is something at a path is the same in both. -/
theorem isThereFrom (h : Alike N f g) (dir : Option String) (path : String) :
    g.isThereFrom dir path = f.isThereFrom dir path := by
  have hhome : g.expandHome (.ofText path) = f.expandHome (.ofText path) := by
    unfold expandHome
    rw [h.home, h.homes]
  unfold Files.isThereFrom
  rw [hhome]
  cases f.expandHome (.ofText path) with
  | error e => rfl
  | ok p =>
    cases dir with
    | none => exact h.isThere p
    | some d =>
      change (if _ then g.isThere p else g.isThere _) = if _ then f.isThere p else f.isThere _
      rw [h.isThere, h.isThere]

/-- What is read at a path that takes nothing back is the same, if it is none of the files that differ. -/
theorem read (h : Alike N f g) {place : Place} (hdots : ".." ∉ place) (hplace : ¬N place) :
    g.read ⟨true, place⟩ = f.read ⟨true, place⟩ := by
  have hnode : g.nodeAt place = f.nodeAt place := (h.nodes place).resolve_right fun hq => hplace hq.1
  have hlocate : g.locate ⟨true, place⟩ = f.locate ⟨true, place⟩ := by
    unfold Files.locate
    dsimp only
    rw [if_pos rfl, if_pos rfl]
    split_ifs
    · rfl
    · rfl
    · have hwalk := h.walk (PathName.display ⟨true, place⟩) [] place
      cases hf : f.walk (PathName.display ⟨true, place⟩) [] place with
      | error i =>
        cases hg : g.walk (PathName.display ⟨true, place⟩) [] place with
        | error j =>
          rw [hf, hg] at hwalk
          exact congrArg _ (Except.error.inj hwalk)
        | ok found =>
          rw [hf, hg] at hwalk
          cases hwalk
      | ok found =>
        cases hg : g.walk (PathName.display ⟨true, place⟩) [] place with
        | error j =>
          rw [hf, hg] at hwalk
          cases hwalk
        | ok found' =>
          rw [walk_eq_ok hdots hf, walk_eq_ok hdots hg, List.nil_append, hnode]
  unfold Files.read Files.stat
  rw [hlocate]

end Alike

end Runbook.Files
