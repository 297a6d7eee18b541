import Runbook.Proofs.Workflow.Build

/-! Which file defines a workflow of a given name, and whether the name in the document of that file leads to
the file again. -/

namespace Runbook.Library

variable {f g : Files} {dirs : List String} {name : String} {ps : List PathName} {p : PathName} {w : Workflow}

/-- The first of the files whose document has a name. -/
def IsFirstNamed (f : Files) (name : String) (ps : List PathName) (p : PathName) : Prop :=
  ∃ before after, ps = before ++ p :: after ∧ (∀ q ∈ before, isNamed f name q = .ok false) ∧
    isNamed f name p = .ok true

theorem firstNamed_cons (f : Files) (name : String) (p : PathName) (ps : List PathName) :
    firstNamed f name (p :: ps) =
      match isNamed f name p with
      | .error e => .error e
      | .ok true => .ok (some p)
      | .ok false => firstNamed f name ps := by
  rw [firstNamed]
  cases isNamed f name p with
  | error e => rfl
  | ok b => cases b <;> rfl

theorem firstNamed_eq_some_iff : firstNamed f name ps = .ok (some p) ↔ IsFirstNamed f name ps p := by
  induction ps with
  | nil =>
    refine ⟨fun h => ?_, fun ⟨before, after, hps, _⟩ => ?_⟩
    · rw [firstNamed] at h
      cases Except.ok.inj h
    · cases before <;> cases hps
  | cons q ps ih =>
    rw [firstNamed_cons]
    constructor
    · intro h
      cases hq : isNamed f name q with
      | error e =>
        rw [hq] at h
        cases h
      | ok b =>
        rw [hq] at h
        cases b with
        | true =>
          obtain rfl := Option.some.inj (Except.ok.inj h)
          exact ⟨[], ps, rfl, nofun, hq⟩
        | false =>
          obtain ⟨before, after, rfl, hbefore, hp⟩ := ih.mp h
          refine ⟨q :: before, after, rfl, fun r hr => ?_, hp⟩
          rcases List.mem_cons.mp hr with rfl | hr
          · exact hq
          · exact hbefore r hr
    · rintro ⟨before, after, hps, hbefore, hp⟩
      cases before with
      | nil =>
        obtain ⟨rfl, rfl⟩ := List.cons.inj hps
        rw [hp]
      | cons r before =>
        obtain ⟨rfl, rfl⟩ := List.cons.inj hps
        rw [hbefore q List.mem_cons_self]
        exact ih.mpr ⟨before, after, rfl, fun r hr => hbefore r (List.mem_cons_of_mem q hr), hp⟩

/-- A workflow is defined by the first file with its name as the stem, else by the first one with the name in
its document. -/
theorem find?_eq_some_iff (hps : files f dirs = .ok ps) :
    find? f dirs name = .ok (some p) ↔
      ps.find? (·.stem == name) = some p ∨ (∀ q ∈ ps, q.stem ≠ name) ∧ IsFirstNamed f name ps p := by
  have hfind : find? f dirs name =
      (ps.find? (·.stem == name)).elim (firstNamed f name ps) fun q => .ok (some q) := by
    unfold find?
    rw [hps]
    cases hstem : ps.find? (·.stem == name) <;> simp [bind, Except.bind, pure, Except.pure, hstem]
  rw [hfind]
  cases hstem : ps.find? (·.stem == name) with
  | some q =>
    have hq : q.stem = name := by simpa using List.find?_some hstem
    simp only [Option.elim_some, Except.ok.injEq]
    refine ⟨.inl, fun h => h.resolve_right fun hnone => ?_⟩
    exact hnone.1 q (List.mem_of_find?_eq_some hstem) hq
  | none =>
    have hnone : ∀ q ∈ ps, q.stem ≠ name := by simpa using List.find?_eq_none.mp hstem
    rw [Option.elim_none, firstNamed_eq_some_iff]
    refine ⟨fun h => .inr ⟨hnone, h⟩, fun h => ?_⟩
    rcases h with hsome | ⟨-, hfirst⟩
    · cases hsome
    · exact hfirst

theorem exists_files_of_find? (h : find? f dirs name = .ok (some p)) : ∃ ps, files f dirs = .ok ps := by
  unfold find? at h
  cases hps : files f dirs with
  | error e =>
    rw [hps] at h
    cases h
  | ok ps => exact ⟨ps, rfl⟩

/-! ## The name in the document -/

theorem isNamed_of_load (h : load f p = .ok w) : isNamed f name p = .ok (w.name == name) := by
  obtain ⟨doc, hdoc, hbuild⟩ := load_eq_ok h
  unfold isNamed
  rw [hdoc]
  simp only [Workflow.name_of_build hbuild]

/-- The name in the document of a file leads to the file again: it is the name under which the file was found,
or no file has it as the stem and no file before has it in its document. -/
def LeadsBack (f : Files) (name : String) (ps : List PathName) (p : PathName) (w : Workflow) : Prop :=
  w.name = name ∨ (∀ q ∈ ps, q.stem ≠ w.name) ∧ IsFirstNamed f w.name ps p

/-- The workflow of a file that was found is found in that file under its own name exactly if that name leads
back. -/
theorem find?_name_iff (hps : files f dirs = .ok ps) (hfind : find? f dirs name = .ok (some p))
    (hload : load f p = .ok w) : find? f dirs w.name = .ok (some p) ↔ LeadsBack f name ps p w := by
  constructor
  · intro h
    rcases (find?_eq_some_iff hps).mp h with hstem | hnamed
    · have hw : p.stem = w.name := by simpa using List.find?_some hstem
      rcases (find?_eq_some_iff hps).mp hfind with hstem' | ⟨-, -, -, -, -, hp⟩
      · have hname : p.stem = name := by simpa using List.find?_some hstem'
        exact .inl (hw.symm.trans hname)
      · rw [isNamed_of_load hload] at hp
        exact .inl (by simpa using Except.ok.inj hp)
    · exact .inr hnamed
  · rintro (rfl | hnamed)
    · exact hfind
    · exact (find?_eq_some_iff hps).mpr (.inr hnamed)

/-! ## Directories that stay as they are -/

/-- The workflow files are the same, and so is what they say. -/
structure Same (dirs : List String) (f g : Files) : Prop where
  files : Library.files g dirs = Library.files f dirs
  content : ∀ ps, Library.files f dirs = .ok ps → ∀ p ∈ ps, g.readText p = f.readText p

namespace Same

theorem refl (dirs : List String) (f : Files) : Same dirs f f := ⟨rfl, fun _ _ _ _ => rfl⟩

theorem document_eq (h : g.readText p = f.readText p) : document g p = document f p := by
  unfold document
  rw [h]

theorem firstNamed_eq (h : ∀ p ∈ ps, g.readText p = f.readText p) : firstNamed g name ps = firstNamed f name ps := by
  induction ps with
  | nil => rfl
  | cons p ps ih =>
    have hp : isNamed g name p = isNamed f name p := by
      unfold isNamed
      rw [document_eq (h p List.mem_cons_self)]
    rw [firstNamed_cons, firstNamed_cons, hp, ih fun q hq => h q (List.mem_cons_of_mem p hq)]

theorem find?_eq (h : Same dirs f g) (name : String) : find? g dirs name = find? f dirs name := by
  unfold Library.find?
  rw [h.files]
  cases hps : Library.files f dirs with
  | error e => rfl
  | ok ps =>
    simp only [bind, Except.bind]
    rw [firstNamed_eq (h.content ps hps)]

theorem mem_files (hps : Library.files f dirs = .ok ps) (hfind : find? f dirs name = .ok (some p)) : p ∈ ps := by
  rcases (find?_eq_some_iff hps).mp hfind with hstem | ⟨-, before, after, rfl, -⟩
  · exact List.mem_of_find?_eq_some hstem
  · exact List.mem_append_right before List.mem_cons_self

theorem load_eq (h : Same dirs f g) (hfind : find? f dirs name = .ok (some p)) : load g p = load f p := by
  obtain ⟨ps, hps⟩ := exists_files_of_find? hfind
  unfold load
  rw [document_eq (h.content ps hps p (mem_files hps hfind))]

/-- A workflow that was found is found again. -/
theorem get_eq (h : Same dirs f g) (hfind : find? f dirs name = .ok (some p)) (hload : load f p = .ok w) :
    get g dirs name = .ok w := by
  rw [get_of_find? ((h.find?_eq name).trans hfind), h.load_eq hfind, hload]

end Same

end Runbook.Library
