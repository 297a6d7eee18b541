import Runbook.Proofs.Each
import Runbook.Proofs.Session.Faults
import Runbook.Proofs.Workflow.Lookup
import Runbook.Proofs.Workflow.Totality

/-! Which workflow files have an entry in the listing. A file that cannot be read, is no document or has problems
has one that tells so; where a file can have none, there is no listing at all. -/

namespace Runbook

/-! ## Failures of the system -/

namespace Files

variable {α β : Type}

/-- The result is no failure but one of the system. -/
def OnlySystem (r : Except Incident α) : Prop := ∀ i, r = .error i → i.kind.isSystem = true

theorem onlySystem_ok (a : α) : OnlySystem (.ok a : Except Incident α) := nofun

theorem OnlySystem.bind {r : Except Incident α} {g : α → Except Incident β} (h : OnlySystem r)
    (hg : ∀ a, r = .ok a → OnlySystem (g a)) : OnlySystem (r >>= g) := by
  cases r with
  | ok a => exact hg a rfl
  | error i => exact fun j hj => h j (congrArg Except.error (Except.error.inj hj))

theorem onlySystem_walk (f : Files) (shown : String) (here : Place) (names : List String) :
    OnlySystem (f.walk shown here names) := by
  induction names generalizing here with
  | nil => exact onlySystem_ok _
  | cons name rest ih =>
    unfold walk
    split
    · exact fun i hi => Except.error.inj hi ▸ rfl
    · exact fun i hi => Except.error.inj hi ▸ rfl
    · split_ifs
      · exact ih _
      · exact fun i hi => Except.error.inj hi ▸ rfl
      · exact ih _

/-- A path is refused or cannot be followed. -/
theorem kind_of_locate_error {f : Files} {p : PathName} {i : Incident} (h : f.locate p = .error i) :
    i.kind = .refusedValue ∨ i.kind.isSystem = true := by
  unfold locate at h
  dsimp only at h
  split_ifs at h
  · exact .inl (Except.error.inj h ▸ rfl)
  · exact .inr (Except.error.inj h ▸ rfl)
  · exact .inr (onlySystem_walk f _ _ _ i h)
  · exact .inr (onlySystem_walk f _ _ _ i h)

theorem onlySystem_find? (f : Files) (p : PathName) : OnlySystem (f.find? p) := by
  intro i h
  unfold find? at h
  split at h
  · cases h
  · rename_i e he
    split_ifs at h with hkind
    obtain rfl := Except.error.inj h
    unfold stat at he
    split at he
    · cases he
    · obtain rfl := Except.error.inj he
      rfl
    · rename_i hlocate
      obtain rfl := Except.error.inj he
      refine (kind_of_locate_error hlocate).resolve_left fun hrefused => hkind (.inr (.inr hrefused))

theorem onlySystem_map {r : Except Incident α} (h : OnlySystem r) (g : α → β) : OnlySystem (r.map g) := by
  cases r with
  | ok a => exact onlySystem_ok _
  | error i => exact fun j hj => h j (congrArg Except.error (Except.error.inj hj))

/-- The way to a directory can be followed. -/
theorem locate_of_isDirectory {f : Files} {p : PathName} (h : f.isDirectory p = .ok true) :
    ∃ found, f.locate p = .ok found := by
  cases hlocate : f.locate p with
  | ok found => exact ⟨found, rfl⟩
  | error i =>
    have hstat : f.stat p = .error i := by rw [stat, hlocate]
    unfold isDirectory find? at h
    rw [hstat] at h
    dsimp only at h
    split_ifs at h
    · cases h
    · cases h

theorem onlySystem_filterAuxM {test : α → Except Incident Bool} (h : ∀ a, OnlySystem (test a)) (as kept : List α) :
    OnlySystem (as.filterAuxM test kept) := by
  induction as generalizing kept with
  | nil => exact onlySystem_ok _
  | cons a as ih => exact (h a).bind fun b _ => ih _

end Files

namespace Library

variable {f : Files} {dirs : List String} {ps : List PathName} {p : PathName}

/-- Every directory has its workflow files, if only none. -/
theorem exists_filesIn (f : Files) (dir : PathName) : ∃ ps, filesIn f dir = .ok ps := by
  unfold filesIn
  dsimp only
  split
  · exact ⟨_, rfl⟩
  · rename_i i h
    suffices hsystem : i.kind.isSystem = true from ⟨[], if_pos hsystem⟩
    refine Files.OnlySystem.bind (Files.onlySystem_map (Files.onlySystem_find? f dir) _) (fun there hthere => ?_) i h
    cases there with
    | false => exact Files.onlySystem_ok _
    | true =>
      obtain ⟨found, hfound⟩ := Files.locate_of_isDirectory hthere
      refine Files.OnlySystem.bind (by rw [hfound]; exact Files.onlySystem_ok _) fun place _ => ?_
      refine Files.OnlySystem.bind ?_ fun kept _ => Files.onlySystem_ok _
      exact Files.onlySystem_filterAuxM
        (fun q => Files.onlySystem_map (Files.onlySystem_find? f q) _) _ _

/-- There are the files of all directories where each tilde stands for a directory. -/
theorem exists_files_iff (f : Files) (dirs : List String) :
    (∃ ps, files f dirs = .ok ps) ↔ ∀ dir ∈ dirs, ∃ path, f.expandHome (.ofText dir) = .ok path := by
  induction dirs with
  | nil => exact ⟨fun _ => nofun, fun _ => ⟨[], rfl⟩⟩
  | cons dir dirs ih =>
    rw [List.forall_mem_cons, ← ih, files]
    cases f.expandHome (.ofText dir) with
    | error i => simp [bind, Except.bind, Except.mapError]
    | ok path =>
      obtain ⟨found, hfound⟩ := exists_filesIn f path
      cases files f dirs <;> simp [bind, Except.bind, pure, Except.pure, Except.mapError, hfound]

/-! ## Entries -/

/-- The entry of a workflow file: that of its workflow, or one with the failure under the stem of the file. -/
inductive IsEntry (f : Files) (p : PathName) : Listing → Prop where
  | valid {w : Workflow} (hload : load f p = .ok w) : IsEntry f p ⟨w.name, p.display, true, none, w.description⟩
  | invalid {e : Failure} (hload : load f p = .error (.failure e)) (hkind : e.kind = .validation) :
    IsEntry f p ⟨p.stem, p.display, false, some e.message, none⟩

theorem listing_eq_ok_iff {l : Listing} : listing f p = .ok l ↔ IsEntry f p l := by
  constructor
  · intro h
    unfold listing at h
    split at h
    · rename_i w hload
      obtain rfl := Except.ok.inj h
      exact .valid hload
    · rename_i e hload
      split_ifs at h with hkind
      obtain rfl := Except.ok.inj h
      exact .invalid hload hkind
    · cases h
  · rintro (hload | ⟨hload, hkind⟩)
    · rw [listing, hload]
    · rw [listing, hload]
      exact if_pos hkind

theorem IsEntry.unique {l k : Listing} (h : IsEntry f p l) (h' : IsEntry f p k) : l = k :=
  Except.ok.inj ((listing_eq_ok_iff.mpr h).symm.trans (listing_eq_ok_iff.mpr h'))

/-- A file can have an entry: the system does not let it be read, it is text that is no document, or each of the
steps in its document can be checked. Bytes that are no text are no such file, nor is a document with a scalar
whose value cannot be. -/
def IsListable (f : Files) (p : PathName) : Prop :=
  match f.readText p with
  | .error i => i.kind.isSystem = true
  | .ok text =>
    match Yaml.read text with
    | .error e => e.isOfDocument = true
    | .ok doc => ∀ v ∈ Report.stepsOf doc, v.isMap = true → Report.IsCheckable v

/-- The result tells what becomes of a workflow: it is one, or the validation failed. -/
def IsSettled (r : Except Fault Workflow) : Prop :=
  (∃ w, r = .ok w) ∨ ∃ e : Failure, r = .error (.failure e) ∧ e.kind = .validation

theorem exists_listing_iff_isSettled : (∃ l, listing f p = .ok l) ↔ IsSettled (load f p) := by
  simp only [listing_eq_ok_iff]
  constructor
  · rintro ⟨l, hload | ⟨hload, hkind⟩⟩
    · exact .inl ⟨_, hload⟩
    · exact .inr ⟨_, hload, hkind⟩
  · rintro (⟨w, hload⟩ | ⟨e, hload, hkind⟩)
    · exact ⟨_, .valid hload⟩
    · exact ⟨_, .invalid hload hkind⟩

theorem not_isSettled_incident (i : Incident) : ¬IsSettled (.error (.incident i)) := by
  rintro (⟨w, h⟩ | ⟨e, h, -⟩) <;> cases h

theorem isSettled_failure {e : Failure} (h : e.kind = .validation) : IsSettled (.error (.failure e)) :=
  .inr ⟨e, rfl, h⟩

/-- What becomes of a document is told exactly if there is a report on it. -/
theorem isSettled_build_iff (doc : Value) :
    IsSettled (Workflow.build doc) ↔ ∃ r, Report.ofValue doc = .ok r := by
  have honly : Fault.Only (fun e => ∃ i, e = .incident i) (Report.ofValue doc) :=
    Report.only_ofValue (fun i => ⟨i, rfl⟩) doc
  unfold Workflow.build
  cases hreport : Report.ofValue doc with
  | error e =>
    obtain ⟨i, rfl⟩ := honly e hreport
    exact iff_of_false (not_isSettled_incident i) nofun
  | ok r =>
    refine iff_of_true ?_ ⟨r, rfl⟩
    dsimp only
    split_ifs
    · exact isSettled_failure rfl
    · split
      · exact .inl ⟨_, rfl⟩
      · exact isSettled_failure rfl

/-- A file has an entry exactly if it can have one. -/
theorem exists_listing_iff : (∃ l, listing f p = .ok l) ↔ IsListable f p := by
  rw [exists_listing_iff_isSettled, load, IsListable, document]
  cases f.readText p with
  | error i =>
    dsimp only
    split_ifs with hsystem
    · exact iff_of_true (isSettled_failure rfl) hsystem
    · exact iff_of_false (not_isSettled_incident i) hsystem
  | ok text =>
    dsimp only [Workflow.documentOf]
    cases Yaml.read text with
    | ok doc => exact (isSettled_build_iff doc).trans Report.exists_ofValue_iff
    | error e =>
      dsimp only
      split_ifs with hdocument
      · exact iff_of_true (isSettled_failure rfl) hdocument
      · exact iff_of_false (not_isSettled_incident _) hdocument

/-! ## Entries of one name -/

/-- An entry is kept if none before has its name. -/
theorem mem_firstOfName_iff {ls : List Listing} {l : Listing} :
    l ∈ firstOfName ls ↔ ∃ before after, ls = before ++ l :: after ∧ ∀ k ∈ before, k.name ≠ l.name := by
  induction ls with
  | nil => simp [firstOfName]
  | cons k ls ih =>
    rw [firstOfName, List.mem_cons, List.mem_filter, ih]
    constructor
    · rintro (rfl | ⟨⟨before, after, rfl, hbefore⟩, hname⟩)
      · exact ⟨[], ls, rfl, nofun⟩
      · refine ⟨k :: before, after, rfl, List.forall_mem_cons.mpr ⟨?_, hbefore⟩⟩
        simpa using Ne.symm (bne_iff_ne.mp hname)
    · rintro ⟨before, after, hls, hbefore⟩
      cases before with
      | nil => exact .inl (List.cons.inj hls).1.symm
      | cons b before =>
        obtain ⟨rfl, rfl⟩ := List.cons.inj hls
        obtain ⟨hname, hbefore⟩ := List.forall_mem_cons.mp hbefore
        exact .inr ⟨⟨before, after, rfl, hbefore⟩, bne_iff_ne.mpr (Ne.symm hname)⟩

/-- Where an entry is not kept, one before it has its name. -/
theorem mem_firstOfName_or (before after : List Listing) (l : Listing) :
    l ∈ firstOfName (before ++ l :: after) ∨
      ∃ k ∈ before, k.name = l.name ∧ k ∈ firstOfName (before ++ l :: after) := by
  induction before with
  | nil => exact .inl List.mem_cons_self
  | cons b before ih =>
    rw [List.cons_append, firstOfName]
    by_cases hname : b.name = l.name
    · exact .inr ⟨b, List.mem_cons_self, hname, List.mem_cons_self⟩
    · have hkept {k : Listing} (hk : k ∈ firstOfName (before ++ l :: after)) (heq : k.name = l.name) :
          k ∈ b :: (firstOfName (before ++ l :: after)).filter (·.name != b.name) :=
        List.mem_cons_of_mem b
          (List.mem_filter.mpr ⟨hk, bne_iff_ne.mpr fun h => hname (h.symm.trans heq)⟩)
      rcases ih with hl | ⟨k, hk, heq, hmem⟩
      · exact .inl (hkept hl rfl)
      · exact .inr ⟨k, List.mem_cons_of_mem b hk, heq, hkept hmem heq⟩

/-! ## The listing -/

/-- The listing is made of the first entries of all files found. -/
theorem list_eq_ok_iff {ls : List Listing} :
    list f dirs = .ok ls ↔
      ∃ ps all, files f dirs = .ok ps ∧ List.Forall₂ (IsEntry f) ps all ∧ ls = firstOfName all := by
  have hentries (ps : List PathName) (all : List Listing) :
      ps.mapM (listing f) = .ok all ↔ List.Forall₂ (IsEntry f) ps all := by
    simp only [mapM_eq_ok_iff, listing_eq_ok_iff]
  simp only [← hentries]
  unfold list
  simp only [bind_eq_ok_iff]
  constructor
  · rintro ⟨ps, hps, all, hall, h⟩
    exact ⟨ps, all, hps, hall, (Except.ok.inj h).symm⟩
  · rintro ⟨ps, all, hps, hall, rfl⟩
    exact ⟨ps, hps, all, hall, rfl⟩

/-- Every file found has its own entry in a listing, or one before it has its name. -/
theorem exists_entry_of_list {ls : List Listing} (h : list f dirs = .ok ls) :
    ∃ ps, files f dirs = .ok ps ∧ ∀ before p after, ps = before ++ p :: after →
      ∃ l, IsEntry f p l ∧ (l ∈ ls ∨ ∃ q ∈ before, ∃ k, IsEntry f q k ∧ k.name = l.name ∧ k ∈ ls) := by
  obtain ⟨ps, all, hps, hall, rfl⟩ := list_eq_ok_iff.mp h
  refine ⟨ps, hps, fun before p after hsplit => ?_⟩
  subst hsplit
  obtain ⟨front, l, back, rfl, hfront, hl⟩ := forall₂_split hall
  refine ⟨l, hl, ?_⟩
  rcases mem_firstOfName_or front back l with hmem | ⟨k, hk, hname, hmem⟩
  · exact .inl hmem
  · obtain ⟨q, hq, hqk⟩ := exists_of_forall₂ hfront hk
    exact .inr ⟨q, hq, k, hqk, hname, hmem⟩

/-- There is a listing exactly if each file found can have an entry. Every file then has its own, or one before
has its name. -/
theorem listed_iff_listable (f : Files) (dirs : List String) :
    ((∃ ls, list f dirs = .ok ls) ↔
      (∀ dir ∈ dirs, ∃ path, f.expandHome (.ofText dir) = .ok path) ∧
        ∀ ps, files f dirs = .ok ps → ∀ p ∈ ps, IsListable f p) ∧
    ∀ ls, list f dirs = .ok ls → ∃ ps, files f dirs = .ok ps ∧
      ∀ before p after, ps = before ++ p :: after →
        ∃ l, IsEntry f p l ∧
          (l ∈ ls ∨ ∃ q ∈ before, ∃ k, IsEntry f q k ∧ k.name = l.name ∧ k ∈ ls) := by
  constructor
  · rw [← exists_files_iff]
    simp only [← exists_listing_iff, ← exists_mapM_iff]
    unfold list
    cases files f dirs with
    | error e => simp [bind, Except.bind]
    | ok ps => cases hall : ps.mapM (listing f) <;> simp [bind, Except.bind, pure, Except.pure, hall]
  · exact fun _ => exists_entry_of_list

/-! ## One file without an entry -/

/-- Two directories with a file each. -/
def cabinet (first second : List UInt8) : Files where
  nodes := [
    (["one"], .directory), (["one", "x.yaml"], .file first),
    (["two"], .directory), (["two", "b.yaml"], .file second)]

def firstFile : PathName := ⟨false, ["one", "x.yaml"]⟩

def secondFile : PathName := ⟨false, ["two", "b.yaml"]⟩

theorem files_cabinet (first second : List UInt8) :
    files (cabinet first second) ["one", "two"] = .ok [firstFile, secondFile] := by
  have hfirst : filesIn (cabinet first second) ⟨false, ["one"]⟩ = .ok [firstFile] := by
    have hnames : (cabinet first second).namesIn ["one"] = ["x.yaml"] := List.mergeSort_singleton _
    have hdir : (cabinet first second).isDirectory ⟨false, ["one"]⟩ = .ok true := rfl
    have hlocate : (cabinet first second).locate ⟨false, ["one"]⟩ = .ok (["one"], some .directory) := rfl
    simp only [filesIn, hdir, hlocate, bind, Except.bind, hnames]
    rfl
  have hsecond : filesIn (cabinet first second) ⟨false, ["two"]⟩ = .ok [secondFile] := by
    have hnames : (cabinet first second).namesIn ["two"] = ["b.yaml"] := List.mergeSort_singleton _
    have hdir : (cabinet first second).isDirectory ⟨false, ["two"]⟩ = .ok true := rfl
    have hlocate : (cabinet first second).locate ⟨false, ["two"]⟩ = .ok (["two"], some .directory) := rfl
    simp only [filesIn, hdir, hlocate, bind, Except.bind, hnames]
    rfl
  have hone : (cabinet first second).expandHome (.ofText "one") = .ok ⟨false, ["one"]⟩ := rfl
  have htwo : (cabinet first second).expandHome (.ofText "two") = .ok ⟨false, ["two"]⟩ := rfl
  simp only [files, hone, htwo, hfirst, hsecond, bind, Except.bind, Except.mapError]
  rfl

theorem exists_load_of_toOption {name : String} {ids : List String}
    (h : (load f p).toOption.map (fun w => (w.name, w.stepIds)) = some (name, ids)) :
    ∃ w, load f p = .ok w ∧ w.name = name ∧ w.stepIds = ids := by
  cases hload : load f p with
  | error e =>
    rw [hload] at h
    cases h
  | ok w =>
    rw [hload] at h
    obtain ⟨hname, hids⟩ := Prod.mk.inj (Option.some.inj h)
    exact ⟨w, rfl, hname, hids⟩

/-- A byte that is no text in the first file. -/
def spoiled : Files := cabinet [0xff] (Text.Utf8.encode "{name: b, steps: [{id: ask, action: push}]}")

/-- A workflow that is found has no entry, since the file before it is no text. -/
theorem exists_file_that_hides_others :
    files spoiled ["one", "two"] = .ok [firstFile, secondFile] ∧
      (∃ w, load spoiled secondFile = .ok w ∧ w.name = "b") ∧ ¬∃ ls, list spoiled ["one", "two"] = .ok ls := by
  refine ⟨files_cabinet _ _, ?_, ?_⟩
  · obtain ⟨w, hload, hname, -⟩ := @exists_load_of_toOption spoiled secondFile "b" ["ask"] (by decide +kernel)
    exact ⟨w, hload, hname⟩
  · rintro ⟨ls, h⟩
    obtain ⟨ps, all, hps, hall, -⟩ := list_eq_ok_iff.mp h
    obtain rfl := Except.ok.inj (hps.symm.trans (files_cabinet _ _))
    obtain ⟨l, -, hl, -⟩ := List.forall₂_cons_left_iff.mp hall
    have hlistable : IsListable spoiled firstFile := exists_listing_iff.mp ⟨l, listing_eq_ok_iff.mpr hl⟩
    have hread : spoiled.read firstFile = .ok [0xff] := rfl
    have hdecode : (Text.Utf8.decode [0xff]).toOption = none := by decide +kernel
    rw [IsListable, Files.readText, hread] at hlistable
    dsimp only at hlistable
    cases hbytes : Text.Utf8.decode [0xff] with
    | ok text =>
      rw [hbytes] at hdecode
      cases hdecode
    | error e =>
      rw [hbytes] at hlistable
      cases hlistable

end Library

end Runbook
