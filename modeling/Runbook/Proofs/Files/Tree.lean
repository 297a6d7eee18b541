import Runbook.Files.Basic
import Runbook.Proofs.Text.Cutting

/-! What is at a place after a change of the files, where a path leads that takes nothing back, and what is still
read when there are more files. -/

namespace Runbook

/-! ## Nodes -/

namespace Files

@[simp] theorem nodeAt_nil (f : Files) : f.nodeAt [] = some .directory := rfl

theorem nodeAt_of_ne_nil (f : Files) {q : Place} (hq : q ≠ []) :
    f.nodeAt q = (f.nodes.find? (·.1 == q)).map (·.2) := by
  cases q with
  | nil => exact absurd rfl hq
  | cons name rest => rfl

theorem mem_nodes_of_nodeAt {f : Files} {q : Place} (hq : q ≠ []) (h : f.nodeAt q ≠ none) :
    q ∈ f.nodes.map (·.1) := by
  rw [nodeAt_of_ne_nil f hq, ne_eq, Option.map_eq_none_iff, ← ne_eq, Option.ne_none_iff_exists'] at h
  obtain ⟨e, he⟩ := h
  have hplace := List.find?_some he
  exact List.mem_map.mpr ⟨e, List.mem_of_find?_eq_some he, eq_of_beq hplace⟩

theorem nodeAt_put_self (f : Files) {p : Place} (hp : p ≠ []) (n : FileNode) :
    (f.put p n).nodeAt p = some n := by
  rw [nodeAt_of_ne_nil _ hp, put, List.find?_append]
  have hnone : (f.nodes.filter (·.1 != p)).find? (·.1 == p) = none := by
    rw [List.find?_eq_none]
    intro e he
    have := List.of_mem_filter he
    simpa using this
  simp [hnone]

theorem nodeAt_put_of_ne (f : Files) {p q : Place} (h : p ≠ q) (n : FileNode) :
    (f.put p n).nodeAt q = f.nodeAt q := by
  cases q with
  | nil => rfl
  | cons name rest =>
    rw [nodeAt_of_ne_nil _ (List.cons_ne_nil name rest), nodeAt_of_ne_nil _ (List.cons_ne_nil name rest),
      put, List.find?_append]
    have hlast : [(p, n)].find? (·.1 == name :: rest) = none := by simp [h]
    have hfilter : (f.nodes.filter (·.1 != p)).find? (·.1 == name :: rest) =
        f.nodes.find? (·.1 == name :: rest) := by
      rw [List.find?_filter]
      congr 1
      funext e
      by_cases he : e.1 = name :: rest
      · simp [he, Ne.symm h]
      · simp [he]
    rw [hlast, Option.or_none, hfilter]

theorem nodeAt_erase_of_ne (f : Files) {p q : Place} (h : p ≠ q) : (f.erase p).nodeAt q = f.nodeAt q := by
  cases q with
  | nil => rfl
  | cons name rest =>
    rw [nodeAt_of_ne_nil _ (List.cons_ne_nil name rest), nodeAt_of_ne_nil _ (List.cons_ne_nil name rest),
      erase, List.find?_filter]
    congr 2
    funext e
    by_cases he : e.1 = name :: rest
    · simp [he, Ne.symm h]
    · simp [he]

theorem nodeAt_erase_self (f : Files) {p : Place} (hp : p ≠ []) : (f.erase p).nodeAt p = none := by
  rw [nodeAt_of_ne_nil _ hp, erase, Option.map_eq_none_iff, List.find?_eq_none]
  intro e he
  have := List.of_mem_filter he
  simpa using this

theorem erase_put (f : Files) (p : Place) (n : FileNode) : (f.put p n).erase p = f.erase p := by
  simp [put, erase, List.filter_append, List.filter_filter]

theorem put_put (f : Files) (p : Place) (m n : FileNode) : (f.put p m).put p n = f.put p n := by
  simp [put, List.filter_append, List.filter_filter]

/-- Where there is nothing, nothing is taken away. -/
theorem erase_of_free {f : Files} {p : Place} (hp : p ≠ []) (h : f.nodeAt p = none) : f.erase p = f := by
  rw [nodeAt_of_ne_nil f hp, Option.map_eq_none_iff, List.find?_eq_none] at h
  have hall : f.nodes.filter (·.1 != p) = f.nodes := by
    rw [List.filter_eq_self]
    intro e he
    simpa using h e he
  rw [erase, hall]

/-! ## Paths -/

/-- A path that takes nothing back leads to the place that it names. -/
theorem walk_eq_ok {f : Files} {shown : String} {here names : Place} {found : Place × Option FileNode}
    (hnames : ".." ∉ names) (h : f.walk shown here names = .ok found) :
    found = (here ++ names, f.nodeAt (here ++ names)) := by
  induction names generalizing here with
  | nil =>
    rw [walk] at h
    obtain rfl := Except.ok.inj h
    rw [List.append_nil]
  | cons name rest ih =>
    obtain ⟨hname, hrest⟩ := List.ne_and_not_mem_of_not_mem_cons hnames
    rw [walk] at h
    split at h
    · cases h
    · cases h
    · have hbeq : (name == "..") = false := beq_eq_false_iff_ne.mpr (Ne.symm hname)
      simp only [hbeq, Bool.false_eq_true, if_false] at h
      split at h
      · cases h
      · simpa using ih hrest h

/-- A path leads somewhere if there are directories on the way and no name is too long. -/
theorem walk_of_directories {f : Files} {shown : String} {here names : Place} (hnames : ".." ∉ names)
    (hfit : ∀ name ∈ names, name.utf8ByteSize ≤ maxName)
    (hway : ∀ k < names.length, f.nodeAt (here ++ names.take k) = some .directory) :
    f.walk shown here names = .ok (here ++ names, f.nodeAt (here ++ names)) := by
  induction names generalizing here with
  | nil => rw [walk, List.append_nil]
  | cons name rest ih =>
    obtain ⟨hname, hrest⟩ := List.ne_and_not_mem_of_not_mem_cons hnames
    have hhere : f.nodeAt here = some .directory := by
      simpa using hway 0 (Nat.zero_lt_succ _)
    have hbeq : (name == "..") = false := beq_eq_false_iff_ne.mpr (Ne.symm hname)
    have hlong : ¬maxName < name.utf8ByteSize := not_lt.mpr (hfit name List.mem_cons_self)
    rw [walk, hhere]
    simp only [hbeq, Bool.false_eq_true, if_false, hlong]
    rw [ih hrest (fun n hn => hfit n (List.mem_cons_of_mem name hn)), List.append_assoc,
      List.singleton_append]
    intro k hk
    rw [List.append_assoc, List.singleton_append, ← List.take_succ_cons]
    exact hway (k + 1) (Nat.succ_lt_succ hk)

end Files

namespace PathName

theorem not_mem_flatten_dots {parts : List String} : ".." ∉ flatten parts := by
  suffices h : ∀ acc : List String, ".." ∉ acc →
      ".." ∉ parts.foldl (fun acc p => if p == ".." then acc.drop 1 else p :: acc) acc by
    unfold flatten
    rw [List.mem_reverse]
    exact h [] List.not_mem_nil
  induction parts with
  | nil => exact fun acc hacc => hacc
  | cons p rest ih =>
    intro acc hacc
    rw [List.foldl_cons]
    split
    · exact ih _ fun hmem => hacc (List.mem_of_mem_drop hmem)
    · rename_i hp
      refine ih _ fun hmem => ?_
      rcases List.mem_cons.mp hmem with rfl | hmem
      · exact hp rfl
      · exact hacc hmem

/-- The names at the end of a path stay if they take nothing back. -/
theorem flatten_append {parts names : List String} (h : ".." ∉ names) :
    flatten (parts ++ names) = flatten parts ++ names := by
  induction names using List.reverseRecOn with
  | nil => rw [List.append_nil, List.append_nil]
  | append_singleton names name ih =>
    rw [List.mem_append, not_or, List.mem_singleton] at h
    have hlast (parts : List String) : flatten (parts ++ [name]) = flatten parts ++ [name] := by
      simp [flatten, Ne.symm h.2]
    rw [← List.append_assoc, hlast, ih h.1, List.append_assoc]

theorem flatten_of_notMem {parts : List String} (h : ".." ∉ parts) : flatten parts = parts :=
  @flatten_append [] parts h

/-- Two points take back the name before them. -/
theorem flatten_append_dots {parts : List String} (h : ".." ∉ parts) (rest : List String) :
    flatten (parts ++ ".." :: rest) = flatten (parts.dropLast ++ rest) := by
  have hfold {names : List String} (hnames : ".." ∉ names) :
      names.foldl (fun acc p => if p == ".." then acc.drop 1 else p :: acc) [] = names.reverse :=
    List.reverse_eq_iff.mp (flatten_of_notMem hnames)
  have hlast : ".." ∉ parts.dropLast := fun hmem => h (List.mem_of_mem_dropLast hmem)
  unfold flatten
  rw [List.foldl_append, List.foldl_append, hfold h, hfold hlast, List.foldl_cons, if_pos (beq_self_eq_true _),
    List.drop_one, List.tail_reverse]

/-- A text that stands for itself between the slashes of a path. -/
structure IsName (name : String) : Prop where
  not_empty : name ≠ ""
  not_point : name ≠ "."
  not_points : name ≠ ".."
  no_slash : '/' ∉ name.toList
  no_null : '\x00' ∉ name.toList

/-- A path is written by joining its names. -/
theorem ofText_joinWith {names : List String} (hne : names ≠ []) (h : ∀ name ∈ names, IsName name) :
    ofText (Text.joinWith "/" names) = ⟨false, names⟩ := by
  have hsplit : Text.splitOn (Text.joinWith "/" names) '/' = names :=
    Text.splitOn_joinWith hne fun name hname => (h name hname).no_slash
  have hkept : names.filter (fun p => !p.isEmpty && p != ".") = names := by
    rw [List.filter_eq_self]
    intro name hname
    simp [(h name hname).not_empty, (h name hname).not_point]
  have hrelative : Text.startsWith (Text.joinWith "/" names) "/" = false := by
    rw [Bool.eq_false_iff]
    intro hslash
    obtain ⟨rest, hrest⟩ := List.isPrefixOf_iff_prefix.mp hslash
    have hempty : "" ∈ names := by
      rw [← hsplit, Text.splitOn, ← hrest]
      exact List.mem_cons_self
    exact (h "" hempty).not_empty rfl
  rw [ofText, hsplit, hkept, hrelative]

end PathName

namespace Files

theorem not_mem_resolve_dots {f : Files} {p : PathName} : ".." ∉ f.resolve p :=
  PathName.not_mem_flatten_dots

/-- A path without a null that is not too long is followed name by name. -/
theorem locate_eq_walk (f : Files) {p : PathName} (hnul : Text.hasNull p.display = false)
    (hlong : p.display.utf8ByteSize ≤ maxPath) :
    f.locate p = f.walk p.display (if p.absolute then [] else f.workDir) p.parts := by
  unfold locate
  dsimp only
  rw [hnul, if_neg Bool.false_ne_true, if_neg (not_lt.mpr hlong)]

theorem locate_eq_ok_iff {f : Files} {p : PathName} {found : Place × Option FileNode} :
    f.locate p = .ok found ↔ Text.hasNull p.display = false ∧ p.display.utf8ByteSize ≤ maxPath ∧
      f.walk p.display (if p.absolute then [] else f.workDir) p.parts = .ok found := by
  constructor
  · intro h
    unfold locate at h
    dsimp only at h
    by_cases hnul : Text.hasNull p.display = true
    · rw [if_pos hnul] at h
      cases h
    · by_cases hlong : maxPath < p.display.utf8ByteSize
      · rw [if_neg hnul, if_pos hlong] at h
        cases h
      · rw [if_neg hnul, if_neg hlong] at h
        exact ⟨by simpa using hnul, not_lt.mp hlong, h⟩
  · rintro ⟨hnul, hlong, hwalk⟩
    rw [locate_eq_walk f hnul hlong, hwalk]

theorem stat_eq_ok_iff {f : Files} {p : PathName} {node : FileNode} :
    f.stat p = .ok node ↔ ∃ place, f.locate p = .ok (place, some node) := by
  unfold stat
  rcases f.locate p with i | ⟨place, _ | n⟩
  · simp
  · simp
  · simp

/-- What is read at a path is what the file there holds. -/
theorem read_eq_ok_iff {f : Files} {p : PathName} {bytes : List UInt8} :
    f.read p = .ok bytes ↔ f.stat p = .ok (.file bytes) := by
  unfold read
  rcases f.stat p with i | content | _
  · simp
  · simp
  · simp

/-- A file is read at the place that an absolute path names. -/
theorem nodeAt_of_read {f : Files} {place : Place} {bytes : List UInt8} (hplace : ".." ∉ place)
    (h : f.read ⟨true, place⟩ = .ok bytes) : f.nodeAt place = some (.file bytes) := by
  obtain ⟨found, hlocate⟩ := stat_eq_ok_iff.mp (read_eq_ok_iff.mp h)
  obtain ⟨-, -, hwalk⟩ := locate_eq_ok_iff.mp hlocate
  exact (Prod.mk.inj (walk_eq_ok hplace hwalk)).2.symm

/-! ## Making directories -/

/-- A directory is at the place: it was there, or it is made where there was nothing. -/
inductive Ensured (f : Files) (place : Place) : Files → Prop where
  | there (h : f.nodeAt place = some .directory) : Ensured f place f
  | made (h : f.nodeAt place = none) : Ensured f place (f.put place .directory)

namespace Ensured

variable {f g : Files} {place : Place}

theorem nodeAt_self (h : Ensured f place g) (hnil : place ≠ []) : g.nodeAt place = some .directory := by
  cases h with
  | there hnode => exact hnode
  | made hnone => exact nodeAt_put_self f hnil .directory

theorem nodeAt_of_ne (h : Ensured f place g) {q : Place} (hne : place ≠ q) : g.nodeAt q = f.nodeAt q := by
  cases h with
  | there hnode => rfl
  | made hnone => exact nodeAt_put_of_ne f hne _

theorem keeps (h : Ensured f place g) {q : Place} {n : FileNode} (hq : f.nodeAt q = some n) :
    g.nodeAt q = some n := by
  cases h with
  | there hnode => exact hq
  | made hnone =>
    rw [nodeAt_put_of_ne f _, hq]
    rintro rfl
    rw [hnone] at hq
    cases hq

theorem workDir_eq (h : Ensured f place g) : g.workDir = f.workDir := by
  cases h <;> rfl

end Ensured

/-- The first directory is there or made, then those behind it are made. -/
theorem makeDirectories_cons_eq_ok {f g : Files} {here rest : Place} {name : String}
    (h : f.makeDirectories here (name :: rest) = .ok g) :
    name.utf8ByteSize ≤ maxName ∧
      ∃ k, Ensured f (here ++ [name]) k ∧ k.makeDirectories (here ++ [name]) rest = .ok g := by
  rw [makeDirectories] at h
  split at h
  · cases h
  · rename_i hfit
    refine ⟨not_lt.mp hfit, ?_⟩
    split at h
    · rename_i hnode
      exact ⟨f, .there hnode, h⟩
    · cases h
    · rename_i hnone
      exact ⟨_, .made hnone, h⟩

theorem makeDirectories_ok {f g : Files} {here names : Place} (h : f.makeDirectories here names = .ok g) :
    (∀ name ∈ names, name.utf8ByteSize ≤ maxName) ∧ g.workDir = f.workDir ∧
      (∀ q n, f.nodeAt q = some n → g.nodeAt q = some n) ∧
      (∀ q, (here ++ names).length < q.length → g.nodeAt q = f.nodeAt q) ∧
      ∀ k < names.length, g.nodeAt (here ++ names.take (k + 1)) = some .directory := by
  induction names generalizing f here with
  | nil =>
    rw [makeDirectories] at h
    obtain rfl := Except.ok.inj h
    exact ⟨by simp, rfl, fun _ _ hq => hq, fun _ _ => rfl, fun k hk => by simp at hk⟩
  | cons name rest ih =>
    obtain ⟨hfit, m, hensured, hrest⟩ := makeDirectories_cons_eq_ok h
    obtain ⟨hnames, hdir, hkeep, hdeep, hmade⟩ := ih hrest
    have hplace : here ++ name :: rest = (here ++ [name]) ++ rest := by simp
    rw [hplace]
    refine ⟨List.forall_mem_cons.mpr ⟨hfit, hnames⟩, hdir.trans hensured.workDir_eq,
      fun q n hq => hkeep q n (hensured.keeps hq), fun q hq => ?_, fun k hk => ?_⟩
    · rw [hdeep q hq, hensured.nodeAt_of_ne]
      rintro rfl
      simp at hq
    · cases k with
      | zero => simpa using hkeep _ _ (hensured.nodeAt_self (by simp))
      | succ k => simpa using hmade k (by simpa using hk)

/-- Where all directories are there, none is made. -/
theorem makeDirectories_of_directories {f : Files} {here names : Place}
    (hfit : ∀ name ∈ names, name.utf8ByteSize ≤ maxName)
    (hway : ∀ k < names.length, f.nodeAt (here ++ names.take (k + 1)) = some .directory) :
    f.makeDirectories here names = .ok f := by
  induction names generalizing here with
  | nil => rw [makeDirectories]
  | cons name rest ih =>
    have hlong : ¬maxName < name.utf8ByteSize := not_lt.mpr (hfit name List.mem_cons_self)
    have hnode : f.nodeAt (here ++ [name]) = some .directory := by
      simpa using hway 0 (Nat.zero_lt_succ _)
    rw [makeDirectories]
    simp only [hlong, if_false, hnode]
    refine ih (fun n hn => hfit n (List.mem_cons_of_mem name hn)) ?_
    intro k hk
    simpa using hway (k + 1) (Nat.succ_lt_succ hk)

/-! ## More files -/

/-- Nothing that was there is gone or has changed. -/
structure Extends (f g : Files) : Prop where
  workDir : g.workDir = f.workDir
  nodes : ∀ q n, f.nodeAt q = some n → g.nodeAt q = some n

namespace Extends

variable {f g k : Files}

theorem refl (f : Files) : Extends f f := ⟨rfl, fun _ _ hq => hq⟩

theorem trans (h : Extends f g) (h' : Extends g k) : Extends f k :=
  ⟨h'.workDir.trans h.workDir, fun q n hq => h'.nodes q n (h.nodes q n hq)⟩

theorem makeDirectories {here names : Place} (h : f.makeDirectories here names = .ok g) : Extends f g := by
  obtain ⟨-, hdir, hkeep, -, -⟩ := makeDirectories_ok h
  exact ⟨hdir, hkeep⟩

theorem walk (h : Extends f g) {shown : String} {here names place : Place} {n : FileNode}
    (hwalk : f.walk shown here names = .ok (place, some n)) :
    g.walk shown here names = .ok (place, some n) := by
  induction names generalizing here with
  | nil =>
    rw [Files.walk] at hwalk ⊢
    obtain ⟨rfl, hnode⟩ := Prod.mk.inj (Except.ok.inj hwalk)
    rw [h.nodes _ _ hnode]
  | cons name rest ih =>
    rw [Files.walk] at hwalk ⊢
    cases hhere : f.nodeAt here with
    | none =>
      rw [hhere] at hwalk
      cases hwalk
    | some node =>
      rw [hhere] at hwalk
      rw [h.nodes _ _ hhere]
      cases node with
      | file content => cases hwalk
      | directory =>
        dsimp only at hwalk ⊢
        split_ifs at hwalk ⊢
        · exact ih hwalk
        · exact ih hwalk

theorem read (h : Extends f g) {p : PathName} {bytes : List UInt8} (hread : f.read p = .ok bytes) :
    g.read p = .ok bytes := by
  obtain ⟨place, hlocate⟩ := stat_eq_ok_iff.mp (read_eq_ok_iff.mp hread)
  obtain ⟨hnul, hlong, hwalk⟩ := locate_eq_ok_iff.mp hlocate
  rw [← h.workDir] at hwalk
  exact read_eq_ok_iff.mpr (stat_eq_ok_iff.mpr ⟨place, locate_eq_ok_iff.mpr ⟨hnul, hlong, h.walk hwalk⟩⟩)

end Extends

end Files

end Runbook
