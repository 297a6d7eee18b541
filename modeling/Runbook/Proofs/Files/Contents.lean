import Mathlib.Data.List.Sort
import Runbook.Files.Glob
import Runbook.Proofs.Each
import Runbook.Proofs.Files.Tree

/-! Files that form a tree: what is read at a path and what is listed below one depends on the files alone, and not on
which directories are there besides. -/

namespace Runbook.Files

/-! ## Trees -/

/-- Above every node there is a directory, and the working directory takes nothing back. -/
structure IsTree (f : Files) : Prop where
  parent : ∀ q, q ≠ [] → f.nodeAt q ≠ none → f.nodeAt q.dropLast = some .directory
  workDir : ".." ∉ f.workDir

variable {f g : Files} {place : Place}

theorem IsTree.above (h : f.IsTree) {q rest : Place} (hrest : rest ≠ []) (hnode : f.nodeAt (q ++ rest) ≠ none) :
    f.nodeAt q = some .directory := by
  induction rest using List.reverseRecOn with
  | nil => exact absurd rfl hrest
  | append_singleton rest name ih =>
    have hparent := h.parent (q ++ (rest ++ [name])) (by simp) hnode
    rw [← List.append_assoc, List.dropLast_concat] at hparent
    by_cases hnil : rest = []
    · rwa [hnil, List.append_nil] at hparent
    · exact ih hnil (by rw [hparent]; exact Option.some_ne_none _)

theorem IsTree.above_take (h : f.IsTree) {here names : Place} {k : ℕ} (hk : k < names.length)
    (hnode : f.nodeAt (here ++ names) ≠ none) : f.nodeAt (here ++ names.take k) = some .directory := by
  have hrest : names.drop k ≠ [] := by
    intro hnil
    have := List.drop_eq_nil_iff.mp hnil
    omega
  refine h.above hrest ?_
  rwa [List.append_assoc, List.take_append_drop]

/-- It is enough that there are directories above the nodes that are written down. -/
theorem isTree_of_nodes (hnodes : ∀ e ∈ f.nodes, f.nodeAt e.1.dropLast = some .directory)
    (hdir : ".." ∉ f.workDir) : f.IsTree where
  parent q hq hnode := by
    obtain ⟨e, he, rfl⟩ := List.mem_map.mp (mem_nodes_of_nodeAt hq hnode)
    exact hnodes e he
  workDir := hdir

/-- A node is put where there is a directory above it. -/
theorem IsTree.put (h : f.IsTree) (hnil : place ≠ []) (hparent : f.nodeAt place.dropLast = some .directory)
    {n : FileNode} (hn : n = .directory ∨ f.nodeAt place ≠ some .directory) : (f.put place n).IsTree := by
  refine ⟨fun q hq hnode => ?_, h.workDir⟩
  have habove : f.nodeAt q.dropLast = some .directory := by
    by_cases hself : place = q
    · rwa [← hself]
    · rw [nodeAt_put_of_ne f hself] at hnode
      exact h.parent q hq hnode
  by_cases hself : place = q.dropLast
  · rcases hn with rfl | hn
    · rw [← hself]
      exact nodeAt_put_self f hnil _
    · rw [← hself] at habove
      exact absurd habove hn
  · rw [nodeAt_put_of_ne f hself, habove]

theorem IsTree.makeDirectories (h : f.IsTree) {here names : Place} (hhere : f.nodeAt here = some .directory)
    (hmade : f.makeDirectories here names = .ok g) : g.IsTree := by
  induction names generalizing f here with
  | nil =>
    rw [Files.makeDirectories] at hmade
    obtain rfl := Except.ok.inj hmade
    exact h
  | cons name rest ih =>
    have hnil : here ++ [name] ≠ [] := by simp
    obtain ⟨-, k, hensured, hrest⟩ := makeDirectories_cons_eq_ok hmade
    refine ih ?_ (hensured.nodeAt_self hnil) hrest
    cases hensured with
    | there hnode => exact h
    | made hnone =>
      refine h.put hnil ?_ (.inl rfl)
      rwa [List.dropLast_concat]

/-! ## Reading -/

/-- No name is too long, and neither is the path. -/
structure Fits (place : Place) : Prop where
  names : ∀ name ∈ place, name.utf8ByteSize ≤ maxName
  path : (placeText place).utf8ByteSize ≤ maxPath

theorem fits_of_walk {shown : String} {here names : Place} {found : Place × Option FileNode} (hdots : ".." ∉ names)
    (h : f.walk shown here names = .ok found) : ∀ name ∈ names, name.utf8ByteSize ≤ maxName := by
  induction names generalizing here with
  | nil => simp
  | cons name rest ih =>
    obtain ⟨hname, hrest⟩ := List.ne_and_not_mem_of_not_mem_cons hdots
    have hbeq : (name == "..") = false := beq_eq_false_iff_ne.mpr (Ne.symm hname)
    rw [walk] at h
    split at h
    · cases h
    · cases h
    · simp only [hbeq, Bool.false_eq_true, if_false] at h
      split at h
      · cases h
      · rename_i hlong
        intro n hn
        rcases List.mem_cons.mp hn with rfl | hn
        · exact not_lt.mp hlong
        · exact ih hrest h n hn

theorem IsTree.walk (h : f.IsTree) {shown : String} {here names : Place} (hdots : ".." ∉ names)
    (hfit : ∀ name ∈ names, name.utf8ByteSize ≤ maxName) (hnode : f.nodeAt (here ++ names) ≠ none) :
    f.walk shown here names = .ok (here ++ names, f.nodeAt (here ++ names)) :=
  walk_of_directories hdots hfit fun _ hk => h.above_take hk hnode

/-- A path to something leads there, unless a name on it is too long. -/
theorem IsTree.walk_cases (h : f.IsTree) (shown : String) {here names : Place} (hdots : ".." ∉ names)
    (hnode : f.nodeAt (here ++ names) ≠ none) :
    f.walk shown here names = .ok (here ++ names, f.nodeAt (here ++ names)) ∨
      f.walk shown here names = .error (tooLong shown) := by
  induction names generalizing here with
  | nil => exact .inl (by rw [Files.walk, List.append_nil])
  | cons name rest ih =>
    obtain ⟨hname, hrest⟩ := List.ne_and_not_mem_of_not_mem_cons hdots
    have hbeq : (name == "..") = false := beq_eq_false_iff_ne.mpr (Ne.symm hname)
    have hsplit : here ++ name :: rest = here ++ [name] ++ rest := by simp
    rw [Files.walk, h.above (List.cons_ne_nil name rest) hnode]
    simp only [hbeq, Bool.false_eq_true, if_false]
    split_ifs with hlong
    · exact .inr rfl
    · rw [hsplit] at hnode ⊢
      exact ih hrest hnode

/-- A path to nothing ends at a file on the way, or it is missing. -/
theorem IsTree.walk_of_none (h : f.IsTree) (shown : String) {here names : Place} (hdots : ".." ∉ names)
    (hfit : ∀ name ∈ names, name.utf8ByteSize ≤ maxName) (hnode : f.nodeAt (here ++ names) = none) :
    (∃ k < names.length, ∃ b, f.nodeAt (here ++ names.take k) = some (.file b)) ∧
        f.walk shown here names = .error (.notDirectory shown) ∨
      (∀ k < names.length, ∀ b, f.nodeAt (here ++ names.take k) ≠ some (.file b)) ∧
        (f.walk shown here names = .error (.missing shown) ∨
          f.walk shown here names = .ok (here ++ names, none)) := by
  induction names generalizing here with
  | nil =>
    refine .inr ⟨by simp, .inr ?_⟩
    rw [Files.walk, hnode.symm, List.append_nil]
  | cons name rest ih =>
    obtain ⟨hname, hrest⟩ := List.ne_and_not_mem_of_not_mem_cons hdots
    have hbeq : (name == "..") = false := beq_eq_false_iff_ne.mpr (Ne.symm hname)
    have hlong : ¬maxName < name.utf8ByteSize := not_lt.mpr (hfit name List.mem_cons_self)
    rw [Files.walk]
    cases hhere : f.nodeAt here with
    | none =>
      refine .inr ⟨fun k hk b hfile => ?_, .inl rfl⟩
      cases k with
      | zero =>
        rw [List.take_zero, List.append_nil, hhere] at hfile
        cases hfile
      | succ k =>
        have hbelow : (name :: rest).take (k + 1) ≠ [] := by simp
        have habove := h.above (q := here) hbelow (by rw [hfile]; simp)
        rw [hhere] at habove
        cases habove
    | some node =>
      cases node with
      | file a => exact .inl ⟨⟨0, by simp, a, by rwa [List.take_zero, List.append_nil]⟩, rfl⟩
      | directory =>
        simp only [hbeq, Bool.false_eq_true, if_false, hlong]
        have hsplit : here ++ name :: rest = here ++ [name] ++ rest := by simp
        rw [hsplit] at hnode
        rcases ih hrest (fun n hn => hfit n (List.mem_cons_of_mem name hn)) hnode with
          ⟨⟨k, hk, b, hfile⟩, hwalk⟩ | ⟨hfiles, hwalk⟩
        · refine .inl ⟨⟨k + 1, by simpa using hk, b, ?_⟩, hwalk⟩
          simpa using hfile
        · refine .inr ⟨fun k hk b hfile => ?_, by rwa [hsplit]⟩
          cases k with
          | zero =>
            rw [List.take_zero, List.append_nil, hhere] at hfile
            cases hfile
          | succ k => exact hfiles k (by simpa using hk) b (by simpa using hfile)

/-- A file is read at its place, if the path fits. -/
theorem IsTree.read_eq_ok_iff (h : f.IsTree) (hdots : ".." ∉ place) {bytes : List UInt8} :
    f.read ⟨true, place⟩ = .ok bytes ↔
      Text.hasNull (placeText place) = false ∧ Fits place ∧ f.nodeAt place = some (.file bytes) := by
  constructor
  · intro hread
    obtain ⟨found, hlocate⟩ := stat_eq_ok_iff.mp (Files.read_eq_ok_iff.mp hread)
    obtain ⟨hnul, hlong, hwalk⟩ := locate_eq_ok_iff.mp hlocate
    exact ⟨hnul, ⟨fits_of_walk hdots hwalk, hlong⟩, nodeAt_of_read hdots hread⟩
  · rintro ⟨hnul, hfit, hnode⟩
    have hwalk : f.walk (placeText place) [] place = .ok (place, some (.file bytes)) := by
      rw [h.walk hdots hfit.names (by rw [List.nil_append, hnode]; simp), List.nil_append, hnode]
    exact Files.read_eq_ok_iff.mpr (stat_eq_ok_iff.mpr ⟨place, locate_eq_ok_iff.mpr ⟨hnul, hfit.path, hwalk⟩⟩)

/-- A file is read at its place, unless the path is too long. -/
theorem IsTree.read_cases (h : f.IsTree) (hdots : ".." ∉ place) (hnul : Text.hasNull (placeText place) = false)
    {bytes : List UInt8} (hnode : f.nodeAt place = some (.file bytes)) :
    f.read ⟨true, place⟩ = .ok bytes ∨ f.read ⟨true, place⟩ = .error (tooLong (placeText place)) := by
  have hdisplay : PathName.display ⟨true, place⟩ = placeText place := rfl
  unfold read stat locate
  rw [hdisplay]
  dsimp only
  rw [hnul, if_neg Bool.false_ne_true, if_pos rfl]
  split_ifs with hlong
  · exact .inr rfl
  · have hthere : f.nodeAt ([] ++ place) ≠ none := by
      rw [List.nil_append, hnode]
      exact Option.some_ne_none _
    rcases h.walk_cases (placeText place) hdots hthere with hwalk | hwalk
    · rw [hwalk, List.nil_append, hnode]
      exact .inl rfl
    · rw [hwalk]
      exact .inr rfl

/-- Where a path fits, the same is read as long as the files on it and at its end are the same. -/
theorem IsTree.read_congr (hf : f.IsTree) (hg : g.IsTree) (hdots : ".." ∉ place) (hfit : Fits place)
    (hnode : g.nodeAt place = f.nodeAt place)
    (hfiles : ∀ k < place.length, ∀ b,
      g.nodeAt (place.take k) = some (.file b) ↔ f.nodeAt (place.take k) = some (.file b)) :
    g.read ⟨true, place⟩ = f.read ⟨true, place⟩ := by
  unfold read stat locate
  simp only [if_true]
  split_ifs
  · rfl
  · rfl
  cases hn : f.nodeAt place with
  | some n =>
    rw [hf.walk hdots hfit.names (by rw [List.nil_append, hn]; simp),
      hg.walk hdots hfit.names (by rw [List.nil_append, hnode, hn]; simp), List.nil_append, hnode]
  | none =>
    have hnone : f.nodeAt ([] ++ place) = none := hn
    have hnone' : g.nodeAt ([] ++ place) = none := hnode.trans hn
    have hf' := hf.walk_of_none (PathName.display ⟨true, place⟩) hdots hfit.names hnone
    have hg' := hg.walk_of_none (PathName.display ⟨true, place⟩) hdots hfit.names hnone'
    simp only [List.nil_append] at hf' hg'
    rcases hf' with ⟨⟨k, hk, b, hfile⟩, hwalk⟩ | ⟨hnone, hwalk⟩ <;>
      rcases hg' with ⟨⟨k', hk', b', hfile'⟩, hwalk'⟩ | ⟨hnone', hwalk'⟩
    · rw [hwalk, hwalk']
    · exact absurd ((hfiles k hk b).mpr hfile) (hnone' k hk b)
    · exact absurd ((hfiles k' hk' b').mp hfile') (hnone k' hk' b')
    · rcases hwalk with hwalk | hwalk <;> rcases hwalk' with hwalk' | hwalk' <;> rw [hwalk, hwalk']

/-! ## Listing -/

theorem placeLE_trans (a b c : Place) (hab : placeLE a b = true) (hbc : placeLE b c = true) : placeLE a c = true := by
  induction a generalizing b c with
  | nil => cases c <;> rfl
  | cons x a ih =>
    cases b with
    | nil => cases hab
    | cons y b =>
      cases c with
      | nil => cases hbc
      | cons z c =>
        simp only [placeLE] at hab hbc ⊢
        by_cases hxy : x = y
        · subst hxy
          by_cases hxz : x = z
          · subst hxz
            simp only [beq_self_eq_true, if_true] at hab hbc ⊢
            exact ih b c hab hbc
          · simp only [beq_eq_false_iff_ne.mpr hxz] at hbc ⊢
            exact hbc
        · simp only [beq_eq_false_iff_ne.mpr hxy, Bool.false_eq_true, if_false, decide_eq_true_eq] at hab
          by_cases hyz : y = z
          · subst hyz
            simp [beq_eq_false_iff_ne.mpr hxy, hab]
          · simp only [beq_eq_false_iff_ne.mpr hyz, Bool.false_eq_true, if_false, decide_eq_true_eq] at hbc
            have hxz := String.lt_trans hab hbc
            have hne : x ≠ z := by
              rintro rfl
              exact String.lt_irrefl x hxz
            simp [beq_eq_false_iff_ne.mpr hne, hxz]

theorem placeLE_total (a b : Place) : (placeLE a b || placeLE b a) = true := by
  induction a generalizing b with
  | nil => rfl
  | cons x a ih =>
    cases b with
    | nil => rfl
    | cons y b =>
      by_cases hxy : x = y
      · subst hxy
        simpa [placeLE] using ih b
      · by_cases hlt : x < y
        · simp [placeLE, beq_eq_false_iff_ne.mpr hxy, hlt]
        · have hgt : y < x := String.not_le.mp fun hle => hxy (String.le_antisymm hle (String.not_lt.mp hlt))
          simp [placeLE, beq_eq_false_iff_ne.mpr (Ne.symm hxy), hgt]

/-- Sorted places that are picked out do not depend on those that are not. -/
theorem filter_mergeSort_append (p : Place → Bool) (xs ys : List Place) (hys : ∀ y ∈ ys, p y = false) :
    ((xs ++ ys).mergeSort placeLE).filter p = (xs.mergeSort placeLE).filter p := by
  have hnone : ys.filter p = [] := List.filter_eq_nil_iff.mpr fun y hy => by simp [hys y hy]
  rw [filter_mergeSort placeLE_trans placeLE_total, filter_mergeSort placeLE_trans placeLE_total, List.filter_append,
    hnone, List.append_nil]

theorem nodes_put_of_free {n : FileNode} (hnil : place ≠ []) (h : f.nodeAt place = none) :
    (f.put place n).nodes = f.nodes ++ [(place, n)] := by
  have hkept : f.nodes.filter (·.1 != place) = f.nodes := congrArg Files.nodes (erase_of_free hnil h)
  rw [put, hkept]

theorem exists_nodes_of_makeDirectories {here names : Place} (h : f.makeDirectories here names = .ok g) :
    ∃ dirs : List Place, g.nodes = f.nodes ++ dirs.map (·, .directory) ∧ ∀ d ∈ dirs, f.nodeAt d = none := by
  induction names generalizing f here with
  | nil =>
    rw [makeDirectories] at h
    obtain rfl := Except.ok.inj h
    exact ⟨[], by simp, by simp⟩
  | cons name rest ih =>
    have hnil : here ++ [name] ≠ [] := by simp
    obtain ⟨-, k, hensured, hrest⟩ := makeDirectories_cons_eq_ok h
    obtain ⟨dirs, hdirs, hfree⟩ := ih hrest
    cases hensured with
    | there hnode => exact ⟨dirs, hdirs, hfree⟩
    | made hnone =>
      refine ⟨(here ++ [name]) :: dirs, ?_, fun d hd => ?_⟩
      · rw [hdirs, nodes_put_of_free hnil hnone]
        simp
      · rcases List.mem_cons.mp hd with rfl | hd
        · exact hnone
        · have hput := hfree d hd
          by_cases hself : here ++ [name] = d
          · rw [← hself, nodeAt_put_self f hnil] at hput
            cases hput
          · rwa [nodeAt_put_of_ne f hself] at hput

def isFileAt (f : Files) (q : Place) : Bool :=
  match f.nodeAt q with
  | some (.file _) => true
  | _ => false

theorem isFileAt_iff (f : Files) (q : Place) : f.isFileAt q = true ↔ ∃ b, f.nodeAt q = some (.file b) := by
  unfold isFileAt
  split
  · rename_i b hb
    exact iff_of_true rfl ⟨b, hb⟩
  · rename_i hnone
    exact iff_of_false Bool.false_ne_true fun ⟨b, hb⟩ => hnone b hb

theorem filesBelow_eq (f : Files) (dir : Place) (pattern : String) :
    Glob.filesBelow f dir pattern =
      if (Text.splitOn pattern '/').getLast? = some "**" ∨ (Text.splitOn pattern '/').getLast? = some "" then []
      else (f.below dir).filter fun p =>
        Glob.endFits ((Text.splitOn pattern '/').filter (· != "**")) p && f.isFileAt (dir ++ p) := rfl

theorem goesOn_eq_some_iff {dir q p : Place} :
    (if dir.length < q.length then dir.isPrefixOf? q else none) = some p ↔ p ≠ [] ∧ q = dir ++ p := by
  constructor
  · intro h
    split_ifs at h with hlength
    obtain rfl := List.isPrefixOf?_eq_some_iff_append_eq.mp h
    refine ⟨?_, rfl⟩
    rintro rfl
    rw [List.append_nil] at hlength
    exact lt_irrefl _ hlength
  · rintro ⟨hnil, rfl⟩
    have hpos := List.length_pos_of_ne_nil hnil
    rw [if_pos (by rw [List.length_append]; omega), List.isPrefixOf?_eq_some_iff_append_eq]

theorem mem_filterMap_below {nodes : List (Place × FileNode)} {dir p : Place}
    (h : p ∈ nodes.filterMap fun (q, _) => if dir.length < q.length then dir.isPrefixOf? q else none) :
    p ≠ [] ∧ ∃ e ∈ nodes, e.1 = dir ++ p := by
  obtain ⟨e, he, hcut⟩ := List.mem_filterMap.mp h
  obtain ⟨hnil, hplace⟩ := goesOn_eq_some_iff.mp hcut
  exact ⟨hnil, e, he, hplace⟩

theorem ne_nil_of_mem_below {dir p : Place} (h : p ∈ f.below dir) : p ≠ [] :=
  (mem_filterMap_below ((List.mergeSort_perm _ _).mem_iff.mp h)).1

/-- Of what is listed, that which is kept is the same where nothing of it was added. -/
theorem filter_filesBelow_congr {extra : List (Place × FileNode)} (keep : Place → Bool) (dir : Place) (pattern : String)
    (hnodes : g.nodes = f.nodes ++ extra)
    (hextra : ∀ e ∈ extra, ∀ p, p ≠ [] → e.1 = dir ++ p → keep p = true → g.isFileAt e.1 = false)
    (hsame : ∀ p, p ≠ [] → keep p = true → g.isFileAt (dir ++ p) = f.isFileAt (dir ++ p)) :
    (Glob.filesBelow g dir pattern).filter keep = (Glob.filesBelow f dir pattern).filter keep := by
  rw [filesBelow_eq, filesBelow_eq]
  split_ifs
  · rfl
  rw [List.filter_filter, List.filter_filter]
  set fits := Glob.endFits ((Text.splitOn pattern '/').filter (· != "**"))
  have hpick : (f.below dir).filter (fun p => keep p && (fits p && f.isFileAt (dir ++ p))) =
      (f.below dir).filter fun p => keep p && (fits p && g.isFileAt (dir ++ p)) := by
    refine List.filter_congr fun p hp => ?_
    cases hkeep : keep p with
    | false => rfl
    | true => rw [hsame p (ne_nil_of_mem_below hp) hkeep]
  rw [hpick, below, below, hnodes, List.filterMap_append]
  apply filter_mergeSort_append
  intro p hp
  obtain ⟨hnil, e, he, hplace⟩ := mem_filterMap_below hp
  cases hkeep : keep p with
  | false => rfl
  | true => simp [← hplace, hextra e he p hnil hplace hkeep]

theorem mem_filesBelow {dir p : Place} {pattern : String} (h : p ∈ Glob.filesBelow f dir pattern) :
    p ≠ [] ∧ ∃ b, f.nodeAt (dir ++ p) = some (.file b) := by
  rw [filesBelow_eq] at h
  split_ifs at h
  · cases h
  obtain ⟨hbelow, hpick⟩ := List.mem_filter.mp h
  exact ⟨ne_nil_of_mem_below hbelow, (f.isFileAt_iff _).mp (Bool.and_eq_true_iff.mp hpick).2⟩

/-! ## Listing what is in a directory alone -/

/-- Whether a place is below the directory of a name. -/
def isIn (name : String) : Place → Bool
  | first :: _ :: _ => first == name
  | _ => false

theorem isIn_iff {name : String} {p : Place} : isIn name p = true ↔ ∃ rest, rest ≠ [] ∧ p = name :: rest := by
  constructor
  · intro h
    match p with
    | first :: second :: rest =>
      obtain rfl := eq_of_beq h
      exact ⟨second :: rest, List.cons_ne_nil _ _, rfl⟩
  · rintro ⟨rest, hrest, rfl⟩
    obtain ⟨second, rest, rfl⟩ := List.exists_cons_of_ne_nil hrest
    exact beq_self_eq_true name

/-- What is below a directory is what is below the one above it, as far as it is in the directory. -/
theorem filter_below (f : Files) (dir : Place) (name : String) :
    (f.below dir).filter (isIn name) = (f.below (dir ++ [name])).map (name :: ·) := by
  have hcut (q : Place) : (if dir.length < q.length then dir.isPrefixOf? q else none).filter (isIn name) =
      (if (dir ++ [name]).length < q.length then (dir ++ [name]).isPrefixOf? q else none).map (name :: ·) := by
    ext p
    rw [Option.filter_eq_some_iff, Option.map_eq_some_iff, goesOn_eq_some_iff, isIn_iff]
    simp only [goesOn_eq_some_iff, List.append_assoc, List.singleton_append]
    constructor
    · rintro ⟨⟨-, rfl⟩, rest, hrest, rfl⟩
      exact ⟨rest, ⟨hrest, rfl⟩, rfl⟩
    · rintro ⟨rest, ⟨hrest, rfl⟩, rfl⟩
      exact ⟨⟨List.cons_ne_nil _ _, rfl⟩, rest, hrest, rfl⟩
  have horder (a b : Place) : placeLE (name :: a) (name :: b) = placeLE a b := by simp [placeLE]
  unfold below
  rw [filter_mergeSort placeLE_trans placeLE_total, List.map_mergeSort fun a _ b _ => (horder a b).symm,
    List.filter_filterMap, List.map_filterMap]
  simp only [hcut]

/-- How a place begins is nothing to a pattern that has fewer names. -/
theorem endFits_cons {patterns : List String} {rest : Place} (h : patterns.length ≤ rest.length) (name : String) :
    Glob.endFits patterns (name :: rest) = Glob.endFits patterns rest := by
  have hdrop : (name :: rest).length - patterns.length = rest.length - patterns.length + 1 := by
    rw [List.length_cons]
    omega
  have hlength : patterns.length ≤ (name :: rest).length := by
    rw [List.length_cons]
    omega
  unfold Glob.endFits
  rw [hdrop, List.drop_succ_cons, decide_eq_true h, decide_eq_true hlength]

/-- The files of a directory are those of the one above it that are in the directory, as long as the pattern is one
name. -/
theorem filter_filesBelow {pattern : String} (hpattern : '/' ∉ pattern.toList) (f : Files) (dir : Place)
    (name : String) :
    (Glob.filesBelow f dir pattern).filter (isIn name) =
      (Glob.filesBelow f (dir ++ [name]) pattern).map (name :: ·) := by
  rw [filesBelow_eq, filesBelow_eq, Text.splitOn_of_notMem hpattern]
  split_ifs
  · rfl
  rw [List.filter_comm, filter_below, List.filter_map]
  refine congrArg (List.map (name :: ·)) (List.filter_congr fun p hp => ?_)
  have hfew : ([pattern].filter (· != "**")).length ≤ p.length := by
    have hpos := List.length_pos_of_ne_nil (ne_nil_of_mem_below hp)
    have := List.length_filter_le (· != "**") [pattern]
    rw [List.length_singleton] at this
    omega
  rw [Function.comp_apply, endFits_cons hfew, List.append_assoc, List.singleton_append]

/-! ## Paths -/

/-- A path on which no name is too long leads to the place that it comes to, or it stops where there is no directory. -/
theorem walk_of_fit (f : Files) (shown : String) {here names : Place} (hhere : ".." ∉ here)
    (hfit : ∀ name ∈ names, name.utf8ByteSize ≤ maxName) :
    f.walk shown here names = .error (.missing shown) ∨ f.walk shown here names = .error (.notDirectory shown) ∨
      f.walk shown here names =
        .ok (PathName.flatten (here ++ names), f.nodeAt (PathName.flatten (here ++ names))) := by
  induction names generalizing here with
  | nil => exact .inr (.inr (by rw [Files.walk, List.append_nil, PathName.flatten_of_notMem hhere]))
  | cons name rest ih =>
    have hrest : ∀ n ∈ rest, n.utf8ByteSize ≤ maxName := fun n hn => hfit n (List.mem_cons_of_mem name hn)
    have hlong : ¬maxName < name.utf8ByteSize := not_lt.mpr (hfit name List.mem_cons_self)
    rw [Files.walk]
    cases f.nodeAt here with
    | none => exact .inl rfl
    | some node =>
      cases node with
      | file b => exact .inr (.inl rfl)
      | directory =>
        dsimp only
        by_cases hname : name = ".."
        · rw [if_pos (beq_iff_eq.mpr hname), hname, PathName.flatten_append_dots hhere]
          exact ih (fun hmem => hhere (List.mem_of_mem_dropLast hmem)) hrest
        · have hnext : ".." ∉ here ++ [name] := by
            rw [List.mem_append, not_or, List.mem_singleton]
            exact ⟨hhere, Ne.symm hname⟩
          rw [if_neg (by simpa using hname), if_neg hlong, List.append_cons here name rest]
          exact ih hnext hrest

/-- No directory is found at a path that fits, or the one at the place to which it leads is. -/
theorem IsTree.isDirectory_cases (h : f.IsTree) {p : PathName} (hnul : Text.hasNull p.display = false)
    (hlong : p.display.utf8ByteSize ≤ maxPath) (hfit : ∀ name ∈ p.parts, name.utf8ByteSize ≤ maxName) :
    f.isDirectory p = .ok false ∨ f.isDirectory p = .ok (f.nodeAt (f.resolve p) == some .directory) := by
  have hhere : ".." ∉ (if p.absolute then [] else f.workDir) := by
    split_ifs
    · exact List.not_mem_nil
    · exact h.workDir
  have hresolve : f.resolve p = PathName.flatten ((if p.absolute then [] else f.workDir) ++ p.parts) := by
    unfold resolve
    split_ifs <;> rfl
  rw [hresolve]
  unfold isDirectory find? stat
  rw [locate_eq_walk f hnul hlong]
  rcases f.walk_of_fit p.display hhere hfit with hwalk | hwalk | hwalk
  · exact .inl (by rw [hwalk]; rfl)
  · exact .inl (by rw [hwalk]; rfl)
  · refine .inr ?_
    rw [hwalk]
    cases f.nodeAt _ <;> rfl

/-! ## Paths that take nothing back -/

theorem IsTree.resolve_eq (h : f.IsTree) {p : PathName} (hdots : ".." ∉ p.parts) :
    f.resolve p = (if p.absolute then [] else f.workDir) ++ p.parts := by
  unfold resolve
  split_ifs
  · rw [PathName.flatten_of_notMem hdots, List.nil_append]
  · refine PathName.flatten_of_notMem ?_
    rw [List.mem_append, not_or]
    exact ⟨h.workDir, hdots⟩

/-- A directory is found at a path that fits if there is one at the place to which it leads. -/
theorem IsTree.isDirectory_eq (h : f.IsTree) {p : PathName} (hdots : ".." ∉ p.parts)
    (hnul : Text.hasNull p.display = false) (hlong : p.display.utf8ByteSize ≤ maxPath)
    (hfit : ∀ name ∈ p.parts, name.utf8ByteSize ≤ maxName) :
    f.isDirectory p = .ok (f.nodeAt (f.resolve p) == some .directory) := by
  rw [h.resolve_eq hdots]
  unfold isDirectory find? stat
  rw [locate_eq_walk f hnul hlong]
  generalize (if p.absolute = true then [] else f.workDir) = here
  cases hnode : f.nodeAt (here ++ p.parts) with
  | some n =>
    rw [h.walk hdots hfit (by rw [hnode]; simp), hnode]
    rfl
  | none =>
    rcases h.walk_of_none p.display hdots hfit hnode with ⟨-, hwalk⟩ | ⟨-, hwalk | hwalk⟩ <;> rw [hwalk] <;> rfl

/-- Whether a directory is found at a path depends on the path alone. -/
theorem IsTree.isDirectory_iff (h : f.IsTree) {p : PathName} (hdots : ".." ∉ p.parts)
    (hdir : f.nodeAt (f.resolve p) = some .directory) :
    f.isDirectory p = .ok true ↔ Text.hasNull p.display = false ∧ p.display.utf8ByteSize ≤ maxPath ∧
      ∀ name ∈ p.parts, name.utf8ByteSize ≤ maxName := by
  constructor
  · intro hthere
    unfold isDirectory find? at hthere
    cases hstat : f.stat p with
    | ok node =>
      obtain ⟨place, hlocate⟩ := stat_eq_ok_iff.mp hstat
      obtain ⟨hnul, hlong, hwalk⟩ := locate_eq_ok_iff.mp hlocate
      exact ⟨hnul, hlong, fits_of_walk hdots hwalk⟩
    | error e =>
      rw [hstat] at hthere
      dsimp only at hthere
      split_ifs at hthere <;> cases hthere
  · rintro ⟨hnul, hlong, hfit⟩
    rw [h.isDirectory_eq hdots hnul hlong hfit, hdir]
    rfl

end Runbook.Files
