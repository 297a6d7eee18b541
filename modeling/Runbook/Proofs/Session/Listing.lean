import Runbook.Proofs.Session.Atomicity
import Runbook.Proofs.Session.Repository

/-! The listing of one workflow beside that of all: it keeps the sessions of the workflow in the same order, but below
a root that is not written as it is resolved it fails as soon as there is a file to list. -/

namespace Runbook

open Text

/-! ## Paths -/

namespace Files

theorem hasNull_placeText (place : Place) :
    hasNull (placeText place) = false ↔ ∀ name ∈ place, '\x00' ∉ name.toList := by
  rw [hasNull_eq_false_iff, placeText, String.toList_append, List.mem_append, mem_joinWith_iff (by decide)]
  simp

end Files

namespace Store

variable {s : Store} {f : Files} {name ending : String}

/-- The system takes the root as it is written, and the path to a directory in it. -/
structure Opens (s : Store) (f : Files) (name : String) : Prop where
  null : hasNull s.root.display = false
  path : s.root.display.utf8ByteSize ≤ Files.maxPath
  names : ∀ part ∈ s.root.parts, part.utf8ByteSize ≤ Files.maxName
  place_null : hasNull (Files.placeText (s.rootPlace f)) = false
  place_fits : Files.Fits (s.rootPlace f ++ [name])

/-- The place of a directory in the root takes nothing back. -/
theorem not_mem_directory_dots (hname : name ≠ "..") : ".." ∉ s.rootPlace f ++ [name] := by
  rw [List.mem_append, not_or, List.mem_singleton]
  exact ⟨Files.not_mem_resolve_dots, hname.symm⟩

/-- A key of names that stand for themselves is taken, and leads to the place of the names below the root. -/
theorem placeOf_joinWith (h : s.Opens f name) {names : List String} (hne : names ≠ [])
    (hnames : ∀ part ∈ names, PathName.IsName part) :
    s.placeOf f (joinWith "/" names) = .ok (s.rootPlace f ++ names) := by
  have hplace : s.placeBelow f (joinWith "/" names) = s.rootPlace f ++ names := placeBelow_joinWith hne hnames s f
  have hkey : hasNull (joinWith "/" names) = false := by
    rw [hasNull_eq_false_iff, mem_joinWith_iff (by decide)]
    rintro ⟨part, hpart, hmem⟩
    exact (hnames part hpart).no_null hmem
  have hwhole : hasNull (Files.placeText (s.rootPlace f ++ names)) = false := by
    have hnull := h.place_null
    rw [Files.hasNull_placeText] at hnull ⊢
    intro part hpart
    rcases List.mem_append.mp hpart with hpart | hpart
    · exact hnull part hpart
    · exact (hnames part hpart).no_null
  exact placeOf_eq_ok_iff.mpr ⟨hplace.symm, ⟨hkey, h.null, hwhole⟩, List.prefix_append _ _⟩

/-! ## Keys -/

/-- Where the path leads to its place, the keys are those of what is listed; without a directory that is nothing. -/
theorem keys_of_base (htree : f.IsTree) {start : String} {p : PathName} (hbase : s.base f start = .ok p)
    (hthere : f.isDirectory p = .ok (f.nodeAt (f.resolve p) == some .directory)) :
    s.keys f start ending = s.named p (listed f p ending) := by
  rw [keys_apply, hbase]
  change ((f.isDirectory p).mapError Fault.incident).bind _ = _
  rw [hthere]
  change (if !(f.nodeAt (f.resolve p) == some .directory) then _ else _) = _
  by_cases hdir : f.nodeAt (f.resolve p) = some .directory
  · rw [hdir]
    rfl
  · have hnone : listed f p ending = [] := by
      by_contra hlisted
      exact hdir (directory_of_listed htree hlisted)
    rw [hnone]
    split_ifs <;> rfl

theorem named_root (s : Store) (places : List Place) : s.named s.root places = .ok (places.map (joinWith "/")) := by
  unfold named
  refine mapM_eq_map fun q _ => ?_
  rw [beq_self_eq_true, if_pos rfl, List.isPrefixOf?_eq_some_iff_append_eq.mpr rfl]

/-- The keys below the root are those of all files in it. There are none if the root is written by way of a place where
there is no directory. -/
theorem keys_root_cases (htree : f.IsTree) (h : s.Opens f name) (ending : String) :
    s.keys f "" ending = .ok ((listed f s.root ending).map (joinWith "/")) ∨
      ".." ∈ s.root.parts ∧ s.keys f "" ending = .ok [] := by
  have hlisted (hthere : f.isDirectory s.root = .ok (f.nodeAt (f.resolve s.root) == some .directory)) :
      s.keys f "" ending = .ok ((listed f s.root ending).map (joinWith "/")) :=
    (keys_of_base htree rfl hthere).trans (named_root s _)
  by_cases hdots : ".." ∈ s.root.parts
  · rcases htree.isDirectory_cases h.null h.path h.names with hthere | hthere
    · refine .inr ⟨hdots, ?_⟩
      rw [keys_apply]
      change ((f.isDirectory s.root).mapError Fault.incident).bind _ = _
      rw [hthere]
      rfl
    · exact .inl (hlisted hthere)
  · exact .inl (hlisted (htree.isDirectory_eq hdots h.null h.path h.names))

/-- Those of a directory in the root are sought at the place to which the root leads. -/
theorem keys_directory (htree : f.IsTree) (h : s.Opens f name) (hname : PathName.IsName name) (ending : String) :
    s.keys f name ending =
      s.named ⟨true, s.rootPlace f ++ [name]⟩ (listed f ⟨true, s.rootPlace f ++ [name]⟩ ending) := by
  have hnames : ∀ part ∈ [name], PathName.IsName part := List.forall_mem_singleton.mpr hname
  have hplace := placeOf_joinWith h (List.cons_ne_nil name []) hnames
  have hkey : joinWith "/" [name] = name := String.intercalate_singleton
  rw [hkey] at hplace
  have hbase : s.base f name = .ok ⟨true, s.rootPlace f ++ [name]⟩ := by
    have hne : ¬name.isEmpty = true := by simpa using hname.not_empty
    unfold base
    rw [if_neg hne, hplace]
    rfl
  exact keys_of_base htree hbase <| htree.isDirectory_eq (not_mem_directory_dots hname.not_points)
    (placeOf_eq_ok hplace).2 h.place_fits.path h.place_fits.names

/-- Below a root that is written as it is resolved the directory is a part of the keys. -/
theorem named_of_resolved (hroot : s.root = ⟨true, s.rootPlace f⟩) (name : String) (places : List Place) :
    s.named ⟨true, s.rootPlace f ++ [name]⟩ places = .ok ((places.map (name :: ·)).map (joinWith "/")) := by
  unfold named
  rw [List.map_map]
  refine mapM_eq_map fun q _ => ?_
  have hrest : s.root.parts.isPrefixOf? (s.rootPlace f ++ [name] ++ q) = some (name :: q) := by
    rw [hroot, List.isPrefixOf?_eq_some_iff_append_eq, List.append_assoc, List.singleton_append]
  have habs : s.root.absolute = true := by rw [hroot]
  dsimp only
  rw [habs, beq_self_eq_true, if_pos rfl, hrest]
  rfl

/-- A place that takes nothing back is not below any other root. -/
theorem named_of_unresolved (hroot : s.root ≠ ⟨true, s.rootPlace f⟩) {place q : Place} (hdots : ".." ∉ place ++ q)
    (places : List Place) : s.named ⟨true, place⟩ (q :: places) = .error (notBelow (place ++ q) s.root) := by
  unfold named
  rw [List.mapM_cons]
  cases habs : s.root.absolute with
  | false => rfl
  | true =>
    have hparts : s.root.parts.isPrefixOf? (place ++ q) = none := by
      rw [Option.eq_none_iff_forall_ne_some]
      intro rest hrest
      rw [List.isPrefixOf?_eq_some_iff_append_eq] at hrest
      have hflat : s.rootPlace f = s.root.parts := by
        unfold rootPlace Files.resolve
        rw [if_pos habs]
        refine PathName.flatten_of_notMem fun hmem => hdots ?_
        rw [← hrest]
        exact List.mem_append_left _ hmem
      rw [hflat, ← habs] at hroot
      exact hroot rfl
    rw [beq_self_eq_true, if_pos rfl, hparts]
    rfl

/-- What is listed of the root is listed of the directories in it. -/
theorem filter_listed (hname : name ≠ "..") (hending : '/' ∉ ending.toList) (s : Store) (f : Files) :
    (listed f s.root ending).filter (Files.isIn name) =
      (listed f ⟨true, s.rootPlace f ++ [name]⟩ ending).map (name :: ·) := by
  have hplace : f.resolve ⟨true, s.rootPlace f ++ [name]⟩ = s.rootPlace f ++ [name] :=
    PathName.flatten_of_notMem (not_mem_directory_dots hname)
  have hpattern : '/' ∉ ("*" ++ ending).toList := by
    rw [String.toList_append, List.mem_append, not_or]
    exact ⟨by decide, hending⟩
  unfold listed
  rw [hplace, List.filter_comm, Files.filter_filesBelow hpattern, List.filter_map]
  refine congrArg (List.map (name :: ·)) (List.filter_congr fun q hq => ?_)
  have htemp : isTemp ([name] ++ q) = isTemp q := isTemp_append (Files.mem_filesBelow hq).1
  rw [Function.comp_apply, ← htemp, List.singleton_append]

end Store

namespace Repository

variable {store : Store} {f g : Files} {now : String}

/-! ## What is below the root -/

/-- A listing passes over a file with the bytes. -/
def IsPassedOver (bytes : List UInt8) : Prop := ∀ now, ∃ d, decode now bytes = .error d ∧ d ≠ .hugeInteger

/-- A file below the root is that of the session that it holds, or it is passed over. -/
structure IsEntry (rest : Place) (bytes : List UInt8) : Prop where
  names : ∀ name ∈ rest, PathName.IsName name
  content : IsPassedOver bytes ∨
    ∃ s : Session, rest = [Naming.safeName s.name, s.key.fileName] ∧ ∀ now, decode now bytes = .ok s

theorem IsEntry.not_mem_dots {rest : Place} {bytes : List UInt8} (h : IsEntry rest bytes) :
    ".." ∉ store.rootPlace f ++ rest := by
  rw [List.mem_append, not_or]
  exact ⟨Files.not_mem_resolve_dots, fun hmem => (h.names _ hmem).not_points rfl⟩

/-- Every file below the root is an entry. -/
structure Shelved (store : Store) (f : Files) : Prop where
  tree : f.IsTree
  entries : ∀ rest ≠ [], ∀ bytes, f.nodeAt (store.rootPlace f ++ rest) = some (.file bytes) → IsEntry rest bytes

/-- The files that come about when sessions are saved in a store in which there are no files at first, while others may
put files beside them that a listing passes over, and take files away. -/
inductive Filled (store : Store) : Files → Prop where
  | fresh {f : Files} (tree : f.IsTree)
      (free : ∀ rest ≠ [], ∀ bytes, f.nodeAt (store.rootPlace f ++ rest) ≠ some (.file bytes)) : Filled store f
  | saved {f : Files} (h : Filled store f) (s : Session) : Filled store (save store s f).2
  | beside {f g : Files} (h : Filled store f) (tree : g.IsTree) (workDir : g.workDir = f.workDir)
      (others : ∀ rest ≠ [], ∀ bytes, g.nodeAt (store.rootPlace f ++ rest) = some (.file bytes) →
        f.nodeAt (store.rootPlace f ++ rest) = some (.file bytes) ∨
          (∀ name ∈ rest, PathName.IsName name) ∧ IsPassedOver bytes) : Filled store g

/-- What is below the root is shelved as long as every file that is new there is an entry. -/
theorem Shelved.of_files (h : Shelved store f) (htree : g.IsTree) (hdir : g.workDir = f.workDir)
    (hfiles : ∀ rest ≠ [], ∀ bytes, g.nodeAt (store.rootPlace f ++ rest) = some (.file bytes) →
      f.nodeAt (store.rootPlace f ++ rest) = some (.file bytes) ∨ IsEntry rest bytes) : Shelved store g where
  tree := htree
  entries rest hrest bytes hnode := by
    have hroot : store.rootPlace g = store.rootPlace f := Store.resolve_congr hdir store.root
    rw [hroot] at hnode
    exact (hfiles rest hrest bytes hnode).elim (h.entries rest hrest bytes) id

theorem isEntry_of_fileText {s : Session} {path text : String} (hpath : s.key.path = .ok path)
    (htext : fileText s = .ok text) :
    IsEntry [Naming.safeName s.name, s.key.fileName] (Text.Utf8.encode text) where
  names := SessionKey.isName_of_path hpath
  content := .inr ⟨s.stored, rfl, decode_fileText htext⟩

/-- A save leaves what is below the root shelved. -/
theorem Shelved.save (h : Shelved store f) (s : Session) : Shelved store (save store s f).2 := by
  rw [save_apply]
  cases hpath : s.key.path with
  | error e => exact h
  | ok path =>
    cases htext : fileText s with
    | error e => exact h
    | ok text =>
      dsimp only
      rcases Store.writeWith_cases .none store path (Utf8.encode text) f with
        ⟨e, g, n, hwrite, hdirs⟩ | ⟨place, k, hmade, -, hwrite⟩
      · rw [Store.write, hwrite]
        have hundone := Store.undone_of_makeDirectories h.tree hdirs
        exact h.of_files hundone.tree (Files.Extends.makeDirectories hdirs).workDir fun rest _ bytes hnode =>
          .inl ((hundone.files _ id bytes).mp hnode)
      · rw [Store.write, hwrite]
        obtain rfl := (Store.placeOf_eq_ok hmade.placeOf).1
        have hdone := Store.done_of_made h.tree hmade (Utf8.encode text)
        have hextends := Files.Extends.makeDirectories hmade.directories
        refine h.of_files hdone.tree hextends.workDir fun rest _ bytes hnode => ?_
        by_cases hself : store.rootPlace f ++ rest = store.placeBelow f path
        · rw [hself, Files.nodeAt_put_self _ hmade.ne_nil] at hnode
          obtain rfl := FileNode.file.inj (Option.some.inj hnode)
          rw [Store.placeBelow_eq hpath, List.append_assoc, List.append_cancel_left_eq] at hself
          rw [hself]
          exact .inr (isEntry_of_fileText hpath htext)
        · exact .inl ((hdone.files _ hself bytes).mp hnode)

theorem Filled.shelved (h : Filled store f) : Shelved store f := by
  induction h with
  | fresh tree free => exact ⟨tree, fun rest hrest bytes hnode => absurd hnode (free rest hrest bytes)⟩
  | saved _ s ih => exact ih.save s
  | beside _ tree workDir others ih =>
    refine ih.of_files tree workDir fun rest hrest bytes hnode => ?_
    exact (others rest hrest bytes hnode).imp_right fun ⟨hnames, hover⟩ => ⟨hnames, .inl hover⟩

/-! ## What is listed -/

/-- The session that is read at a place, if one is. -/
def sessionAt (f : Files) (now : String) (place : Place) : Option Session :=
  match f.read ⟨true, place⟩ with
  | .ok bytes => (decode now bytes).toOption
  | .error _ => none

/-- The listing takes each file that is below the root for the session that is read there, or passes over it. -/
theorem Shelved.listed_eq (h : Shelved store f) {name : String} (hopens : store.Opens f name) {rest : Place}
    (hrest : rest ≠ []) {bytes : List UInt8} (hnode : f.nodeAt (store.rootPlace f ++ rest) = some (.file bytes))
    (now : String) :
    listed store f now (joinWith "/" rest) = .ok (sessionAt f now (store.rootPlace f ++ rest)) := by
  have hentry := h.entries rest hrest bytes hnode
  have hplace := Store.placeOf_joinWith hopens hrest hentry.names
  have hread : store.read f (joinWith "/" rest) =
      (f.read ⟨true, store.rootPlace f ++ rest⟩).mapError Fault.incident := by
    unfold Store.read
    rw [hplace]
    rfl
  unfold listed sessionAt
  rw [hread]
  rcases h.tree.read_cases hentry.not_mem_dots (Store.placeOf_eq_ok hplace).2 hnode with hbytes | hlong
  · rw [hbytes]
    dsimp only [Except.mapError]
    rcases hentry.content with hover | ⟨s, -, hdecode⟩
    · obtain ⟨d, hd, hhuge⟩ := hover now
      rw [hd]
      cases d with
      | hugeInteger => exact absurd rfl hhuge
      | notText e => rfl
      | notJson message => rfl
      | notSession errors => rfl
    · rw [hdecode now]
      rfl
  · rw [hlong]
    rfl

/-- What is read is in the directory of its workflow. -/
theorem Shelved.isIn_of_sessionAt (h : Shelved store f) {rest : Place} (hrest : rest ≠ []) {bytes : List UInt8}
    (hnode : f.nodeAt (store.rootPlace f ++ rest) = some (.file bytes)) {s : Session}
    (hs : sessionAt f now (store.rootPlace f ++ rest) = some s) :
    Files.isIn (Naming.safeName s.name) rest = true := by
  have hentry := h.entries rest hrest bytes hnode
  unfold sessionAt at hs
  cases hread : f.read ⟨true, store.rootPlace f ++ rest⟩ with
  | error i =>
    rw [hread] at hs
    cases hs
  | ok content =>
    rw [hread] at hs
    have hsame := (Files.nodeAt_of_read hentry.not_mem_dots hread).symm.trans hnode
    obtain rfl := FileNode.file.inj (Option.some.inj hsame)
    dsimp only at hs
    rcases hentry.content with hover | ⟨t, hplace, hdecode⟩
    · obtain ⟨d, hd, -⟩ := hover now
      rw [hd] at hs
      cases hs
    · rw [hdecode now] at hs
      obtain rfl := Option.some.inj hs
      rw [hplace, Files.isIn_iff]
      exact ⟨_, List.cons_ne_nil _ _, rfl⟩

/-! ## The listings -/

/-- The files that a listing of all sessions finds below the root. -/
def allFiles (store : Store) (f : Files) : List Place := Store.listed f store.root SessionKey.fileSuffix

/-- Those that a listing of a workflow finds in its directory. -/
def filesOf (store : Store) (f : Files) (w : String) : List Place :=
  Store.listed f ⟨true, store.rootPlace f ++ [Naming.safeName w]⟩ SessionKey.fileSuffix

theorem mem_allFiles {q : Place} (h : q ∈ allFiles store f) :
    q ≠ [] ∧ ∃ bytes, f.nodeAt (store.rootPlace f ++ q) = some (.file bytes) :=
  Files.mem_filesBelow (List.mem_filter.mp h).1

theorem filter_allFiles (store : Store) (f : Files) (w : String) :
    (allFiles store f).filter (Files.isIn (Naming.safeName w)) = (filesOf store f w).map (Naming.safeName w :: ·) :=
  Store.filter_listed (Naming.isName_safeName w).not_points (by decide) store f

/-- The sessions that are read at places below the root. -/
def sessionsAt (store : Store) (f : Files) (now : String) (places : List Place) : List Session :=
  places.filterMap fun q => sessionAt f now (store.rootPlace f ++ q)

/-- Whichever files below the root are listed, their sessions are found. -/
theorem Shelved.exists_mapM_listed (h : Shelved store f) {name : String} (hopens : store.Opens f name)
    {places : List Place} (hplaces : ∀ q ∈ places, q ∈ allFiles store f) (now : String) :
    ∃ found, (places.map (joinWith "/")).mapM (listed store f now) = .ok found ∧
      found.filterMap id = sessionsAt store f now places := by
  refine ⟨places.map fun q => sessionAt f now (store.rootPlace f ++ q), ?_, ?_⟩
  · rw [List.mapM_map]
    refine mapM_eq_map fun q hq => ?_
    obtain ⟨hnil, bytes, hnode⟩ := mem_allFiles (hplaces q hq)
    exact h.listed_eq hopens hnil hnode now
  · rw [sessionsAt, List.filterMap_map]
    rfl

/-- The sessions of a workflow are read in its directory. -/
theorem Shelved.filter_sessionsAt (h : Shelved store f) (w : String) :
    (sessionsAt store f now ((filesOf store f w).map (Naming.safeName w :: ·))).filter (·.name == w) =
      (sessionsAt store f now (allFiles store f)).filter (·.name == w) := by
  unfold sessionsAt
  rw [← filter_allFiles, List.filterMap_filter, List.filter_filterMap, List.filter_filterMap]
  refine List.filterMap_congr fun q hq => ?_
  obtain ⟨hnil, bytes, hnode⟩ := mem_allFiles hq
  cases hin : Files.isIn (Naming.safeName w) q with
  | true => rfl
  | false =>
    -- A session of another directory has a name with another safe form.
    cases hs : sessionAt f now (store.rootPlace f ++ q) with
    | none => rfl
    | some s =>
      have hname : s.name ≠ w := by
        rintro rfl
        rw [h.isIn_of_sessionAt hnil hnode hs] at hin
        cases hin
      exact (Option.filter_some_neg (by simpa using hname)).symm

/-- The order of a listing does not depend on which of its sessions are kept. -/
theorem filter_newestFirst (p : Session → Bool) (ss : List Session) :
    (newestFirst ss).filter p = newestFirst (ss.filter p) := by
  refine filter_mergeSort (fun a b c hab hbc => ?_) (fun a b => ?_) p ss
  · rw [decide_eq_true_eq] at hab hbc ⊢
    exact hbc.trans hab
  · rw [Bool.or_eq_true, decide_eq_true_eq, decide_eq_true_eq]
    exact le_total _ _

/-- All sessions are listed by way of the keys in the root. -/
theorem list_none (store : Store) (f : Files) (now : String) :
    list store f now none =
      (store.keys f "" SessionKey.fileSuffix).bind fun paths =>
        (paths.mapM (listed store f now)).bind fun found => .ok (newestFirst (found.filterMap id)) := rfl

/-- A workflow is listed by way of the keys in its directory. -/
theorem list_some {w : String} (hw : w ≠ "") (store : Store) (f : Files) (now : String) :
    list store f now (some w) =
      (store.keys f (Naming.safeName w) SessionKey.fileSuffix).bind fun paths =>
        (paths.mapM (listed store f now)).bind fun found =>
          .ok (newestFirst ((found.filterMap id).filter (·.name == w))) := by
  have hname : (some w).filter (!·.isEmpty) = some w := by simpa using hw
  unfold list
  dsimp only
  rw [hname]
  rfl

/-- The listing of all is that of all files, or of none if two points are in the way. -/
theorem Shelved.exists_list_all (h : Shelved store f) {name : String} (hopens : store.Opens f name) (now : String) :
    ∃ places, list store f now none = .ok (newestFirst (sessionsAt store f now places)) ∧
      (places = allFiles store f ∨ ".." ∈ store.root.parts ∧ places = []) := by
  have hlist {places : List Place} (hplaces : ∀ q ∈ places, q ∈ allFiles store f)
      (hkeys : store.keys f "" SessionKey.fileSuffix = .ok (places.map (joinWith "/"))) :
      list store f now none = .ok (newestFirst (sessionsAt store f now places)) := by
    obtain ⟨found, hfound, hsessions⟩ := h.exists_mapM_listed hopens hplaces now
    rw [list_none, hkeys, ← hsessions]
    change ((places.map (joinWith "/")).mapM (listed store f now)).bind _ = _
    rw [hfound]
    rfl
  rcases Store.keys_root_cases h.tree hopens SessionKey.fileSuffix with hkeys | ⟨hdots, hkeys⟩
  · exact ⟨_, hlist (fun _ => id) hkeys, .inl rfl⟩
  · exact ⟨[], hlist nofun hkeys, .inr ⟨hdots, rfl⟩⟩

/-- In a directory of the root the same sessions of its workflow are listed as among all. -/
theorem Shelved.list_of_keys (h : Shelved store f) {w : String} (hw : w ≠ "")
    (hopens : store.Opens f (Naming.safeName w))
    (hkeys : store.keys f (Naming.safeName w) SessionKey.fileSuffix =
      .ok (((filesOf store f w).map (Naming.safeName w :: ·)).map (joinWith "/"))) (now : String) :
    list store f now (some w) =
      .ok ((newestFirst (sessionsAt store f now (allFiles store f))).filter (·.name == w)) := by
  have hplaces : ∀ q ∈ (filesOf store f w).map (Naming.safeName w :: ·), q ∈ allFiles store f := by
    rw [← filter_allFiles]
    exact fun q hq => List.mem_of_mem_filter hq
  obtain ⟨found, hfound, hsessions⟩ := h.exists_mapM_listed hopens hplaces now
  rw [list_some hw, hkeys, filter_newestFirst, ← h.filter_sessionsAt, ← hsessions]
  change ((((filesOf store f w).map _).map (joinWith "/")).mapM (listed store f now)).bind _ = _
  rw [hfound]
  rfl

theorem keys_of_workflow (htree : f.IsTree) {w : String} (hopens : store.Opens f (Naming.safeName w)) :
    store.keys f (Naming.safeName w) SessionKey.fileSuffix =
      store.named ⟨true, store.rootPlace f ++ [Naming.safeName w]⟩ (filesOf store f w) :=
  Store.keys_directory htree hopens (Naming.isName_safeName w) SessionKey.fileSuffix

/-- A workflow that has no files has no sessions, whatever other files there are. -/
theorem list_of_no_files (htree : f.IsTree) {w : String} (hw : w ≠ "") (hopens : store.Opens f (Naming.safeName w))
    (hnone : filesOf store f w = []) (now : String) : list store f now (some w) = .ok [] := by
  rw [list_some hw, keys_of_workflow htree hopens, hnone]
  exact congrArg Except.ok List.mergeSort_nil

/-- Below a root that is not written as it is resolved a workflow that has files is not listed. -/
theorem Shelved.list_of_unresolved (h : Shelved store f) {w : String} (hw : w ≠ "")
    (hopens : store.Opens f (Naming.safeName w)) (hroot : store.root ≠ ⟨true, store.rootPlace f⟩) {q : Place}
    {qs : List Place} (hq : filesOf store f w = q :: qs) (now : String) :
    list store f now (some w) =
      .error (Store.notBelow (store.rootPlace f ++ [Naming.safeName w] ++ q) store.root) := by
  have hmem : Naming.safeName w :: q ∈ allFiles store f := by
    have hin : Naming.safeName w :: q ∈ (filesOf store f w).map (Naming.safeName w :: ·) := by
      rw [hq]
      exact List.mem_cons_self
    rw [← filter_allFiles] at hin
    exact List.mem_of_mem_filter hin
  obtain ⟨hnil, bytes, hnode⟩ := mem_allFiles hmem
  have hdots : ".." ∉ store.rootPlace f ++ [Naming.safeName w] ++ q := by
    rw [List.append_assoc, List.singleton_append]
    exact (h.entries _ hnil bytes hnode).not_mem_dots
  rw [list_some hw, keys_of_workflow h.tree hopens, hq, Store.named_of_unresolved hroot hdots]
  rfl

/-! ## One file -/

def stateStore (absolute : Bool) : Store := ⟨⟨absolute, ["state"]⟩⟩

/-- One file in the directory of a workflow. -/
def lone (bytes : List UInt8) : Files :=
  { nodes := [(["state"], .directory), (["state", "demo"], .directory), (["state", "demo", "x.json"], .file bytes)] }

theorem isTree_lone (bytes : List UInt8) : (lone bytes).IsTree := by
  refine Files.isTree_of_nodes (fun e he => ?_) List.not_mem_nil
  simp only [lone, List.mem_cons, List.not_mem_nil, or_false] at he
  rcases he with rfl | rfl | rfl <;> rfl

theorem isName_lone : ∀ name ∈ ["demo", "x.json"], PathName.IsName name := by
  rw [List.forall_mem_cons, List.forall_mem_singleton]
  constructor <;> constructor <;> decide

theorem decode_replicate {n : ℕ} (h : Decimal.maxIntDigits < n) (now : String) :
    decode now (Utf8.encode (String.ofList (List.replicate n '1'))) = .error .hugeInteger := by
  obtain ⟨n, rfl⟩ := Nat.exists_eq_add_one_of_ne_zero (Nat.ne_of_gt (Nat.zero_lt_of_lt h))
  have hnumber : Json.number? false ('1' :: List.replicate n '1') = some (.error .hugeInteger) := by
    have hwhole : Json.wholeDigits? ('1' :: List.replicate n '1') = some ('1' :: List.replicate n '1', []) := by
      simp [Json.wholeDigits?]
    unfold Json.number?
    rw [hwhole]
    simp [Json.fraction, Json.exponent?, h]
  have hread := Json.readValue_of_isDigit (by decide) (n + 1) hnumber
  have hskip : Json.skip ('1' :: List.replicate n '1') = '1' :: List.replicate n '1' := rfl
  have hparse : Json.parse (String.ofList (List.replicate (n + 1) '1')) = .error .hugeInteger := by
    unfold Json.parse Json.readAll
    rw [String.toList_ofList, List.replicate_succ]
    split
    · rename_i heq
      exact absurd (List.cons.inj heq).1 (by decide)
    · rw [hskip, List.length_cons, List.length_replicate, hread]
  unfold decode
  rw [Utf8.decode_encode]
  dsimp only
  rw [hparse]

/-- An integer that has one digit too many. -/
def tooLarge : List UInt8 := Utf8.encode (String.ofList (List.replicate (Decimal.maxIntDigits + 1) '1'))

theorem decode_tooLarge (now : String) : decode now tooLarge = .error .hugeInteger :=
  decode_replicate (Nat.lt_succ_self Decimal.maxIntDigits) now

theorem rootPlace_lone (absolute : Bool) (bytes : List UInt8) :
    (stateStore absolute).rootPlace (lone bytes) = ["state"] := by
  cases absolute <;> rfl

theorem opens_lone (absolute : Bool) (bytes : List UInt8) {name : String} (h : Files.Fits ["state", name]) :
    (stateStore absolute).Opens (lone bytes) name where
  null := by cases absolute <;> decide +kernel
  path := by cases absolute <;> decide +kernel
  names := by
    change ∀ part ∈ ["state"], part.utf8ByteSize ≤ Files.maxName
    decide
  place_null := by
    rw [rootPlace_lone]
    decide +kernel
  place_fits := by
    rw [rootPlace_lone]
    exact h

theorem allFiles_lone (absolute : Bool) (bytes : List UInt8) :
    allFiles (stateStore absolute) (lone bytes) = [["demo", "x.json"]] := by
  have hbelow : (lone bytes).below ["state"] = [["demo"], ["demo", "x.json"]] := by
    have hsorted : [["demo"], ["demo", "x.json"]].Pairwise (Files.placeLE · ·) := by decide +kernel
    exact List.mergeSort_of_pairwise hsorted
  have hroot : (lone bytes).resolve (stateStore absolute).root = ["state"] := rootPlace_lone absolute bytes
  have hfile : (lone bytes).isFileAt ["state", "demo", "x.json"] = true := rfl
  have hdirectory : (lone bytes).isFileAt ["state", "demo"] = false := rfl
  unfold allFiles Store.listed
  rw [hroot, Files.filesBelow_eq, if_neg (by decide +kernel), hbelow]
  simp only [List.filter_cons, List.filter_nil, List.cons_append, List.nil_append, hfile, hdirectory]
  decide +kernel

theorem filesOf_lone (absolute : Bool) (bytes : List UInt8) :
    filesOf (stateStore absolute) (lone bytes) "demo" = [["x.json"]] ∧
      filesOf (stateStore absolute) (lone bytes) "other" = [] := by
  have hdemo := filter_allFiles (stateStore absolute) (lone bytes) "demo"
  have hother := filter_allFiles (stateStore absolute) (lone bytes) "other"
  rw [allFiles_lone] at hdemo hother
  constructor
  · have hkept : [["demo", "x.json"]].filter (Files.isIn (Naming.safeName "demo")) = [["demo", "x.json"]] := by
      decide +kernel
    rw [hkept] at hdemo
    obtain ⟨q, hq, hplace⟩ := List.map_eq_singleton_iff.mp hdemo.symm
    rw [hq, (List.cons.inj hplace).2]
  · have hkept : [["demo", "x.json"]].filter (Files.isIn (Naming.safeName "other")) = [] := by decide +kernel
    rw [hkept] at hother
    exact List.map_eq_nil_iff.mp hother.symm

theorem filled_lone (absolute : Bool) {bytes : List UInt8} (h : IsPassedOver bytes) :
    Filled (stateStore absolute) (lone bytes) := by
  have hnone {q : Place} (hq : q ≠ []) : ({} : Files).nodeAt q = none := Files.nodeAt_of_ne_nil {} hq
  have hfresh : Filled (stateStore absolute) {} := by
    refine .fresh (Files.isTree_of_nodes nofun List.not_mem_nil) fun rest hrest content hnode => ?_
    rw [hnone (List.append_ne_nil_of_right_ne_nil _ hrest)] at hnode
    cases hnode
  refine hfresh.beside (isTree_lone bytes) rfl fun rest hrest content hnode => .inr ?_
  have hroot : (stateStore absolute).rootPlace {} = ["state"] := by cases absolute <;> rfl
  rw [hroot] at hnode
  have hmem : ["state"] ++ rest ∈ (lone bytes).nodes.map (·.1) :=
    Files.mem_nodes_of_nodeAt (List.cons_ne_nil _ _) (by rw [hnode]; exact Option.some_ne_none _)
  simp only [lone, List.map_cons, List.map_nil, List.mem_cons, List.not_mem_nil, or_false, List.singleton_append,
    List.cons.injEq, true_and] at hmem
  rcases hmem with rfl | rfl | rfl
  · exact absurd rfl hrest
  · cases hnode
  · obtain rfl := FileNode.file.inj (Option.some.inj hnode)
    exact ⟨isName_lone, h⟩

theorem decode_nil (now : String) : ∃ message, decode now [] = .error (.notJson message) := by
  change ∃ message, decode now (Utf8.encode "") = _
  unfold decode
  rw [Utf8.decode_encode]
  exact ⟨_, rfl⟩

theorem isPassedOver_nil : IsPassedOver [] := by
  intro now
  obtain ⟨message, hmessage⟩ := decode_nil now
  exact ⟨_, hmessage, nofun⟩

/-- The listing of all is that of the one file. -/
theorem list_lone (absolute : Bool) (bytes : List UInt8) (now : String) :
    list (stateStore absolute) (lone bytes) now none =
      match decode now bytes with
      | .ok s => .ok [s]
      | .error .hugeInteger => .error (Damage.fault ⟨"", ""⟩ .hugeInteger)
      | .error _ => .ok [] := by
  have htree := isTree_lone bytes
  have hopens := @opens_lone absolute bytes "demo" ⟨by decide +kernel, by decide +kernel⟩
  have hdots : ".." ∉ (stateStore absolute).root.parts := by
    change ".." ∉ ["state"]
    decide
  have hkeys := (Store.keys_root_cases htree hopens SessionKey.fileSuffix).resolve_right fun h => hdots h.1
  change _ = Except.ok ((allFiles (stateStore absolute) (lone bytes)).map _) at hkeys
  rw [allFiles_lone] at hkeys
  have hplace := Store.placeOf_joinWith hopens (List.cons_ne_nil "demo" ["x.json"]) isName_lone
  rw [rootPlace_lone] at hplace
  have hread : (stateStore absolute).read (lone bytes) (joinWith "/" ["demo", "x.json"]) = .ok bytes := by
    rw [Store.read_eq_ok_iff htree, ← (Store.placeOf_eq_ok hplace).1]
    exact ⟨hplace, (Store.placeOf_eq_ok hplace).2, ⟨by decide +kernel, by decide +kernel⟩, rfl⟩
  have hlist : list (stateStore absolute) (lone bytes) now none =
      (listed (stateStore absolute) (lone bytes) now (joinWith "/" ["demo", "x.json"])).map
        fun o => newestFirst o.toList := by
    change ((stateStore absolute).keys (lone bytes) "" SessionKey.fileSuffix).bind _ = _
    rw [hkeys]
    change ([joinWith "/" ["demo", "x.json"]].mapM (listed (stateStore absolute) (lone bytes) now)).bind _ = _
    rw [List.mapM_cons, List.mapM_nil]
    rcases listed (stateStore absolute) (lone bytes) now (joinWith "/" ["demo", "x.json"]) with e | (_ | s) <;> rfl
  rw [hlist]
  unfold listed
  rw [hread]
  dsimp only
  cases decode now bytes with
  | ok s => exact congrArg Except.ok (List.mergeSort_singleton s)
  | error d =>
    cases d with
    | hugeInteger => rfl
    | notText e => exact congrArg Except.ok List.mergeSort_nil
    | notJson message => exact congrArg Except.ok List.mergeSort_nil
    | notSession errors => exact congrArg Except.ok List.mergeSort_nil

/-! ## The listing of a workflow -/

/-- Below a root that is written as it is resolved, or where the workflow has no files, its listing keeps its sessions
of the listing of all and their order. Below any other root it fails at the first file of the workflow. -/
theorem one_workflow_is_listed_as_among_all (hfilled : Filled store f) {w : String} (hw : w ≠ "")
    (hopens : store.Opens f (Naming.safeName w)) (now : String) :
    ∃ ss, list store f now none = .ok ss ∧
      if store.root = ⟨true, store.rootPlace f⟩ ∨ filesOf store f w = [] then
        list store f now (some w) = .ok (ss.filter (·.name == w))
      else
        ∃ q ∈ filesOf store f w, list store f now (some w) =
          .error (Store.notBelow (store.rootPlace f ++ [Naming.safeName w] ++ q) store.root) := by
  have hshelved := hfilled.shelved
  obtain ⟨places, hall, hplaces⟩ := hshelved.exists_list_all hopens now
  refine ⟨_, hall, ?_⟩
  split_ifs with hlisted
  · rcases hlisted with hroot | hnone
    · have hdots : ".." ∉ store.root.parts := by
        rw [hroot]
        exact Files.not_mem_resolve_dots
      obtain rfl := hplaces.resolve_right fun h => hdots h.1
      refine hshelved.list_of_keys hw hopens ?_ now
      rw [keys_of_workflow hshelved.tree hopens, Store.named_of_resolved hroot]
    · have hfilter : (sessionsAt store f now places).filter (·.name == w) = [] := by
        rcases hplaces with rfl | ⟨-, rfl⟩
        · rw [← hshelved.filter_sessionsAt, hnone]
          rfl
        · rfl
      rw [list_of_no_files hshelved.tree hw hopens hnone, filter_newestFirst, hfilter]
      exact congrArg Except.ok List.mergeSort_nil.symm
  · rw [not_or] at hlisted
    obtain ⟨q, qs, hq⟩ := List.exists_cons_of_ne_nil hlisted.2
    refine ⟨q, ?_, hshelved.list_of_unresolved hw hopens hlisted.1 hq now⟩
    rw [hq]
    exact List.mem_cons_self

/-- Sessions of two workflows are saved beside an empty file, and those of one are listed. -/
theorem demo_is_listed_as_among_all :
    let session (name : String) : Session :=
      { name, id := "s", currentStep := none, «variables» := [], createdAt := "", updatedAt := "" }
    let f := (save (stateStore true) (session "other") (save (stateStore true) (session "demo") (lone [])).2).2
    ∃ ss, list (stateStore true) f "" none = .ok ss ∧
      list (stateStore true) f "" (some "demo") = .ok (ss.filter (·.name == "demo")) := by
  intro session f
  have hfilled : Filled (stateStore true) f := ((filled_lone true isPassedOver_nil).saved _).saved _
  have hopens : (stateStore true).Opens f (Naming.safeName "demo") :=
    ⟨by decide +kernel, by decide +kernel, by decide +kernel, by decide +kernel, ⟨by decide +kernel, by decide +kernel⟩⟩
  obtain ⟨ss, hall, hone⟩ := one_workflow_is_listed_as_among_all hfilled (by decide : "demo" ≠ "") hopens ""
  rw [if_pos (.inl rfl)] at hone
  exact ⟨ss, hall, hone⟩

/-- An integer of too many digits in a file of another workflow fails the listing of all. Below a relative root it is
the listing of the workflow that fails. -/
theorem exists_listings_that_disagree :
    list (stateStore true) (lone tooLarge) "" none =
        .error (Damage.fault ⟨"", ""⟩ .hugeInteger) ∧
      list (stateStore true) (lone tooLarge) "" (some "other") = .ok [] ∧
      list (stateStore false) (lone []) "" none = .ok [] ∧
      list (stateStore false) (lone []) "" (some "demo") =
        .error (Store.notBelow ["state", "demo", "x.json"] ⟨false, ["state"]⟩) := by
  refine ⟨?_, ?_, ?_, ?_⟩
  · rw [list_lone, decode_tooLarge]
  · have hopens := @opens_lone true tooLarge (Naming.safeName "other") ⟨by decide +kernel, by decide +kernel⟩
    exact list_of_no_files (isTree_lone tooLarge) (by decide) hopens (filesOf_lone true tooLarge).2 ""
  · obtain ⟨message, hmessage⟩ := decode_nil ""
    rw [list_lone, hmessage]
  · have hopens := @opens_lone false [] (Naming.safeName "demo") ⟨by decide +kernel, by decide +kernel⟩
    have hshelved := (filled_lone false isPassedOver_nil).shelved
    have hfails := hshelved.list_of_unresolved (by decide) hopens nofun (filesOf_lone false []).1 ""
    rw [rootPlace_lone] at hfails
    exact hfails

end Repository

end Runbook
