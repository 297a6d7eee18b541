import Runbook.Proofs.Each
import Runbook.Proofs.Files.Contents
import Runbook.Proofs.Session.Store

/-! A write is all or nothing: wherever it is stopped the store shows what it showed before, whether the call fails and
takes the temporary file away or the process dies and leaves it. -/

namespace Runbook

open Text

namespace Files

/-! ## What is added -/

/-- Nothing is added but directories, and nodes at the places of `N`. -/
structure Adds (N : Place → Prop) (f g : Files) : Prop where
  workDir : g.workDir = f.workDir
  nodes : ∃ extra, g.nodes = f.nodes ++ extra ∧ ∀ e ∈ extra, f.nodeAt e.1 = none ∧ (e.2 = .directory ∨ N e.1)

namespace Adds

variable {N : Place → Prop} {f g k : Files}

theorem find?_eq (h : Adds N f g) (q : Place) :
    g.nodes.find? (·.1 == q) = f.nodes.find? (·.1 == q) ∨
      f.nodeAt q = none ∧ ∃ e, g.nodes.find? (·.1 == q) = some e ∧ (e.2 = .directory ∨ N q) := by
  obtain ⟨extra, hnodes, hextra⟩ := h.nodes
  rw [hnodes, List.find?_append]
  cases hf : f.nodes.find? (·.1 == q) with
  | some e => exact .inl rfl
  | none =>
    cases he : extra.find? (·.1 == q) with
    | none => exact .inl rfl
    | some e =>
      have hplace : e.1 = q := by simpa using List.find?_some he
      obtain ⟨hfree, hnode⟩ := hextra e (List.mem_of_find?_eq_some he)
      exact .inr ⟨hplace ▸ hfree, e, rfl, hplace ▸ hnode⟩

/-- What was there is there still, and nothing else is but for directories. -/
theorem nodeAt (h : Adds N f g) {q : Place} (hq : ¬N q) :
    g.nodeAt q = f.nodeAt q ∨ f.nodeAt q = none ∧ g.nodeAt q = some .directory := by
  by_cases hnil : q = []
  · subst hnil
    exact .inl rfl
  rw [nodeAt_of_ne_nil f hnil, nodeAt_of_ne_nil g hnil]
  rcases h.find?_eq q with heq | ⟨hnone, e, he, hnode⟩
  · rw [heq]
    exact .inl rfl
  · rw [nodeAt_of_ne_nil f hnil] at hnone
    rw [he]
    exact .inr ⟨hnone, congrArg some (hnode.resolve_right hq)⟩

theorem free (h : Adds N f g) {q : Place} (hq : g.nodeAt q = none) : f.nodeAt q = none := by
  by_cases hnil : q = []
  · subst hnil
    cases hq
  rw [nodeAt_of_ne_nil g hnil] at hq
  rcases h.find?_eq q with heq | ⟨hnone, -⟩
  · rwa [nodeAt_of_ne_nil f hnil, ← heq]
  · exact hnone

theorem file_iff (h : Adds N f g) {q : Place} (hq : ¬N q) (b : List UInt8) :
    g.nodeAt q = some (.file b) ↔ f.nodeAt q = some (.file b) := by
  rcases h.nodeAt hq with heq | ⟨hnone, hdir⟩
  · rw [heq]
  · rw [hnone, hdir]
    exact iff_of_false nofun nofun

theorem isFileAt_eq (h : Adds N f g) {q : Place} (hq : ¬N q) : g.isFileAt q = f.isFileAt q := by
  rw [Bool.eq_iff_iff, isFileAt_iff, isFileAt_iff]
  exact exists_congr fun b => h.file_iff hq b

theorem trans (h : Adds N f g) (h' : Adds N g k) : Adds N f k := by
  obtain ⟨extra, hnodes, hextra⟩ := h.nodes
  obtain ⟨extra', hnodes', hextra'⟩ := h'.nodes
  refine ⟨h'.workDir.trans h.workDir, extra ++ extra', by rw [hnodes', hnodes, List.append_assoc], fun e he => ?_⟩
  rcases List.mem_append.mp he with he | he
  · exact hextra e he
  · exact ⟨h.free (hextra' e he).1, (hextra' e he).2⟩

theorem mono {M : Place → Prop} (hNM : ∀ q, N q → M q) (h : Adds N f g) : Adds M f g := by
  obtain ⟨extra, hnodes, hextra⟩ := h.nodes
  exact ⟨h.workDir, extra, hnodes, fun e he => (hextra e he).imp_right (Or.imp_right (hNM _))⟩

theorem makeDirectories {here names : Place} (h : f.makeDirectories here names = .ok g) :
    Adds (fun _ => False) f g := by
  obtain ⟨-, hdir, -⟩ := makeDirectories_ok h
  obtain ⟨dirs, hdirs, hfree⟩ := exists_nodes_of_makeDirectories h
  refine ⟨hdir, _, hdirs, fun e he => ?_⟩
  obtain ⟨d, hd, rfl⟩ := List.mem_map.mp he
  exact ⟨hfree d hd, .inl rfl⟩

theorem put {p : Place} (hnil : p ≠ []) (hfree : f.nodeAt p = none) (n : FileNode) : Adds (· = p) f (f.put p n) := by
  refine ⟨rfl, _, nodes_put_of_free hnil hfree, fun e he => ?_⟩
  obtain rfl := List.mem_singleton.mp he
  exact ⟨hfree, .inr rfl⟩

end Adds

end Files

namespace Store

variable {s : Store} {key : String} {data : List UInt8} {f g : Files} {place : Place} {N : Place → Prop}

/-! ## What a store shows -/

theorem read_eq_ok_iff (h : f.IsTree) {bytes : List UInt8} :
    s.read f key = .ok bytes ↔ s.placeOf f key = .ok (s.placeBelow f key) ∧
      hasNull (Files.placeText (s.placeBelow f key)) = false ∧ Files.Fits (s.placeBelow f key) ∧
        f.nodeAt (s.placeBelow f key) = some (.file bytes) := by
  have hdots : ".." ∉ s.placeBelow f key := Files.not_mem_resolve_dots
  rw [read_eq_ok_iff_read, h.read_eq_ok_iff hdots]

/-- Whether a place is left out of listings. -/
def isTemp (place : Place) : Bool := endsWith (place.getLast?.getD "") tempSuffix

/-- The place below which is listed, as it is written. -/
def base (s : Store) (f : Files) (start : String) : Except Fault PathName :=
  if start.isEmpty then pure s.root else (s.placeOf f start).map fun place => ⟨true, place⟩

/-- The places that are listed, as they go on from the one below which they are. -/
def listed (f : Files) (p : PathName) (ending : String) : List Place :=
  (Glob.filesBelow f (f.resolve p) ("*" ++ ending)).filter fun q => !isTemp q

/-- The keys of listed places. -/
def named (s : Store) (p : PathName) (places : List Place) : Except Fault (List String) :=
  places.mapM fun q =>
    if p.absolute == s.root.absolute then
      match s.root.parts.isPrefixOf? (p.parts ++ q) with
      | some rest => .ok (joinWith "/" rest)
      | none => .error (notBelow (p.parts ++ q) s.root)
    else .error (notBelow (p.parts ++ q) s.root)

theorem keys_apply (s : Store) (f : Files) (start ending : String) :
    s.keys f start ending = (s.base f start).bind fun p =>
      ((f.isDirectory p).mapError .incident).bind fun there =>
        if !there then .ok [] else s.named p (listed f p ending) := by
  unfold keys base
  by_cases hstart : start.isEmpty = true
  · rw [if_pos hstart, if_pos hstart]
    rfl
  · rw [if_neg hstart, if_neg hstart]
    rfl

theorem keys_eq_ok_iff {start ending : String} {ks : List String} (hks : ks ≠ []) :
    s.keys f start ending = .ok ks ↔ ∃ p, s.base f start = .ok p ∧ f.isDirectory p = .ok true ∧
      s.named p (listed f p ending) = .ok ks := by
  rw [keys_apply]
  cases s.base f start with
  | error e => exact iff_of_false nofun fun ⟨p, h, _⟩ => nomatch h
  | ok p =>
    have hdirectory : (∃ q, Except.ok p = Except.ok (ε := Fault) q ∧ f.isDirectory q = .ok true ∧
        s.named q (listed f q ending) = .ok ks) ↔
        f.isDirectory p = .ok true ∧ s.named p (listed f p ending) = .ok ks := by
      constructor
      · rintro ⟨q, hq, h⟩
        obtain rfl := Except.ok.inj hq
        exact h
      · exact fun h => ⟨p, rfl, h⟩
    rw [hdirectory]
    change ((f.isDirectory p).mapError Fault.incident).bind _ = _ ↔ _
    cases f.isDirectory p with
    | error i => exact iff_of_false nofun fun h => nomatch h.1
    | ok there =>
      cases there with
      | false => exact iff_of_false (fun h => hks (Except.ok.inj h).symm) fun h => nomatch h.1
      | true => exact (and_iff_right rfl).symm

/-! ## Listings -/

theorem base_congr (s : Store) (hdir : g.workDir = f.workDir) (start : String) : s.base g start = s.base f start := by
  unfold base
  rw [placeOf_congr s hdir]

theorem resolve_congr (hdir : g.workDir = f.workDir) (p : PathName) : g.resolve p = f.resolve p := by
  unfold Files.resolve
  rw [hdir]

theorem isTemp_append {d p : Place} (hp : p ≠ []) : isTemp (d ++ p) = isTemp p := by
  unfold isTemp
  rw [List.getLast?_append_of_ne_nil _ hp]

theorem listed_congr (h : Files.Adds N f g) (hN : ∀ q, N q → isTemp q = true) (p : PathName) (ending : String) :
    listed g p ending = listed f p ending := by
  have hplain {q : Place} (hnil : q ≠ []) (hkeep : (!isTemp q) = true) : ¬N (f.resolve p ++ q) := by
    intro hmem
    have htemp := hN _ hmem
    rw [isTemp_append hnil] at htemp
    rw [htemp] at hkeep
    cases hkeep
  obtain ⟨extra, hnodes, hextra⟩ := h.nodes
  unfold listed
  rw [resolve_congr h.workDir]
  refine Files.filter_filesBelow_congr _ _ _ hnodes (fun e he q hnil hplace hkeep => ?_) fun q hnil hkeep =>
    h.isFileAt_eq (hplain hnil hkeep)
  have hnot := hplain hnil hkeep
  rw [← hplace] at hnot
  rw [h.isFileAt_eq hnot, Files.isFileAt, (hextra e he).1]

/-- There is a directory above everything that is listed. -/
theorem directory_of_listed (h : f.IsTree) {p : PathName} {ending : String} (hlisted : listed f p ending ≠ []) :
    f.nodeAt (f.resolve p) = some .directory := by
  obtain ⟨q, hq⟩ := List.exists_mem_of_ne_nil _ hlisted
  obtain ⟨hnil, b, hfile⟩ := Files.mem_filesBelow (List.mem_filter.mp hq).1
  exact h.above hnil (by rw [hfile]; simp)

theorem listed_ne_nil {p : PathName} {places : List Place} {ks : List String} (hks : ks ≠ [])
    (h : s.named p places = .ok ks) : places ≠ [] := by
  rintro rfl
  exact hks (Except.ok.inj h).symm

theorem base_dots {start : String} {p : PathName} (hroot : ".." ∉ s.root.parts) (h : s.base f start = .ok p) :
    ".." ∉ p.parts := by
  unfold base at h
  split_ifs at h
  · obtain rfl := Except.ok.inj h
    exact hroot
  · cases hplace : s.placeOf f start with
    | error e =>
      rw [hplace] at h
      cases h
    | ok place =>
      rw [hplace] at h
      obtain rfl := Except.ok.inj h
      rw [(placeOf_eq_ok hplace).1]
      exact Files.not_mem_resolve_dots

/-- The same keys are listed where nothing is added but directories and temporary files. -/
theorem keys_congr (hf : f.IsTree) (hg : g.IsTree) (h : Files.Adds N f g) (hN : ∀ q, N q → isTemp q = true)
    (hroot : ".." ∉ s.root.parts) (start ending : String) {ks : List String} (hks : ks ≠ []) :
    s.keys g start ending = .ok ks ↔ s.keys f start ending = .ok ks := by
  rw [keys_eq_ok_iff hks, keys_eq_ok_iff hks, base_congr s h.workDir]
  refine exists_congr fun p => and_congr_right fun hbase => ?_
  rw [listed_congr h hN]
  refine and_congr_left fun hnamed => ?_
  have hlisted := listed_ne_nil hks hnamed
  have hdots := base_dots hroot hbase
  rw [hf.isDirectory_iff hdots (directory_of_listed hf hlisted)]
  rw [← listed_congr h hN] at hlisted
  rw [hg.isDirectory_iff hdots (directory_of_listed hg hlisted)]

/-! ## Temporary files are not listed -/

/-- Behind a slash there is room for the whole ending. -/
theorem endsWith_of_append {start t : String} (h : endsWith (start ++ "/" ++ t) tempSuffix = true) :
    endsWith t tempSuffix = true := by
  rw [endsWith_iff, String.toList_append, String.toList_append] at h
  rw [endsWith_iff]
  have hslash : "/".toList = ['/'] := rfl
  have hlast : t.toList <:+ start.toList ++ "/".toList ++ t.toList := List.suffix_append _ _
  have hmore : '/' :: t.toList <:+ start.toList ++ "/".toList ++ t.toList := by
    rw [hslash, List.append_assoc]
    exact List.suffix_append _ _
  by_cases hlength : tempSuffix.toList.length ≤ t.toList.length
  · exact List.suffix_of_suffix_length_le h hlast hlength
  · have hinside := List.suffix_of_suffix_length_le hmore h (by simp only [List.length_cons]; omega)
    have hmem : '/' ∈ tempSuffix.toList := hinside.subset List.mem_cons_self
    exact absurd hmem (by decide)

theorem endsWith_joinWith {rest : List String} (h : endsWith (joinWith "/" rest) tempSuffix = true) :
    isTemp rest = true := by
  cases hlast : rest.getLast? with
  | none =>
    rw [List.getLast?_eq_none_iff.mp hlast] at h
    exact absurd h (by decide)
  | some x =>
    obtain ⟨init, rfl⟩ := List.getLast?_eq_some_iff.mp hlast
    unfold isTemp
    rw [hlast, Option.getD_some]
    by_cases hinit : init = []
    · rwa [hinit, List.nil_append, joinWith, String.intercalate_singleton] at h
    · rw [joinWith_concat "/" hinit] at h
      exact endsWith_of_append h

theorem not_isTemp_of_keys {start ending : String} {ks : List String} (h : s.keys f start ending = .ok ks) :
    ∀ k ∈ ks, endsWith k tempSuffix = false := by
  intro k hk
  obtain ⟨p, -, -, hnamed⟩ := (keys_eq_ok_iff (List.ne_nil_of_mem hk)).mp h
  obtain ⟨q, hq, hname⟩ := exists_of_forall₂ (mapM_eq_ok_iff.mp hnamed) hk
  obtain ⟨hbelow, hkeep⟩ := List.mem_filter.mp hq
  obtain ⟨hnil, -⟩ := Files.mem_filesBelow hbelow
  split_ifs at hname
  split at hname
  · rename_i rest hrest
    obtain rfl := Except.ok.inj hname
    have hplace : p.parts ++ q = s.root.parts ++ rest := (List.isPrefixOf?_eq_some_iff_append_eq.mp hrest).symm
    by_contra htemp
    rw [Bool.not_eq_false] at htemp
    have hrestTemp := endsWith_joinWith htemp
    have hrestNil : rest ≠ [] := by
      rintro rfl
      exact absurd hrestTemp (by decide)
    rw [← isTemp_append (d := s.root.parts) hrestNil, ← hplace, isTemp_append hnil] at hrestTemp
    rw [hrestTemp] at hkeep
    cases hkeep
  · cases hname

/-! ## Failure and death -/

/-- The store shows what it showed before a write of the key. Nothing is new but directories, and a temporary file at a
place of `N`. -/
structure Undone (s : Store) (key : String) (N : Place → Prop) (f g : Files) : Prop where
  tree : g.IsTree
  files : ∀ q, ¬N q → ∀ b, g.nodeAt q = some (.file b) ↔ f.nodeAt q = some (.file b)
  reads : ∀ b, s.read g key = .ok b ↔ s.read f key = .ok b
  refusal : Files.Fits (s.placeBelow f key) → s.read g key = s.read f key
  others : ∀ k, ¬N (s.placeBelow f k) → ∀ b, s.read g k = .ok b ↔ s.read f k = .ok b
  lists : ".." ∉ s.root.parts → ∀ start ending ks, ks ≠ [] →
    (s.keys g start ending = .ok ks ↔ s.keys f start ending = .ok ks)
  unlisted : ∀ start ending ks, s.keys g start ending = .ok ks → ∀ k ∈ ks, endsWith k tempSuffix = false

/-- The key reads the data, and nothing else is new but directories. -/
structure Done (s : Store) (key : String) (data : List UInt8) (f g : Files) : Prop where
  tree : g.IsTree
  files : ∀ q, q ≠ s.placeBelow f key → ∀ b, g.nodeAt q = some (.file b) ↔ f.nodeAt q = some (.file b)
  reads : s.read g key = .ok data
  others : ∀ k, s.placeBelow f k ≠ s.placeBelow f key → ∀ b, s.read g k = .ok b ↔ s.read f k = .ok b
  unlisted : ∀ start ending ks, s.keys g start ending = .ok ks → ∀ k ∈ ks, endsWith k tempSuffix = false

theorem Undone.mono {M : Place → Prop} (hNM : ∀ q, N q → M q) (h : Undone s key N f g) : Undone s key M f g :=
  { h with
    files := fun q hq => h.files q (mt (hNM q) hq)
    others := fun k hk => h.others k (mt (hNM _) hk) }

theorem read_iff_of_file_iff (hf : f.IsTree) (hg : g.IsTree) (hdir : g.workDir = f.workDir) {k : String}
    (hfile : ∀ b, g.nodeAt (s.placeBelow f k) = some (.file b) ↔ f.nodeAt (s.placeBelow f k) = some (.file b))
    (b : List UInt8) : s.read g k = .ok b ↔ s.read f k = .ok b := by
  rw [read_eq_ok_iff hf, read_eq_ok_iff hg, placeOf_congr s hdir, placeBelow_congr s hdir, hfile]

theorem undone_of_adds (hf : f.IsTree) (hg : g.IsTree) (h : Files.Adds N f g) (hN : ∀ q, N q → isTemp q = true)
    (hnode : g.nodeAt (s.placeBelow f key) = f.nodeAt (s.placeBelow f key))
    (hway : ∀ j < (s.placeBelow f key).length, ¬N ((s.placeBelow f key).take j)) : Undone s key N f g where
  tree := hg
  files _ hq := h.file_iff hq
  reads := read_iff_of_file_iff hf hg h.workDir fun b => by rw [hnode]
  refusal hfits := read_congr h.workDir <|
    hf.read_congr hg Files.not_mem_resolve_dots hfits hnode fun j hj => h.file_iff (hway j hj)
  others _ hk := read_iff_of_file_iff hf hg h.workDir (h.file_iff hk)
  lists hroot start ending _ := keys_congr hf hg h hN hroot start ending
  unlisted _ _ _ := not_isTemp_of_keys

/-- Some directories on the way to the place of a key are all that is new. -/
theorem undone_of_makeDirectories (htree : f.IsTree) {n : ℕ}
    (hdirs : f.makeDirectories [] ((s.placeBelow f key).dropLast.take n) = .ok g) :
    Undone s key (fun _ => False) f g := by
  have hnode : g.nodeAt (s.placeBelow f key) = f.nodeAt (s.placeBelow f key) := by
    by_cases hnil : s.placeBelow f key = []
    · rw [hnil]
      rfl
    · have hpos := List.length_pos_of_ne_nil hnil
      refine (nodeAt_of_take hdirs ?_).2
      rw [List.length_dropLast]
      omega
  exact undone_of_adds htree (htree.makeDirectories rfl hdirs) (.makeDirectories hdirs) nofun hnode fun _ _ => id

theorem directory_of_makeDirectories {names : Place} (h : f.makeDirectories [] names = .ok g) :
    g.nodeAt names = some .directory := by
  obtain ⟨-, -, -, -, hmade⟩ := Files.makeDirectories_ok h
  cases hlength : names.length with
  | zero =>
    rw [List.eq_nil_of_length_eq_zero hlength]
    rfl
  | succ j =>
    have hlast := hmade j (by omega)
    rwa [List.nil_append, ← hlength, List.take_length] at hlast

theorem isTemp_tempNumbered (place : Place) (n : ℕ) : isTemp (tempNumbered place n) = true := by
  unfold isTemp tempNumbered
  rw [List.getLast?_append, List.getLast?_singleton, Option.some_or, Option.getD_some, endsWith_iff,
    String.toList_append]
  exact List.suffix_append _ _

/-- A temporary file with a part of the data is all that is new besides. -/
theorem undone_of_staged (htree : f.IsTree) {k : Files} (hplace : s.placeOf f key = .ok place)
    (hdirs : f.makeDirectories [] place.dropLast = .ok k) (part : List UInt8) :
    ∃ n, Undone s key (· = tempNumbered (s.placeBelow f key) n) f (staged k (tempFor k place) part) := by
  obtain rfl := (placeOf_eq_ok hplace).1
  obtain ⟨n, hn, hfree, -⟩ := tempFor_spec k (s.placeBelow f key)
  have hnil := tempNumbered_ne_nil (s.placeBelow f key) n
  have hstaged : staged k (tempFor k (s.placeBelow f key)) part =
      k.put (tempNumbered (s.placeBelow f key) n) (.file part) := by rw [staged, Files.put_put, hn]
  have hparent : k.nodeAt (tempNumbered (s.placeBelow f key) n).dropLast = some .directory := by
    rw [tempNumbered, List.dropLast_concat]
    exact directory_of_makeDirectories hdirs
  have hall : f.makeDirectories [] ((s.placeBelow f key).dropLast.take (s.placeBelow f key).dropLast.length) = .ok k := by
    rwa [List.take_length]
  rw [hstaged]
  refine ⟨n, undone_of_adds htree ((htree.makeDirectories rfl hdirs).put hnil hparent (.inr ?_))
    (((Files.Adds.makeDirectories hdirs).mono fun _ => False.elim).trans (.put hnil hfree _)) ?_ ?_ ?_⟩
  · rw [hfree]
    simp
  · rintro q rfl
    exact isTemp_tempNumbered _ n
  · by_cases hroot : s.placeBelow f key = []
    · rw [hroot]
      rfl
    · have hpos := List.length_pos_of_ne_nil hroot
      rw [Files.nodeAt_put_of_ne _ ((isLasting hroot).2 n)]
      refine (nodeAt_of_take hall ?_).2
      rw [List.length_dropLast]
      omega
  · intro j hj heq
    have hlength := congrArg List.length heq
    simp only [tempNumbered, List.length_take, List.length_append, List.length_dropLast, List.length_singleton] at hlength
    omega

theorem fits_of_made {k : Files} (h : Made s key f place k) : Files.Fits place := by
  obtain ⟨hnames, -, -, -, -⟩ := Files.makeDirectories_ok h.directories
  obtain ⟨hfit, hpath⟩ := fits_of_not_isTooLong h.ne_nil hnames h.fits
  exact ⟨hfit, hpath⟩

theorem done_of_made (htree : f.IsTree) {k : Files} (h : Made s key f place k) (data : List UInt8) :
    Done s key data f (k.put place (.file data)) := by
  obtain rfl := (placeOf_eq_ok h.placeOf).1
  have hadds : Files.Adds (fun _ => False) f k := .makeDirectories h.directories
  have hnil := h.ne_nil
  have hparent := directory_of_makeDirectories h.directories
  have hgtree : (k.put (s.placeBelow f key) (.file data)).IsTree :=
    (htree.makeDirectories rfl h.directories).put hnil hparent (.inr h.vacant)
  have hfile {q : Place} (hq : q ≠ s.placeBelow f key) (b : List UInt8) :
      (k.put (s.placeBelow f key) (.file data)).nodeAt q = some (.file b) ↔ f.nodeAt q = some (.file b) := by
    rw [Files.nodeAt_put_of_ne _ hq.symm]
    exact hadds.file_iff id b
  refine ⟨hgtree, fun q => hfile, ?_, fun j hj => read_iff_of_file_iff htree hgtree hadds.workDir (hfile hj),
    fun _ _ _ => not_isTemp_of_keys⟩
  have hbelow : s.placeBelow (k.put (s.placeBelow f key) (.file data)) key = s.placeBelow f key :=
    placeBelow_congr s hadds.workDir key
  have hplaceOf : s.placeOf (k.put (s.placeBelow f key) (.file data)) key = s.placeOf f key :=
    placeOf_congr s hadds.workDir key
  rw [read_eq_ok_iff hgtree, hbelow, hplaceOf]
  refine ⟨h.placeOf, (placeOf_eq_ok h.placeOf).2, fits_of_made h, Files.nodeAt_put_self _ hnil _⟩

/-- A write of a process that dies where the system stops it: nothing is taken away. -/
def dying (t : Trouble) (s : Store) (key : String) (data : List UInt8) : Act Files Unit := do
  let (temp, place) ← prepare t s key
  fillAndRename t temp place data

/-- A write either puts its data in place and leaves nothing else, or it raises and everything is as before; it raises
wherever the system does not let it go on. If the process dies there, only a temporary file may stay. -/
theorem write_is_all_or_nothing (htree : f.IsTree) (t : Trouble) (s : Store) (key : String) (data : List UInt8) :
    ((∃ e g, writeWith t s key data f = (.error e, g) ∧ Undone s key (fun _ => False) f g) ∨
      ∃ g, writeWith t s key data f = (.ok (), g) ∧ Allows t f (s.placeBelow f key) ∧ Done s key data f g) ∧
    ((∃ e g n, dying t s key data f = (.error e, g) ∧
        Undone s key (· = tempNumbered (s.placeBelow f key) n) f g) ∨
      ∃ g, dying t s key data f = (.ok (), g) ∧ Allows t f (s.placeBelow f key) ∧ Done s key data f g) := by
  refine ⟨?_, ?_⟩
  · rcases writeWith_cases t s key data f with ⟨e, g, n, hwrite, hdirs⟩ | ⟨place, k, hmade, hallows, hwrite⟩
    · exact .inl ⟨e, g, hwrite, undone_of_makeDirectories htree hdirs⟩
    · rw [← (placeOf_eq_ok hmade.placeOf).1]
      exact .inr ⟨_, hwrite, hallows, done_of_made htree hmade data⟩
  · unfold dying
    rcases prepare_cases t s key f with ⟨e, g, n, hprepare, hdirs⟩ |
        ⟨place, k, hprepare, hplace, hdirs, hway, htemporary, htemp⟩
    · exact .inl ⟨e, g, 0, Act.bind_error hprepare _, (undone_of_makeDirectories htree hdirs).mono fun _ => False.elim⟩
    · rw [Act.bind_ok hprepare]
      rcases fillAndRename_cases t (tempFor k place) place data k with
        ⟨e, part, -, hfill⟩ | ⟨hcontent, hflush, hsync, hrename, hfits, hvacant, hfill⟩
      · obtain ⟨n, hundone⟩ := undone_of_staged htree hplace hdirs part
        exact .inl ⟨e, _, n, hfill, hundone⟩
      · have hmade := made_of_staged hplace hdirs htemp hfits hvacant
        rw [erase_staged] at hfill
        rw [← (placeOf_eq_ok hplace).1]
        exact .inr ⟨_, hfill, ⟨hway, htemporary, hcontent, hflush, hsync, hrename⟩, done_of_made htree hmade data⟩

/-- A directory with one file. -/
def oneFile : Files := { nodes := [(["state"], .directory), (["state", "a.json"], .file [1])] }

theorem isTree_oneFile : oneFile.IsTree := Files.isTree_of_nodes (by decide +kernel) List.not_mem_nil

/-- Where the rename fails the old data stays, also if the process dies there. -/
theorem write_without_rename_is_undone :
    let store : Store := ⟨⟨true, ["state"]⟩⟩
    let t : Trouble := { rename := some (.ofPath 5 "Input/output error" "/state/a.json") }
    oneFile.IsTree ∧
      (∃ e g, writeWith t store "a.json" [2] oneFile = (.error e, g) ∧ store.read g "a.json" = .ok [1]) ∧
      ∃ e g, dying t store "a.json" [2] oneFile = (.error e, g) ∧ store.read g "a.json" = .ok [1] := by
  intro store t
  have hplace : store.placeOf oneFile "a.json" = .ok ["state", "a.json"] :=
    placeOf_eq_ok_iff.mpr (by decide +kernel)
  have hread : store.read oneFile "a.json" = .ok [1] := by
    rw [read_eq_ok_iff isTree_oneFile, hplace]
    exact ⟨rfl, by decide +kernel, ⟨by decide +kernel, by decide +kernel⟩, by decide +kernel⟩
  obtain ⟨hcall, hdeath⟩ := write_is_all_or_nothing isTree_oneFile t store "a.json" [2]
  refine ⟨isTree_oneFile, ?_, ?_⟩
  · rcases hcall with ⟨e, g, hwrite, hundone⟩ | ⟨g, hwrite, hallows, -⟩
    · exact ⟨e, g, hwrite, (hundone.reads [1]).mpr hread⟩
    · cases hallows.rename
  · rcases hdeath with ⟨e, g, n, hwrite, hundone⟩ | ⟨g, hwrite, hallows, -⟩
    · exact ⟨e, g, hwrite, (hundone.reads [1]).mpr hread⟩
    · cases hallows.rename

end Store

end Runbook
