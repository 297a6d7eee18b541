import Runbook.Proofs.Manager.Isolation
import Runbook.Proofs.Workflow.Lookup

/-! A session goes on with the workflow it was started from as long as the name in the document of that workflow
leads back to its file. -/

namespace Runbook

open Repository

variable {γ : Type} {m : Manager γ} {w : Workflow} {key : SessionKey} {x y : World γ}

/-- Something was saved of a session between the two worlds. -/
def World.WasSaved (key : SessionKey) (x y : World γ) : Prop :=
  y.saves.filter (·.key = key) ≠ x.saves.filter (·.key = key)

namespace Manager

/-- The worlds to which operations lead that go on with a session, whichever workflow they find, with others
between them that leave it alone. -/
inductive Later (m : Manager γ) (key : SessionKey) (x : World γ) : World γ → Prop where
  | refl : Later m key x x
  | elsewhere {y z : World γ} (h : Later m key x y) (hsame : World.Untouched m.store key y z) :
      Later m key x z
  | resumed {y : World γ} (h : Later m key x y) (now : String) (other : SessionKey) (answer : Option Value)
      (token : Token) (cancelled : World γ → Bool) (hother : other.SharesFile key) :
      Later m key x (({ m with cancelled }).resume now other answer token y).2

/-- The file of the session, if any, holds a session of its key. -/
abbrev HoldsKey (m : Manager γ) (key : SessionKey) : World γ → Prop := m.Holds key fun _ => True

theorem guards_key (halone : m.LeavesAlone key) (now : String) :
    m.Guards now (fun _ s => s.key = key) (m.HoldsKey key) where
  keeps w := {
    toPreserves := Engine.preserves_key _ w key
    perform := fun s step x h =>
      h.untouched ((m.engine now).performed_all World.closed_untouched halone.services s step x)
    save := fun _ _ hs h => h.save (fun _ _ _ _ => trivial) ⟨hs, trivial⟩ }
  token _ token h := h.token token

theorem key_of_holds (h : m.HoldsKey key x) {now : String} {other : SessionKey} (hother : other.SharesFile key)
    {s : Session} (hload : load m.store x.files now other = .ok s) : s.key = key := by
  obtain ⟨bytes, hnode, hdecode, -⟩ := load_eq_ok hload
  rw [nodeOf_of_sharesFile hother] at hnode
  exact (h.2 bytes hnode now s hdecode).1

theorem Later.holdsKey (halone : m.LeavesAlone key) (hx : m.HoldsKey key x) (h : m.Later key x y) :
    m.HoldsKey key y := by
  induction h with
  | refl => exact hx
  | elsewhere _ hsame ih => exact ih.untouched hsame
  | resumed _ now other answer token cancelled hother ih =>
    have halone' : ({ m with cancelled } : Manager γ).LeavesAlone key := ⟨halone.services, halone.newId⟩
    exact ((guards_key halone' now).resume (fun s _ hload _ => key_of_holds ih hother hload) answer token ih).1

/-- A session that is saved stands in the file of its key, whatever was there before. -/
theorem holdsKey_of_save {s : Session} (hkey : s.key = key) (hsave : (m.save s x).1 = .ok ()) :
    m.HoldsKey key (m.save s x).2 := by
  subst hkey
  rw [save_apply] at hsave ⊢
  rcases save_cases m.store s x.files with ⟨f, text, happly, htext, hnode⟩ | ⟨e, f, happly, -⟩
  · rw [happly]
    refine ⟨fun _ _ _ => trivial, fun bytes hbytes now t ht => ⟨?_, trivial⟩⟩
    obtain rfl := FileNode.file.inj (Option.some.inj (hnode.symm.trans hbytes))
    obtain rfl := Except.ok.inj ((decode_fileText htext now).symm.trans ht)
    rfl
  · rw [happly] at hsave
    cases hsave

theorem saves_of_save_error {s : Session} {e : Fault} (h : (m.save s x).1 = .error e) :
    (m.save s x).2.saves = x.saves := by
  rw [save_apply] at h ⊢
  rcases hsave : Repository.save m.store s x.files with ⟨e' | u, f⟩
  · rfl
  · rw [hsave] at h
    cases h

/-! ## The start -/

/-- A launch that saved its session leaves a file of its key. -/
theorem holdsKey_of_launch {id : String} (halone : m.LeavesAlone ⟨w.name, id⟩) {now : String}
    {given : Bindings} {token : Token}
    (hsaved : World.WasSaved ⟨w.name, id⟩ x (m.launch now w given id token x).2) :
    m.HoldsKey ⟨w.name, id⟩ (m.launch now w given id token x).2 := by
  have happly := m.launch_apply now w given id token x
  dsimp only at happly
  have hs : (initial w given id now).key = ⟨w.name, id⟩ := rfl
  have hpaused : (initial w given id now).paused = false := rfl
  have hfailed : (initial w given id now).failed = false := rfl
  generalize initial w given id now = s at happly hs hpaused hfailed
  cases hpath : s.key.path with
  | error e =>
    rw [hpath] at happly
    rw [happly] at hsaved
    exact absurd rfl hsaved
  | ok path =>
    rw [hpath] at happly
    dsimp only at happly
    cases hsave : (m.save s x).1 with
    | error e =>
      rw [hsave] at happly
      rw [happly] at hsaved
      exact absurd (congrArg _ (saves_of_save_error hsave)) hsaved
    | ok u =>
      rw [hsave] at happly
      rw [happly]
      have hfirst := (holdsKey_of_save hs hsave).token token
      exact (((guards_key halone now).keeps w).run hs hpaused hfailed hfirst).1

/-- So does a start. -/
theorem holdsKey_of_startNamed {id name : String} {asked : Option String} (halone : m.LeavesAlone ⟨w.name, id⟩)
    (hget : Library.get x.files m.directories name = .ok w) (hid : (m.idOr asked x).1 = .ok id) {now : String}
    {given : Bindings} {token : Token}
    (hsaved : World.WasSaved ⟨w.name, id⟩ x (m.startNamed now name given asked token x).2) :
    m.HoldsKey ⟨w.name, id⟩ (m.startNamed now name given asked token x).2 := by
  have happly : m.startNamed now name given asked token x = m.start now w given asked token x := by
    rw [startNamed_apply, hget]
  have hnew := idOr_moves (World.Untouched.refl m.store ⟨w.name, id⟩) halone.newId asked x
  rw [happly] at hsaved ⊢
  rcases start_cases m now w given asked token x with
    ⟨e, j, -, hstart⟩ | ⟨e, -, hstart⟩ | ⟨i, hi, hstart⟩
  · rw [hstart] at hsaved
    exact absurd rfl hsaved
  · rw [hstart] at hsaved
    exact absurd hnew.1 hsaved
  · obtain rfl : id = i := Except.ok.inj (hid.symm.trans hi)
    rw [hstart] at hsaved ⊢
    refine holdsKey_of_launch halone fun hsame => hsaved (hsame.trans hnew.1)

/-- A session of the key was saved, and its file is there. -/
structure IsThere (m : Manager γ) (key : SessionKey) (x : World γ) : Prop where
  saved : ∃ s ∈ x.saves, s.key = key
  file : ∃ bytes, nodeOf m.store x.files key = some (.file bytes)

theorem IsThere.untouched (h : m.IsThere key x) (hsame : World.Untouched m.store key x y) : m.IsThere key y where
  saved := by
    obtain ⟨s, hs, hkey⟩ := h.saved
    have hmem : s ∈ x.saves.filter (·.key = key) := List.mem_filter.mpr ⟨hs, by simpa using hkey⟩
    rw [← hsame.1] at hmem
    exact ⟨s, List.mem_of_mem_filter hmem, hkey⟩
  file := by
    rw [hsame.2]
    exact h.file

theorem isThere_of_save {s : Session} (hkey : s.key = key) (hsave : (m.save s x).1 = .ok ()) :
    m.IsThere key (m.save s x).2 := by
  subst hkey
  rw [save_apply] at hsave ⊢
  rcases save_cases m.store s x.files with ⟨f, text, happly, -, hnode⟩ | ⟨e, f, happly, -⟩
  · rw [happly]
    exact ⟨⟨s, List.mem_cons_self, rfl⟩, _, hnode⟩
  · rw [happly] at hsave
    cases hsave

theorem IsThere.save {s : Session} (h : m.IsThere key x) (hkey : s.key = key) : m.IsThere key (m.save s x).2 := by
  cases hsave : (m.save s x).1 with
  | ok u => exact isThere_of_save hkey hsave
  | error e =>
    refine ⟨?_, ?_⟩
    · rw [saves_of_save_error hsave]
      exact h.saved
    · subst hkey
      rw [save_apply] at hsave ⊢
      rcases save_cases m.store s x.files with ⟨f, text, happly, -, -⟩ | ⟨e, f, happly, hnode⟩
      · rw [happly] at hsave
        cases hsave
      · rw [happly]
        exact hnode ▸ h.file

/-- A session that is launched is there in the end if its first save goes through. -/
theorem isThere_of_launch {id : String} (halone : m.LeavesAlone ⟨w.name, id⟩) {now : String} {given : Bindings}
    (hsave : (m.save (initial w given id now) x).1 = .ok ()) {path : String}
    (hpath : (⟨w.name, id⟩ : SessionKey).path = .ok path) (token : Token) :
    m.IsThere ⟨w.name, id⟩ (m.launch now w given id token x).2 := by
  have hkeeps : (m.engine now).Keeps w (·.key = ⟨w.name, id⟩) (m.IsThere ⟨w.name, id⟩) := {
    toPreserves := Engine.preserves_key _ w _
    perform := fun s step x h =>
      h.untouched ((m.engine now).performed_all World.closed_untouched halone.services s step x)
    save := fun _ _ hs h => h.save hs }
  have hs : (initial w given id now).key = ⟨w.name, id⟩ := rfl
  have hfirst := isThere_of_save hs hsave
  rw [launch_apply]
  dsimp only
  rw [hs, hpath, hsave]
  have htoken : m.IsThere ⟨w.name, id⟩ { (m.save (initial w given id now) x).2 with token } :=
    ⟨hfirst.saved, hfirst.file⟩
  exact (hkeeps.run hs rfl rfl htoken).1

/-! ## The workflow of a resumption -/

/-- Goes on with a saved session of a given workflow. -/
def resumeWith (m : Manager γ) (now : String) (w : Workflow) (key : SessionKey) (answer : Option Value)
    (token : Token) : Act (World γ) Standing := do
  let s ← m.loadSession now key
  Act.change fun world => { world with token }
  return ⟨w, ← (m.engine now).resume w s answer⟩

theorem resume_eq_resumeWith (hholds : m.HoldsKey key y) (hget : Library.get y.files m.directories key.workflow = .ok w)
    (now : String) (answer : Option Value) (token : Token) :
    m.resume now key answer token y = m.resumeWith now w key answer token y := by
  unfold resume resumeWith
  rw [Act.bind_apply, Act.bind_apply]
  unfold loadSession ofFiles
  dsimp only
  cases hload : load m.store y.files now key with
  | error e => rfl
  | ok s =>
    have hname : s.name = key.workflow := congrArg SessionKey.workflow (key_of_holds hholds (.refl key) hload)
    dsimp only
    rw [hname]
    have hfound : m.get key.workflow y = (.ok w, y) := by rw [get, ofFiles, hget]
    rw [Act.bind_ok hfound]

/-- A session that was started under a name is found in its file under the name of its workflow, and goes on
with that workflow, exactly if this name leads back to the file from which the session was started. -/
theorem resumes_from_same_file_iff {id name : String} {p : PathName} {ps : List PathName} {asked : Option String}
    (halone : m.LeavesAlone ⟨w.name, id⟩) (hfiles : Library.files x.files m.directories = .ok ps)
    (hfind : Library.find? x.files m.directories name = .ok (some p))
    (hload : Library.load x.files p = .ok w) (hid : (m.idOr asked x).1 = .ok id) {now : String}
    {given : Bindings} {token : Token} {cancelled : World γ → Bool}
    (hsaved : World.WasSaved ⟨w.name, id⟩ x
      (({ m with cancelled }).startNamed now name given asked token x).2)
    (hlater : m.Later ⟨w.name, id⟩ (({ m with cancelled }).startNamed now name given asked token x).2 y)
    (hsame : Library.Same m.directories x.files y.files) :
    (∀ now s, load m.store y.files now ⟨w.name, id⟩ = .ok s → s.key = ⟨w.name, id⟩) ∧
      (Library.find? y.files m.directories w.name = .ok (some p) ↔ Library.LeadsBack x.files name ps p w) ∧
      (Library.LeadsBack x.files name ps p w → ∀ now answer token,
        m.resume now ⟨w.name, id⟩ answer token y = m.resumeWith now w ⟨w.name, id⟩ answer token y) := by
  have hget : Library.get x.files m.directories name = .ok w := by
    rw [Library.get_of_find? hfind, hload]
  have halone' : ({ m with cancelled } : Manager γ).LeavesAlone ⟨w.name, id⟩ := ⟨halone.services, halone.newId⟩
  have hstarted := holdsKey_of_startNamed halone' hget hid hsaved
  have hholds : m.HoldsKey ⟨w.name, id⟩ y := hlater.holdsKey halone hstarted
  have hagain := Library.find?_name_iff hfiles hfind hload
  rw [← hsame.find?_eq] at hagain
  refine ⟨fun now s => key_of_holds hholds (.refl _), hagain, fun hback now answer token => ?_⟩
  refine resume_eq_resumeWith hholds ?_ now answer token
  rw [Library.get_of_find? (hagain.mpr hback), hsame.load_eq hfind, hload]

/-! ## Two workflow files -/

/-- A manager that looks for workflows in one directory. -/
def shelved : Manager Unit := { bare with directories := ["workflows"] }

/-- One workflow has the name of the file of the other. -/
def shelf : Files where
  nodes := [
    (["workflows"], .directory),
    (["workflows", "a.yaml"], .file (Text.Utf8.encode "{name: b, steps: [{id: ask, action: push}]}")),
    (["workflows", "b.yaml"], .file (Text.Utf8.encode "{name: c, steps: [{id: other, action: pull}]}"))]

/-- The shelf with the file of a session. -/
def stocked (dir : String) (bytes : List UInt8) : Files :=
  { shelf with nodes := shelf.nodes ++ [
      (["state"], .directory), (["state", dir], .directory), (["state", dir, "s.json"], .file bytes)] }

theorem namesIn_stocked (dir : String) (bytes : List UInt8) :
    (stocked dir bytes).namesIn ["workflows"] = shelf.namesIn ["workflows"] := by
  simp [Files.namesIn, stocked, shelf]

def shelfFile (name : String) : PathName := ⟨false, ["workflows", name]⟩

theorem namesIn_shelf : shelf.namesIn ["workflows"] = ["a.yaml", "b.yaml"] := by
  have hsorted : ["a.yaml", "b.yaml"].Pairwise fun a b => decide (a ≤ b) = true := by decide
  exact List.mergeSort_of_pairwise hsorted

theorem files_shelf : Library.files shelf ["workflows"] = .ok [shelfFile "a.yaml", shelfFile "b.yaml"] := by
  have hdir : shelf.isDirectory ⟨false, ["workflows"]⟩ = .ok true := rfl
  have hlocate : shelf.locate ⟨false, ["workflows"]⟩ = .ok (["workflows"], some .directory) := rfl
  have hhome : shelf.expandHome (.ofText "workflows") = .ok ⟨false, ["workflows"]⟩ := rfl
  unfold Library.files Library.filesIn
  simp only [hdir, hlocate, hhome, bind, Except.bind, Except.mapError, namesIn_shelf]
  rfl

/-- The file of a session is no workflow file. -/
theorem same_stocked (dir : String) (bytes : List UInt8) :
    Library.Same ["workflows"] shelf (stocked dir bytes) := by
  have hdir : (stocked dir bytes).isDirectory ⟨false, ["workflows"]⟩ = .ok true := rfl
  have hlocate : (stocked dir bytes).locate ⟨false, ["workflows"]⟩ = .ok (["workflows"], some .directory) := rfl
  have hhome : (stocked dir bytes).expandHome (.ofText "workflows") = .ok ⟨false, ["workflows"]⟩ := rfl
  refine ⟨?_, fun ps hps p hp => ?_⟩
  · rw [files_shelf]
    unfold Library.files Library.filesIn
    simp only [hdir, hlocate, hhome, bind, Except.bind, Except.mapError, namesIn_stocked, namesIn_shelf]
    rfl
  · obtain rfl := Except.ok.inj (hps.symm.trans files_shelf)
    have hread : (stocked dir bytes).read p = shelf.read p := by
      simp only [List.mem_cons, List.not_mem_nil, or_false] at hp
      rcases hp with rfl | rfl <;> rfl
    unfold Files.readText
    rw [hread]

theorem exists_ok_of_toOption {α β : Type} {r : Except Fault α} {f : α → β} {b : β}
    (h : r.toOption.map f = some b) : ∃ a, r = .ok a ∧ f a = b := by
  cases r with
  | error e => cases h
  | ok a => exact ⟨a, rfl, Option.some.inj h⟩

theorem load_shelf (file : String) {name : String}
    (h : (Library.load shelf (shelfFile file)).toOption.map (fun w => (w.name, w.variables.length)) = some (name, 0)) :
    ∃ w, Library.load shelf (shelfFile file) = .ok w ∧ w.name = name ∧ w.variables = [] := by
  obtain ⟨w, hw, hfields⟩ := exists_ok_of_toOption h
  obtain ⟨hname, hvars⟩ := Prod.mk.inj hfields
  exact ⟨w, hw, hname, List.length_eq_zero_iff.mp hvars⟩

theorem find?_shelf {name file : String}
    (h : [shelfFile "a.yaml", shelfFile "b.yaml"].find? (·.stem == name) = some (shelfFile file)) :
    Library.find? shelf ["workflows"] name = .ok (some (shelfFile file)) :=
  (Library.find?_eq_some_iff files_shelf).mpr (.inl h)

/-- Nothing but the shelf. -/
def shelfWorld : World Unit := ⟨shelf, {}, [], ()⟩

/-- The manager, asked to stop as it pleases. -/
def shelvedUntil (cancelled : World Unit → Bool) : Manager Unit := { shelved with cancelled }

theorem leavesAlone_shelved (cancelled : World Unit → Bool) (key : SessionKey) :
    (shelvedUntil cancelled).LeavesAlone key :=
  @leavesAlone_of_onPartners Unit (shelvedUntil cancelled) _ (pure "s") rfl rfl key

/-- A session that is started from the shelf, and a later world with its file beside the shelf. -/
theorem exists_later_shelf {name : String} (dir : String) (hget : Library.get shelf ["workflows"] name = .ok w)
    (hvars : w.variables = []) (hpath : (⟨w.name, "s"⟩ : SessionKey).path = .ok (dir ++ "/s.json"))
    (hwrite : ∀ data, (bare.store.write (dir ++ "/s.json") data shelf).1 = .ok ())
    (hnode : ∀ bytes, (stocked dir bytes).nodeAt (bare.store.placeBelow (stocked dir bytes) (dir ++ "/s.json")) =
      some (.file bytes)) (cancelled : World Unit → Bool) :
    World.WasSaved ⟨w.name, "s"⟩ shelfWorld
        ((shelvedUntil cancelled).startNamed "t" name [] none {} shelfWorld).2 ∧
      ∃ y, shelved.Later ⟨w.name, "s"⟩ ((shelvedUntil cancelled).startNamed "t" name [] none {} shelfWorld).2 y ∧
        Library.Same ["workflows"] shelf y.files := by
  have hlaunch : ((shelvedUntil cancelled).startNamed "t" name [] none {} shelfWorld).2 =
      ((shelvedUntil cancelled).launch "t" w [] "s" {} shelfWorld).2 := by
    have happly := (shelvedUntil cancelled).startNamed_apply "t" name [] none {} shelfWorld
    rw [show Library.get shelfWorld.files (shelvedUntil cancelled).directories name = .ok w from hget] at happly
    exact congrArg Prod.snd happly
  have hsave : ((shelvedUntil cancelled).save (initial w [] "s" "t") shelfWorld).1 = .ok () := by
    have htext := @exists_fileText_of_pending (initial w [] "s" "t") (by rw [initial, hvars]; rfl) rfl rfl rfl
    have hok : ∀ data, ((shelvedUntil cancelled).store.write (dir ++ "/s.json") data shelfWorld.files).1 = .ok () :=
      hwrite
    obtain ⟨y, hy⟩ := exists_save_of_write (s := initial w [] "s" "t") hpath htext hok
    rw [hy]
  obtain ⟨⟨s, hs, hkey⟩, bytes, hbytes⟩ := isThere_of_launch (leavesAlone_shelved cancelled _) hsave hpath {}
  rw [← hlaunch] at hs hbytes
  generalize ((shelvedUntil cancelled).startNamed "t" name [] none {} shelfWorld).2 = z at hs hbytes
  refine ⟨fun hsame => ?_, { z with files := stocked dir bytes }, ?_, same_stocked dir bytes⟩
  · have hmem : s ∈ z.saves.filter (·.key = ⟨w.name, "s"⟩) := List.mem_filter.mpr ⟨hs, by simpa using hkey⟩
    rw [hsame] at hmem
    exact List.not_mem_nil hmem
  · refine Later.refl.elsewhere ⟨rfl, ?_⟩
    refine Eq.trans ?_ hbytes.symm
    rw [nodeOf_of_path hpath]
    exact hnode bytes

/-- The name of the second workflow leads back to its file. -/
theorem leadsBack_second (hload : Library.load shelf (shelfFile "b.yaml") = .ok w) (hname : w.name = "c") :
    Library.LeadsBack shelf "b" [shelfFile "a.yaml", shelfFile "b.yaml"] (shelfFile "b.yaml") w := by
  obtain ⟨v, hfirst, hv, -⟩ := @load_shelf "a.yaml" "b" (by decide +kernel)
  refine .inr ⟨?_, [shelfFile "a.yaml"], [], rfl, fun q hq => ?_, ?_⟩
  · rw [hname]
    decide
  · obtain rfl := List.mem_singleton.mp hq
    rw [Library.isNamed_of_load hfirst, hv, hname]
    rfl
  · rw [Library.isNamed_of_load hload, beq_self_eq_true]

/-- A session of the second workflow on the shelf goes on with it. -/
theorem resumes_from_second_file :
    ∃ w y, Library.load shelf (shelfFile "b.yaml") = .ok w ∧
      shelved.Later ⟨w.name, "s"⟩ ((shelvedUntil fun _ => false).startNamed "t" "b" [] none {} shelfWorld).2 y ∧
      Library.find? y.files ["workflows"] w.name = .ok (some (shelfFile "b.yaml")) ∧
      shelved.resume "u" ⟨w.name, "s"⟩ none {} y = shelved.resumeWith "u" w ⟨w.name, "s"⟩ none {} y := by
  obtain ⟨w, hload, hname, hvars⟩ := @load_shelf "b.yaml" "c" (by decide +kernel)
  have hfind : Library.find? shelf ["workflows"] "b" = .ok (some (shelfFile "b.yaml")) := find?_shelf (by decide)
  have hget : Library.get shelf ["workflows"] "b" = .ok w := by rw [Library.get_of_find? hfind, hload]
  have hpath : (⟨w.name, "s"⟩ : SessionKey).path = .ok ("c" ++ "/s.json") := by
    rw [hname]
    rfl
  obtain ⟨hsaved, y, hlater, hsame⟩ :=
    exists_later_shelf "c" hget hvars hpath (fun _ => rfl) (fun _ => rfl) fun _ => false
  have hleads := leadsBack_second hload hname
  have hid : (shelved.idOr none shelfWorld).1 = .ok "s" := rfl
  obtain ⟨-, hagain, hback⟩ := resumes_from_same_file_iff (m := shelved) (x := shelfWorld)
    (leavesAlone_shelved shelved.cancelled ⟨w.name, "s"⟩) files_shelf hfind hload hid hsaved hlater hsame
  exact ⟨w, y, hload, hlater, hagain.mpr hleads, hback hleads "u" none {}⟩

/-- A session of the first workflow goes on with the second one, since its name is the stem of that file. -/
theorem exists_session_that_changes_workflow :
    ∃ w v y, Library.load shelf (shelfFile "a.yaml") = .ok w ∧
      shelved.Later ⟨w.name, "s"⟩ ((shelvedUntil fun _ => false).startNamed "t" "a" [] none {} shelfWorld).2 y ∧
      Library.Same ["workflows"] shelf y.files ∧
      Library.find? y.files ["workflows"] w.name = .ok (some (shelfFile "b.yaml")) ∧ v.name ≠ w.name ∧
      shelved.resume "u" ⟨w.name, "s"⟩ none {} y = shelved.resumeWith "u" v ⟨w.name, "s"⟩ none {} y := by
  obtain ⟨w, hload, hname, hvars⟩ := @load_shelf "a.yaml" "b" (by decide +kernel)
  obtain ⟨v, hother, hv, -⟩ := @load_shelf "b.yaml" "c" (by decide +kernel)
  have hfind : Library.find? shelf ["workflows"] "a" = .ok (some (shelfFile "a.yaml")) := find?_shelf (by decide)
  have hstray : Library.find? shelf ["workflows"] "b" = .ok (some (shelfFile "b.yaml")) := find?_shelf (by decide)
  have hget : Library.get shelf ["workflows"] "a" = .ok w := by rw [Library.get_of_find? hfind, hload]
  have hpath : (⟨w.name, "s"⟩ : SessionKey).path = .ok ("b" ++ "/s.json") := by
    rw [hname]
    rfl
  obtain ⟨hsaved, y, hlater, hsame⟩ :=
    exists_later_shelf "b" hget hvars hpath (fun _ => rfl) (fun _ => rfl) fun _ => false
  have hid : ((shelvedUntil fun _ => false).idOr none shelfWorld).1 = .ok "s" := rfl
  have hstarted := holdsKey_of_startNamed (x := shelfWorld) (leavesAlone_shelved _ _) hget hid hsaved
  have hholds : shelved.HoldsKey ⟨w.name, "s"⟩ y := hlater.holdsKey (leavesAlone_shelved shelved.cancelled _) hstarted
  have hagain : Library.find? y.files ["workflows"] w.name = .ok (some (shelfFile "b.yaml")) := by
    rw [hsame.find?_eq, hname]
    exact hstray
  refine ⟨w, v, y, hload, hlater, hsame, hagain, by rw [hv, hname]; decide, ?_⟩
  refine resume_eq_resumeWith hholds ?_ "u" none {}
  change Library.get y.files ["workflows"] w.name = .ok v
  rw [Library.get_of_find? hagain, hsame.load_eq hstray, hother]

end Manager

end Runbook
