import Runbook.Proofs.Execution.Failing
import Runbook.Proofs.Manager.Continuation
import Runbook.Proofs.Manager.Interruption

/-! Interruptions leave no trace as long as the name of the workflow leads back to it. Two workflow files, of which one
has the name of the other, show that they do leave one where it does not. -/

namespace Runbook

open Repository Session

namespace Manager

section

variable {γ : Type} {v : Services γ} {m : Manager γ} {x : World γ}

/-- A session that is launched or goes on comes to the same as one that is never asked to stop, however often it is
asked to stop between two steps and goes on without an answer: the collaborators are asked the same, it ends with the
same session or fault, and what is saved last and shown is the same, times apart. The sessions that are saved hold
values of JSON with finite numbers, and each time the workflow is found that was run before. -/
theorem agree_of_relayed (hservices : m.services = v.onPartners) :
    (∀ (w : Workflow) (given : Bindings) (id now now' : String) (token token' : Token) (bound : Option ℕ)
        (r' : Except Fault Standing × World γ),
      (∀ u ∈ World.savedSince x ((m.askedAfter none).launch now w given id token x).2, u.IsJson) →
      m.Relayed ⟨w.name, id⟩ w bound ((m.askedAfter bound).launch now' w given id token' x) r' →
        m.Agree ⟨w.name, id⟩ x ((m.askedAfter none).launch now w given id token x) r') ∧
    ∀ (w : Workflow) (key : SessionKey) (d : Session) (answer : Option Value) (now now' : String)
        (token token' : Token) (bound : Option ℕ) (r' : Except Fault Standing × World γ),
      m.Shows key d x → Library.get x.files m.directories d.name = .ok w →
      (∀ u ∈ World.savedSince x ((m.askedAfter none).resume now key answer token x).2, u.IsJson) →
      m.Relayed key w bound ((m.askedAfter bound).resume now' key answer token' x) r' →
        m.Agree key x ((m.askedAfter none).resume now key answer token x) r' := by
  constructor
  · intro w given id now now' token token' bound r' hjson hrelayed
    exact agree_launch hservices hjson hrelayed
  · intro w key d answer now now' token token' bound r' hshows hget hjson hrelayed
    exact agree_resume hservices hshows hget hjson hrelayed

end

/-! ## Sessions that are asked to stop at once -/

section

variable {γ : Type} {m : Manager γ} {w : Workflow} {x y : World γ}

/-- A session that is asked to stop as soon as it is saved waits at its first step. -/
theorem launch_stopped {given : Bindings} {id now : String}
    (hsave : m.save (initial w given id now) x = (.ok (), y)) {n : ℕ} (hn : n ≤ y.saves.length) (token : Token) :
    ∃ u z, u = { initial w given id now with paused := true } ∧ m.save u { y with token } = (.ok (), z) ∧
      (m.askedAfter (some n)).launch now w given id token x = (.ok ⟨w, u⟩, z) ∧ WasStopped (some n) (.ok u, z) := by
  set s := initial w given id now with hs
  have hlast : m.IsLast s { y with token } := ⟨(save_eq_ok hsave).1, (IsLast.of_save hsave).head_eq⟩
  have habreast : m.Abreast s.key s s { y with token } { y with token } :=
    ⟨.refl s, rfl, .refl _ _, hlast, hlast, rfl, rfl, rfl⟩
  have hcancelled : ((m.askedAfter (some n)).engine now).cancelled { y with token } = true := decide_eq_true hn
  obtain ⟨z, hsaved, hsettle, hstopped⟩ :=
    habreast.stop (engines_askedAfter m (some n) now now) rfl hcancelled
  refine ⟨_, z, rfl, hsaved, ?_, hstopped⟩
  rw [launch_of_saved (m := m.askedAfter (some n)) hsave, Engine.run_eq_of_cancelled rfl rfl hcancelled, hsettle]
  rfl

/-- Nothing is recorded of a session that goes on with a workflow that does not have its step. -/
theorem history_of_unknownStep {u : Session} {now : String} {key : SessionKey} (hlast : m.IsLast u x)
    (hload : load m.store x.files now key = .ok u) (hget : Library.get x.files m.directories u.name = .ok w)
    (hopen : u.completed = false) (herror : u.lastError = none) (hgo : ∀ y, m.cancelled y = false)
    (hstep : Engine.stepOf? w u = none) (token : Token) :
    ∃ d, (m.resume now key none token x).2.saves.head? = some d ∧ d.history = u.history := by
  set e := m.engine now
  have hlast' : m.IsLast u { x with token } := ⟨hlast.saved, hlast.head_eq⟩
  have htext : ∃ text, fileText (e.resumed u) = .ok text := hlast'.exists_fileText rfl rfl herror.symm rfl
  obtain ⟨y, hsave, -⟩ := hlast'.exists_save (t := e.resumed u) rfl htext
  rw [resume_of_saved hload hget hopen rfl hsave,
    Engine.run_eq_of_unknownStep (s := e.resumed u) rfl hopen (hgo y) hstep, settle_engine]
  rcases hfail : m.save (e.failing (e.resumed u) (Engine.unknownStep w (e.resumed u))).1 y with ⟨f | v, z⟩
  · refine ⟨e.resumed u, ?_, rfl⟩
    dsimp only
    rw [(save_eq_error hfail).2.1]
    exact (IsLast.of_save hsave).head_eq
  · exact ⟨_, (IsLast.of_save hfail).head_eq, rfl⟩

end

/-! ## Workflows on the shelf -/

variable {w : Workflow} {step : Step} {x y : World Unit}

/-- Only git steps have the action of one. -/
theorem exists_git_of_action {a : GitAction} (h : step.action = a.name) :
    ∃ message base, step.task = .git a message base := by
  unfold Step.action at h
  cases htask : step.task with
  | git b message base =>
    rw [htask] at h
    refine ⟨message, base, ?_⟩
    revert h
    cases a <;> cases b <;> simp [Task.action, GitAction.name]
  | pullRequest p =>
    rw [htask] at h
    revert h
    cases a <;> cases hp : p.action <;>
      simp [Task.action, GitAction.name, PullRequestAction.name, PullRequestAction.verb, hp]
  | _ =>
    rw [htask] at h
    revert h
    cases a <;> simp [Task.action, GitAction.name]

/-- The workflow has no variables and one step, which pushes or pulls. -/
structure IsSmall (w : Workflow) (step : Step) : Prop where
  variables_eq : w.variables = []
  steps_eq : w.steps = [step]
  id_ne : step.id.isEmpty = false
  action_eq : step.action = GitAction.push.name ∨ step.action = GitAction.pull.name

theorem load_small (file : String) {name id action : String}
    (h : (Library.load shelf (shelfFile file)).toOption.map
      (fun w => (w.name, w.variables.length, w.steps.map fun step => (step.id, step.action))) =
        some (name, 0, [(id, action)]))
    (hid : id.isEmpty = false) (haction : action = GitAction.push.name ∨ action = GitAction.pull.name) :
    ∃ w step, Library.load shelf (shelfFile file) = .ok w ∧ w.name = name ∧ step.id = id ∧ IsSmall w step := by
  obtain ⟨w, hload, hfields⟩ := exists_ok_of_toOption h
  obtain ⟨hname, hfields⟩ := Prod.mk.inj hfields
  obtain ⟨hvars, hsteps⟩ := Prod.mk.inj hfields
  obtain ⟨step, hstep, hfields⟩ := List.map_eq_singleton_iff.mp hsteps
  obtain ⟨rfl, rfl⟩ := Prod.mk.inj hfields
  exact ⟨w, step, hload, hname, rfl, List.length_eq_zero_iff.mp hvars, hstep, hid, haction⟩

namespace IsSmall

theorem isPortable_initial (h : IsSmall w step) : (initial w [] "s" "t").IsPortable := by
  have hvars : (initial w [] "s" "t").variables = [] := by rw [initial, h.variables_eq]; rfl
  refine ⟨?_, List.forall_mem_nil _, fun b hb => ?_⟩
  · rw [hvars]
    exact ⟨List.nodup_nil, List.forall_mem_nil _⟩
  · cases hb

theorem stepOf?_initial (h : IsSmall w step) : Engine.stepOf? w (initial w [] "s" "t") = some step := by
  unfold Engine.stepOf? initial Workflow.getStep?
  simp [h.steps_eq, h.id_ne]

/-- Without a runner the step fails. -/
theorem exists_fault (h : IsSmall w step) (s : Session) :
    ∃ f, Engine.isAbrupt f = false ∧
      ∀ x, ((shelved.askedAfter none).engine "t").performed s step x = (.error f, x) := by
  unfold Engine.performed Execution.perform
  rcases h.action_eq with haction | haction
  all_goals
    obtain ⟨message, base, htask⟩ := exists_git_of_action haction
    simp only [Step.fill, htask, Task.fill]
    exact ⟨_, rfl, fun _ => rfl⟩

/-- The session is saved, fails at the step and is saved again. -/
theorem saves_launch (h : IsSmall w step) (hsave : shelved.save (initial w [] "s" "t") shelfWorld = (.ok (), y)) :
    ∃ d, ((shelved.askedAfter none).launch "t" w [] "s" {} shelfWorld).2.saves = [d, initial w [] "s" "t"] ∧
      d.IsPortable ∧ d.history.length = 1 := by
  set s := initial w [] "s" "t"
  set e := (shelved.askedAfter none).engine "t"
  obtain ⟨f, habrupt, hperformed⟩ := h.exists_fault s
  set d := (e.settledFailure w s step none f false).1
  have hrecorded := Engine.recorded_settledFailure e w s step none f false
  have hportable : d.IsPortable := Engine.isPortable_settledFailure h.isPortable_initial w step f false
  have hlast : shelved.IsLast s { y with token := {} } := ⟨(save_eq_ok hsave).1, (IsLast.of_save hsave).head_eq⟩
  have htext : ∃ text, fileText d = .ok text := by
    rcases fileText_of_isPortable hportable with ⟨-, htext⟩ | ⟨hlong, -⟩
    · exact htext
    · have hshort : Json.IsShort 0 := by decide
      exact absurd (hrecorded.iterations_eq ▸ hshort) hlong
  obtain ⟨z, hz, -⟩ := hlast.exists_save hrecorded.key_eq htext
  have hfails : e.Fails w s step (e.performed s step { y with token := {} }).1 none f := by
    rw [hperformed]
    exact .raised habrupt
  have hrun := hfails.run_eq rfl rfl rfl h.stepOf?_initial
  have hgo : e.cancelled (e.performed s step { y with token := {} }).2 = false := rfl
  have hsaved : e.save d { y with token := {} } = (.ok (), z) := hz
  rw [hgo, hperformed, Engine.settle_apply, hsaved] at hrun
  refine ⟨d, ?_, hportable, ?_⟩
  · rw [launch_of_saved (m := shelved.askedAfter none) hsave, hrun]
    dsimp only
    rw [(save_eq_ok hz).2.1, (save_eq_ok hsave).2.1]
    rfl
  · obtain ⟨r, hhistory, -⟩ := hrecorded.history_eq
    rw [hhistory]
    rfl

end IsSmall

/-- A session is saved in a file beside the shelf. -/
theorem same_of_save {s : Session} {f : Files} {dir : String} (hpath : s.key.path = .ok (dir ++ "/s.json"))
    (hwrite : ∀ data, bare.store.write (dir ++ "/s.json") data shelf = (.ok (), stocked dir data))
    (hsave : Repository.save bare.store s shelf = (.ok (), f)) : Library.Same ["workflows"] shelf f := by
  obtain ⟨-, text, -, htext, -⟩ := (saved_of_save hsave).ready
  rw [Repository.save_apply, hpath, htext] at hsave
  obtain ⟨-, rfl⟩ := Prod.mk.inj (hsave.symm.trans (hwrite _))
  exact same_stocked dir _

/-- The session, asked to stop at once, waits in its file beside the shelf. -/
theorem IsSmall.exists_stopped (h : IsSmall w step) {dir : String}
    (hpath : (⟨w.name, "s"⟩ : SessionKey).path = .ok (dir ++ "/s.json"))
    (hwrite : ∀ data, bare.store.write (dir ++ "/s.json") data shelf = (.ok (), stocked dir data)) :
    ∃ y u z, shelved.save (initial w [] "s" "t") shelfWorld = (.ok (), y) ∧
      u = { initial w [] "s" "t" with paused := true } ∧
      (shelved.askedAfter (some 1)).launch "t" w [] "s" {} shelfWorld = (.ok ⟨w, u⟩, z) ∧
      WasStopped (some 1) (.ok u, z) ∧ shelved.IsLast u z ∧ Library.Same ["workflows"] shelf z.files := by
  have htext := @exists_fileText_of_pending (initial w [] "s" "t") (by rw [initial, h.variables_eq]; rfl) rfl rfl rfl
  have hok : ∀ data, (shelved.store.write (dir ++ "/s.json") data shelfWorld.files).1 = .ok () :=
    fun data => congrArg Prod.fst (hwrite data)
  obtain ⟨y, hsave⟩ := exists_save_of_write (m := shelved) (s := initial w [] "s" "t") hpath htext hok
  have hsaves : y.saves.length = 1 := by rw [(save_eq_ok hsave).2.1]; rfl
  obtain ⟨u, z, hu, hagain, hlaunch, hstopped⟩ := launch_stopped hsave hsaves.ge {}
  refine ⟨y, u, z, hsave, hu, hlaunch, hstopped, .of_save hagain, ?_⟩
  have hkey : u.key = ⟨w.name, "s"⟩ := by rw [hu]; rfl
  have hfiles : Repository.save shelved.store u shelf = (.ok (), z.files) :=
    save_of_save_save (save_files hsave) hkey (save_files (x := { y with token := {} }) hagain)
  exact same_of_save (hkey ▸ hpath) hwrite hfiles

/-- Asked to stop at once, a session of the second workflow goes on as if it had not been asked. -/
theorem stopped_session_agrees :
    ∃ w u z r', Library.load shelf (shelfFile "b.yaml") = .ok w ∧ u.paused = true ∧
      (shelved.askedAfter (some 1)).launch "t" w [] "s" {} shelfWorld = (.ok ⟨w, u⟩, z) ∧
      r' = (shelved.askedAfter none).resume "u" ⟨w.name, "s"⟩ none {} z ∧
      shelved.Agree ⟨w.name, "s"⟩ shelfWorld ((shelved.askedAfter none).launch "t" w [] "s" {} shelfWorld) r' := by
  obtain ⟨w, step, hload, hname, -, hsmall⟩ :=
    @load_small "b.yaml" "c" "other" "pull" (by decide +kernel) rfl (.inr rfl)
  have hpath : (⟨w.name, "s"⟩ : SessionKey).path = .ok ("c" ++ "/s.json") := by
    rw [hname]
    rfl
  have hwrite : ∀ data, bare.store.write ("c" ++ "/s.json") data shelf = (.ok (), stocked "c" data) := fun _ => rfl
  obtain ⟨y, u, z, hsave, hu, hlaunch, hstopped, -, hsame⟩ := hsmall.exists_stopped hpath hwrite
  have hfind : Library.find? shelf ["workflows"] "b" = .ok (some (shelfFile "b.yaml")) := find?_shelf (by decide)
  have hfound := (Library.find?_name_iff files_shelf hfind hload).mpr (leadsBack_second hload hname)
  have hget : Library.get z.files ["workflows"] u.name = .ok w := by
    rw [hu]
    exact hsame.get_eq hfound hload
  obtain ⟨d, hsaves, hportable, -⟩ := hsmall.saves_launch hsave
  have hjson : ∀ s ∈ World.savedSince shelfWorld ((shelved.askedAfter none).launch "t" w [] "s" {} shelfWorld).2,
      s.IsJson := by
    unfold World.savedSince
    rw [hsaves]
    intro s hs
    have hcases : s = d ∨ s = initial w [] "s" "t" := by simpa [shelfWorld] using hs
    rcases hcases with rfl | rfl
    · exact hportable.isJson
    · exact hsmall.isPortable_initial.isJson
  have hrelayed : shelved.Relayed ⟨w.name, "s"⟩ w (some 1)
      ((shelved.askedAfter (some 1)).launch "t" w [] "s" {} shelfWorld)
      ((shelved.askedAfter none).resume "u" ⟨w.name, "s"⟩ none {} z) := by
    rw [hlaunch]
    refine .resumed hstopped rfl hget "u" {} (.ended ?_)
    rintro ⟨v, n, -, -, -, hnone, -⟩
    cases hnone
  refine ⟨w, u, z, _, hload, by rw [hu], hlaunch, rfl, ?_⟩
  exact (agree_of_relayed (m := shelved) rfl).1 w [] "s" "t" "t" {} {} (some 1) _ hjson hrelayed

/-- A session of the first workflow that is asked to stop at once fails when it goes on, since its name leads to the
second workflow: nothing is recorded of the step that fails in a session that is not asked. -/
theorem exists_interruption_that_shows :
    ∃ w u z, Library.load shelf (shelfFile "a.yaml") = .ok w ∧
      (shelved.askedAfter (some 1)).launch "t" w [] "s" {} shelfWorld = (.ok ⟨w, u⟩, z) ∧
      WasStopped (some 1) (.ok u, z) ∧ Library.Same ["workflows"] shelf z.files ∧
      (∃ d, ((shelved.askedAfter none).launch "t" w [] "s" {} shelfWorld).2.saves.head? = some d ∧
        d.history.length = 1) ∧
      ∃ d, ((shelved.askedAfter none).resume "u" ⟨w.name, "s"⟩ none {} z).2.saves.head? = some d ∧
        d.history = [] := by
  obtain ⟨w, step, hload, hname, hid, hsmall⟩ :=
    @load_small "a.yaml" "b" "ask" "push" (by decide +kernel) rfl (.inl rfl)
  obtain ⟨v, other, hother, -, hid', hsmall'⟩ :=
    @load_small "b.yaml" "c" "other" "pull" (by decide +kernel) rfl (.inr rfl)
  have hpath : (⟨w.name, "s"⟩ : SessionKey).path = .ok ("b" ++ "/s.json") := by
    rw [hname]
    rfl
  have hwrite : ∀ data, bare.store.write ("b" ++ "/s.json") data shelf = (.ok (), stocked "b" data) := fun _ => rfl
  obtain ⟨y, u, z, hsave, hu, hlaunch, hstopped, hlast, hsame⟩ := hsmall.exists_stopped hpath hwrite
  obtain ⟨d, hsaves, -, hlength⟩ := hsmall.saves_launch hsave
  refine ⟨w, u, z, hload, hlaunch, hstopped, hsame, ⟨d, by rw [hsaves]; rfl, hlength⟩, ?_⟩
  have hstray : Library.find? shelf ["workflows"] w.name = .ok (some (shelfFile "b.yaml")) := by
    rw [hname]
    exact find?_shelf (by decide)
  have hget : Library.get z.files ["workflows"] u.name = .ok v := by
    rw [hu]
    exact hsame.get_eq hstray hother
  have hload' : load shelved.store z.files "u" ⟨w.name, "s"⟩ = .ok u := by
    have hportable := hsmall.isPortable_initial
    have hkey : u.key = ⟨w.name, "s"⟩ := by rw [hu]; rfl
    have hstored : u.stored = u := by
      rw [hu]
      exact Session.IsPortable.stored_eq ⟨hportable.variables_, hportable.outputs, hportable.lastError⟩
    rw [← hkey, load_of_saved hlast.saved, hstored]
  have hstep : Engine.stepOf? v u = none := by
    rw [hu]
    simp [Engine.stepOf?, initial, Workflow.getStep?, hsmall.steps_eq, hsmall'.steps_eq, hid, hid']
  obtain ⟨d', hsaves', hhistory⟩ := history_of_unknownStep (m := shelved.askedAfter none) ⟨hlast.saved, hlast.head_eq⟩
    hload' hget (by rw [hu]; rfl) (by rw [hu]; rfl) (fun _ => rfl) hstep {}
  exact ⟨d', hsaves', hhistory.trans (by rw [hu]; rfl)⟩

end Manager

end Runbook
