import Runbook.Proofs.Fault.Classify
import Runbook.Proofs.Manager.Soundness
import Runbook.Proofs.Session.Faults
import Runbook.Proofs.Workflow.Checks

/-! A session of a workflow whose steps refer to each other only is always at one of its steps, and no
operation on it ends with the fault that a step does not exist. -/

namespace Runbook

open Fault

/-- The session is at a step of the workflow, unless it is completed. -/
def Session.IsPlaced (w : Workflow) (s : Session) : Prop :=
  s.completed = false → ∃ id ∈ w.stepIds, s.currentStep = some id

/-- Wherever the task leads, there is a step with one of the ids. -/
def Task.LeadsInto (ids : List String) : Task → Prop
  | .conditional _ onTrue onFalse => onTrue ∈ ids ∧ ∀ target, onFalse = some target → target ∈ ids
  | .loop target _ _ => target ∈ ids
  | _ => True

theorem Task.leadsInto_fill {ids : List String} (b : Bindings) {t : Task} (h : t.LeadsInto ids) :
    (t.fill b).LeadsInto ids := by
  cases t with
  | conditional check onTrue onFalse => exact h
  | loop target condition maxIterations => exact h
  | _ => trivial

/-- The steps of the workflow refer to each other only. -/
structure Workflow.IsClosed (w : Workflow) : Prop where
  steps_ne_nil : w.steps ≠ []
  nonempty : "" ∉ w.stepIds
  leads : ∀ step ∈ w.steps, step.task.LeadsInto w.stepIds

theorem Task.leadsInto_of_isChecked {ids : List String} {id : String} {v : Value} {t : Task}
    (h : t.IsChecked ids id v) (hunder : v.IsUnder "onFalse" "on_false") : t.LeadsInto ids := by
  cases t with
  | conditional check onTrue onFalse => exact ⟨h.1, h.2 hunder⟩
  | loop target condition maxIterations => exact h.1
  | _ => trivial

theorem Workflow.isClosed_of_build {doc : Value} {w : Workflow} (h : build doc = .ok w)
    (hunder : ∀ v ∈ Report.stepsOf doc, v.IsUnder "onFalse" "on_false") : w.IsClosed where
  steps_ne_nil := (wellFormed_of_build h).steps_ne_nil
  nonempty := (wellFormed_of_build h).nonempty_stepIds
  leads step hstep := by
    obtain ⟨hlength, hchecked⟩ := List.forall₂_iff_get.mp (checked_of_build h)
    obtain ⟨i, hi, rfl⟩ := List.mem_iff_getElem.mp hstep
    have hi' : i < (Report.stepsOf doc).length := hlength ▸ hi
    exact Task.leadsInto_of_isChecked (hchecked i hi' hi) (hunder _ (List.getElem_mem hi'))

/-! ## Faults of an engine -/

theorem Fault.findsStep_of_isOfStep (e : Fault) (h : e.IsOfStep) : e.FindsStep := by
  cases e with
  | failure f =>
    intro hkind
    rcases h with h | h <;> rw [hkind] at h <;> cases h
  | _ => trivial

theorem Failure.kind_ofMessage (kind? : Option Category) (message label : String) :
    (Failure.ofMessage kind? message label).kind ≠ .unknownStep := by
  unfold ofMessage
  dsimp only
  cases kind?.getD (Category.ofMessage message) <;> exact nofun

theorem Fault.findsStep_advised {f : Failure} (h : f.kind ≠ .unknownStep) (c : Context) :
    (Fault.failure (f.advised.inContext c)).FindsStep := by
  have hkind : (f.advised.inContext c).kind = f.kind := f.kind_advised
  intro hunknown
  exact h (hkind.symm.trans hunknown)

theorem Fault.findsStep_classify {e : Fault} (h : e.FindsStep) (c : Context) :
    (Fault.failure (e.classify c)).FindsStep := by
  cases e with
  | failure f => exact findsStep_advised h c
  | schema errors => exact findsStep_advised (Failure.kind_ofMessage _ _ _) c
  | incident i => exact findsStep_advised (Failure.kind_ofMessage _ _ _) c

namespace Question

theorem finds_passes (q : Question) (text : String) : Finds (q.passes text) := by
  unfold passes
  split
  · exact only_ok _
  · split_ifs
    · exact only_ok _
    · split
      · exact only_ok _
      · exact only_error (Pattern.Flaw.findsStep _)

theorem finds_confirmed (step : String) (answer : Value) : Finds (confirmed step answer) := by
  unfold confirmed
  split
  · exact only_ok _
  · dsimp only
    split_ifs
    · exact only_ok _
    · exact only_ok _
    · exact finds_failure nofun

theorem finds_stored (step : String) (q : Question) (answer : Value) : Finds (q.stored step answer) := by
  unfold stored
  generalize (if q.inputType = .multiline then answer.display else Text.trim answer.display) = text
  dsimp only
  split_ifs
  · exact finds_failure nofun
  · split
    · rename_i e he
      exact only_error (finds_passes _ _ e he)
    · exact only_ok _
    · exact finds_failure nofun

theorem finds_accept (step : String) (q : Question) (answer : Value) : Finds (q.accept step answer) := by
  unfold accept
  dsimp only
  split_ifs
  · exact finds_confirmed _ _
  · exact finds_stored _ _ _

end Question

/-- A step leads to steps of the workflow only. -/
theorem Execution.leads_perform {σ : Type} (v : Services σ) (s : Session) {step : Step} {ids : List String}
    (h : step.task.LeadsInto ids) :
    Act.Ensures (fun o => ∀ id, o.nextStep = some id → id ∈ ids) (perform v s step) := by
  intro x o ho id hid
  cases htask : step.task with
  | conditional check onTrue onFalse =>
    rw [htask] at h
    obtain ⟨holds, target, rfl, rfl⟩ := perform_conditional v htask x o ho
    cases holds with
    | true => exact Option.some.inj hid ▸ h.1
    | false => exact h.2 id hid
  | loop target condition maxIterations =>
    rw [htask] at h
    obtain ⟨again, rfl⟩ := perform_loop v htask x o ho
    cases again with
    | true => exact Option.some.inj hid ▸ h
    | false => cases hid
  | interactive q =>
    obtain rfl := perform_interactive v htask x o ho
    cases hid
  | _ =>
    have hflow : step.task.isFlow = false := by rw [htask]; rfl
    rw [(plain_perform v s hflow x o ho).1] at hid
    cases hid

namespace Engine

variable {σ : Type} {e : Engine σ} {w : Workflow} {s t : Session} {step : Step} {x : σ}

/-- Neither the collaborators nor the saves of the engine tell of a step that does not exist. -/
structure FindsSteps (e : Engine σ) : Prop where
  services : e.services.All (Act.Raises FindsStep)
  save : ∀ s, Act.Raises FindsStep Unit (e.save s)

theorem exists_stepOf? (hw : w.IsClosed) (h : s.IsPlaced w) (hopen : s.completed = false) :
    ∃ step ∈ w.steps, stepOf? w s = some step := by
  obtain ⟨id, hid, hcurrent⟩ := h hopen
  have hne : id ≠ "" := by
    rintro rfl
    exact hw.nonempty hid
  obtain ⟨other, hother, hsame⟩ := List.mem_map.mp hid
  cases hfind : w.getStep? id with
  | none => exact absurd hsame (by simpa using List.find?_eq_none.mp hfind other hother)
  | some step => exact ⟨step, List.mem_of_find?_eq_some hfind, stepOf?_of_current hcurrent hne hfind⟩

theorem placed_moveTo {target : Option String} {now : String}
    (htarget : ∀ id, target = some id → id ∈ w.stepIds) : (s.moveTo target now).IsPlaced w := by
  cases target with
  | none => exact fun hopen => nomatch hopen
  | some id => exact fun _ => ⟨id, htarget id rfl, rfl⟩

theorem placed_turn (h : s.IsPlaced w) (hturn : Turn e w s t) : t.IsPlaced w := by
  cases hturn with
  | @finished step o target iterations x hstep hdone hsuccess htarget =>
    rw [afterSuccess_eq]
    split_ifs
    · exact h
    · exact placed_moveTo (target_eq_ok htarget).1
  | _ => exact h

/-- Turns, answers and resumptions lead to steps of the workflow. -/
theorem preserves_placed (e : Engine σ) (w : Workflow) : e.Preserves w (·.IsPlaced w) where
  turn _ _ h _ _ _ hturn := placed_turn h hturn
  answered s a t h _ ha := by
    obtain ⟨step, q, value, shown, -, -, -, rfl⟩ := answered_eq_ok ha
    exact placed_moveTo fun id hid => Workflow.mem_stepIds_of_nextStepId? hid
  resumed _ h _ := h

theorem finds_judge {o : Outcome} (hleads : ∀ id, o.nextStep = some id → id ∈ w.stepIds) :
    Finds (e.judge w s step o) := by
  unfold judge target
  split_ifs
  · split
    · exact only_ok _
    · rename_i id hid
      split
      · rename_i hnone
        obtain ⟨other, hother, hsame⟩ := List.mem_map.mp (hleads id hid)
        exact absurd hsame (by simpa using List.findIdx?_eq_none_iff.mp hnone other hother)
      · split_ifs
        · dsimp only
          split_ifs
          · exact finds_failure nofun
          · exact only_ok _
        · exact only_ok _
  · exact finds_failure nofun

theorem finds_settledFailure {o : Option Outcome} {f : Fault} {stop : Bool} (h : f.FindsStep) :
    Finds (e.settledFailure w s step o f stop).2 := by
  cases stop with
  | true => exact only_ok _
  | false => exact only_error (findsStep_classify (findsStep_classify h _) _)

theorem finds_settled {stop : Bool} {r : Except Fault Outcome} (hr : Finds r)
    (hleads : ∀ o, r = .ok o → ∀ id, o.nextStep = some id → id ∈ w.stepIds) :
    Finds (e.settled w s step stop r).2 := by
  obtain ⟨f, hf, h⟩ | ⟨o, f, ho, hjudge, h⟩ | ⟨o, target, iterations, -, -, h⟩ :=
    settled_cases e w s step stop r <;> rw [h]
  · exact finds_settledFailure (hr f hf)
  · exact finds_settledFailure (finds_judge (hleads o ho) f hjudge)
  · exact only_ok _

theorem finds_answered (s : Session) (a : Value) : Finds (e.answered w s a) := by
  unfold answered
  split
  · split
    · exact (Question.finds_accept _ _ _).bind fun _ => only_ok _
    · exact finds_failure nofun
  · exact finds_failure nofun

namespace FindsSteps

theorem settle (h : e.FindsSteps) {t : Session × Except Fault Session} (ht : Finds t.2) :
    Finds (e.settle t x).1 := by
  rw [settle_apply]
  cases hsave : (e.save t.1 x).1 with
  | ok u => exact ht
  | error f => exact only_error (h.save t.1 x f hsave)

theorem runStep (h : e.FindsSteps) (hleads : step.task.LeadsInto w.stepIds) : Finds (e.runStep w s step x).1 := by
  have hdone : Finds (e.performed s step x).1 :=
    e.performed_all (Act.closed_raises findsStep_of_isOfStep) h.services s step x
  have hsettled (stop : Bool) : Finds (e.settled w s step stop (e.performed s step x).1).2 :=
    finds_settled hdone (Execution.leads_perform e.services s (Task.leadsInto_fill s.variables hleads) x)
  rw [runStep_eq]
  dsimp only
  split
  · rename_i f habort
    exact only_error (hdone f (abort?_eq_some habort))
  · exact h.settle (hsettled _)

/-- A run of a session that is at a step of the workflow finds every step. -/
theorem runFrom (h : e.FindsSteps) (hw : w.IsClosed) (fuel : ℕ) (hs : s.IsPlaced w) :
    Finds (e.runFrom w fuel s x).1 := by
  induction fuel generalizing s x with
  | zero => exact only_ok _
  | succ fuel ih =>
    rw [runFrom_succ]
    split_ifs with hdone hstop
    · exact only_ok _
    · exact h.settle (only_ok _)
    · obtain ⟨step, hmem, hstep⟩ := exists_stepOf? hw hs (by simpa using hdone)
      rw [hstep]
      dsimp only
      cases hr : (e.runStep w s step x).1 with
      | error f => exact only_error (h.runStep (hw.leads step hmem) f hr)
      | ok t =>
        dsimp only
        split_ifs
        · exact only_ok _
        · obtain ⟨stop, hsettled⟩ := runStep_eq_ok hr
          have hturn := turn_settled (e := e) (w := w) hstep stop x
          rw [← (settled_eq_ok hsettled).1] at hturn
          exact ih (placed_turn hs hturn)

theorem run (h : e.FindsSteps) (hw : w.IsClosed) (hs : s.IsPlaced w) : Finds (e.run w s x).1 := by
  unfold Engine.run
  split_ifs
  · exact only_ok _
  · exact h.runFrom hw _ hs

theorem resume (h : e.FindsSteps) (hw : w.IsClosed) (hs : s.IsPlaced w) (answer : Option Value) :
    Finds (e.resume w s answer x).1 := by
  unfold Engine.resume
  split_ifs with hdone
  · exact only_ok _
  · have hopen : s.completed = false := by simpa using hdone
    have hgo (t : Session) (ht : (e.resumed t).IsPlaced w) :
        Finds ((do e.save (e.resumed t); e.run w (e.resumed t) : Act σ Session) x).1 := by
      rw [Act.bind_apply]
      cases hsave : (e.save (e.resumed t) x).1 with
      | error f => exact only_error (h.save _ x f hsave)
      | ok u => exact h.run hw ht
    cases answer with
    | none => exact hgo s hs
    | some a =>
      dsimp only
      cases ha : e.answered w s a with
      | error f => exact only_error (finds_answered s a f ha)
      | ok t => exact hgo t ((preserves_placed e w).answered s a t hs hopen ha)

end FindsSteps

end Engine

/-! ## Operations of a manager -/

namespace Manager

variable {γ : Type} {m : Manager γ} {w : Workflow} {id : String} {x : World γ}

/-- Neither the collaborators nor new ids tell of a step that does not exist. -/
structure FindsSteps (m : Manager γ) : Prop where
  services : m.services.All (Act.Raises FindsStep)
  newId : Act.Raises FindsStep String m.newId

theorem FindsSteps.engine (h : m.FindsSteps) (now : String) : (m.engine now).FindsSteps where
  services := h.services
  save s x := by
    change Finds (m.save s x).1
    have hsave := Repository.raises_save m.store s x.files
    rw [save_apply]
    generalize Repository.save m.store s x.files = r at hsave ⊢
    obtain ⟨r, f⟩ := r
    cases r with
    | ok u => exact only_ok _
    | error e => exact only_error (hsave e rfl)

theorem finds_checkFree (m : Manager γ) (now : String) (w : Workflow) (key : SessionKey) (x : World γ) :
    Finds (m.checkFree now w key x).1 := by
  have hload : Finds (m.loadSession now key x).1 := Repository.finds_load m.store x.files now key
  unfold checkFree
  rw [Act.bind_apply, Act.observe_apply]
  dsimp only
  cases hr : (m.loadSession now key x).1 with
  | ok s => exact finds_failure nofun
  | error e =>
    have he := hload e hr
    cases e with
    | failure f =>
      dsimp only
      split_ifs
      · exact only_ok _
      · exact only_error he
    | _ => exact only_error he

theorem placed_initial (hw : w.IsClosed) (given : Bindings) (id now : String) :
    (Repository.initial w given id now).IsPlaced w := by
  obtain ⟨step, rest, hsteps⟩ := List.exists_cons_of_ne_nil hw.steps_ne_nil
  refine fun _ => ⟨step.id, ?_, ?_⟩
  · simp [Workflow.stepIds, hsteps]
  · simp [Repository.initial, hsteps]

theorem invariant_placed (m : Manager γ) (hw : w.IsClosed) (id : String) :
    m.Invariant w id (·.IsPlaced w) where
  initial given now := placed_initial hw given id now
  preserves now cancelled := Engine.preserves_placed ({ m with cancelled }.engine now) w
  stored _ _ h _ := h

theorem finds_launch (h : m.FindsSteps) (hw : w.IsClosed) (now : String) (given : Bindings) (id : String)
    (token : Token) (x : World γ) : Finds (m.launch now w given id token x).1 := by
  rw [launch_apply]
  dsimp only
  cases hpath : (Repository.initial w given id now).key.path with
  | error e => exact only_error (SessionKey.finds_path _ e hpath)
  | ok path =>
    dsimp only
    cases hsave : (m.save (Repository.initial w given id now) x).1 with
    | error e => exact only_error ((h.engine now).save _ x e hsave)
    | ok u => exact ((h.engine now).run hw (placed_initial hw given id now)).map _

/-- A start of a workflow whose steps refer to each other only finds every step. -/
theorem finds_start (h : m.FindsSteps) (hw : w.IsClosed) (now : String) (given : Bindings)
    (asked : Option String) (token : Token) (x : World γ) : Finds (m.start now w given asked token x).1 := by
  rcases start_cases m now w given asked token x with
    ⟨e, i, hfree, hstart⟩ | ⟨e, hnew, hstart⟩ | ⟨id, -, hstart⟩
  · rw [hstart]
    exact only_error (finds_checkFree m now w _ x e hfree)
  · rw [hstart]
    unfold idOr at hnew
    split at hnew
    · split_ifs at hnew
      · exact only_error (h.newId x e hnew)
      · cases hnew
    · exact only_error (h.newId x e hnew)
  · rw [hstart]
    exact finds_launch h hw now given id token _

/-- So does a resumption in a world where the session is at a step of the workflow. -/
theorem finds_resume (h : m.FindsSteps) (hw : w.IsClosed) (now : String) (key : SessionKey)
    (answer : Option Value) (token : Token)
    (hs : ∀ s, Repository.load m.store x.files now key = .ok s → s.name = w.name ∧ s.IsPlaced w)
    (hfound : ∀ v, Library.get x.files m.directories w.name = .ok v → v = w) :
    Finds (m.resume now key answer token x).1 := by
  rw [resume_apply]
  cases hload : Repository.load m.store x.files now key with
  | error e => exact only_error (Repository.finds_load _ _ _ _ e hload)
  | ok s =>
    obtain ⟨hname, hplaced⟩ := hs s hload
    dsimp only
    rw [hname]
    cases hget : Library.get x.files m.directories w.name with
    | error e => exact only_error (Library.finds_get _ _ _ e hget)
    | ok v =>
      obtain rfl := hfound v hget
      exact ((h.engine now).resume hw hplaced answer).map _

/-- A workflow that is built has steps with different ids that are not empty, and has what the checks
guarantee. Where no step gives `onFalse` under its name with low lines alone, no operation on a session of the
workflow ends with the failure that a step does not exist. -/
theorem finds_steps_of_build {doc : Value} (hbuild : Workflow.build doc = .ok w) (m : Manager γ) :
    w.WellFormed ∧
    List.Forall₂ (fun v step => step.task.IsChecked w.stepIds step.id v) (Report.stepsOf doc) w.steps ∧
    ((∀ v ∈ Report.stepsOf doc, v.IsUnder "onFalse" "on_false") → m.FindsSteps →
      (∀ now given asked token cancelled x f,
        (({ m with cancelled }).start now w given asked token x).1 = .error (.failure f) →
        f.kind ≠ .unknownStep) ∧
      ∀ id x, m.LeavesAlone ⟨w.name, id⟩ → m.Reached w id x →
        ∀ now key answer token cancelled f, key.path = (⟨w.name, id⟩ : SessionKey).path →
        (∀ v, Library.get x.files m.directories w.name = .ok v → v = w) →
        (({ m with cancelled }).resume now key answer token x).1 = .error (.failure f) →
        f.kind ≠ .unknownStep) := by
  refine ⟨Workflow.wellFormed_of_build hbuild, Workflow.checked_of_build hbuild, fun hunder hfinds => ?_⟩
  have hw := Workflow.isClosed_of_build hbuild hunder
  have hfinds' (cancelled : World γ → Bool) : ({ m with cancelled }).FindsSteps := ⟨hfinds.services, hfinds.newId⟩
  constructor
  · intro now given asked token cancelled x f hf
    exact finds_start (hfinds' cancelled) hw now given asked token x _ hf
  · intro id x halone hreached now key answer token cancelled f hkey hfound hf
    have hholds := hreached.holds (invariant_placed m hw id) halone
    refine finds_resume (hfinds' cancelled) hw now key answer token (fun s hload => ?_) hfound _ hf
    obtain ⟨hskey, hplaced⟩ := load_holds hholds hkey hload
    exact ⟨congrArg SessionKey.workflow hskey, hplaced⟩

end Manager

namespace Workflow

/-- A branch, a choice and a jump back to the branch. -/
def branchingDocument : Value := .obj [
  ("name", .text "demo"),
  ("steps", .list [
    .obj [("id", .text "look"), ("action", .text "conditional"), ("check", .text "ready"),
      ("onTrue", .text "again"), ("onFalse", .text "ask")],
    .obj [("id", .text "ask"), ("action", .text "interactive"), ("prompt", .text "Which one?"),
      ("inputType", .text "choice"), ("choices", .list [.text "this", .text "that"])],
    .obj [("id", .text "again"), ("action", .text "loop"), ("to", .text "look"), ("condition", .text "true"),
      ("maxIterations", .int 3)]])]

def branching : Workflow where
  name := "demo"
  steps := [
    ⟨"look", none, .conditional "ready" "again" (some "ask")⟩,
    ⟨"ask", none, .interactive { prompt := "Which one?", inputType := .choice, choices := ["this", "that"] }⟩,
    ⟨"again", none, .loop "look" "true" (some 3)⟩]

/-- A branch whose second target is given under its name with low lines, and is no step. -/
def danglingDocument : Value := .obj [
  ("name", .text "demo"),
  ("steps", .list [
    .obj [("id", .text "a"), ("action", .text "conditional"), ("check", .text "ready"),
      ("onTrue", .text "b"), ("on_false", .text "nowhere")],
    .obj [("id", .text "b"), ("action", .text "push")]])]

end Workflow

namespace Manager

theorem findsSteps_bare : bare.FindsSteps where
  services := {
    execute := nofun
    provider := nofun
    setProvider := nofun
    chat := nofun
    create := nofun
    latest := nofun
    merge := nofun
    offerModel := fun _ _ => only_ok _
    fileExists := fun dir file x => by
      change Finds ((x.files.isThereFrom dir file).mapError Fault.incident)
      cases x.files.isThereFrom dir file with
      | ok b => exact only_ok _
      | error i => exact only_error trivial }
  newId _ := only_ok _

/-- The branch, the choice and the jump lead to each other, so that neither a start nor an answer afterwards
ends with the failure that a step does not exist. -/
theorem finds_steps_branching :
    Workflow.build Workflow.branchingDocument = .ok .branching ∧
      let m := { bare with cancelled := fun _ => false }
      let x := (m.start "t" .branching [] (some "s") {} .empty).2
      (∀ f, (m.start "t" .branching [] (some "s") {} .empty).1 = .error (.failure f) → f.kind ≠ .unknownStep) ∧
      ∀ f, (m.resume "u" ⟨"demo", "s"⟩ (some (.text "this")) {} x).1 = .error (.failure f) →
        f.kind ≠ .unknownStep := by
  have hbuild : Workflow.build Workflow.branchingDocument = .ok .branching := rfl
  have hunder : ∀ v ∈ Report.stepsOf Workflow.branchingDocument, v.IsUnder "onFalse" "on_false" := by
    intro v hv hlow
    rcases List.mem_cons.mp hv with rfl | hv
    · exact nofun
    · rcases List.mem_cons.mp hv with rfl | hv
      · exact absurd rfl hlow
      · obtain rfl := List.mem_singleton.mp hv
        exact absurd rfl hlow
  obtain ⟨-, -, hfinds⟩ := finds_steps_of_build hbuild bare
  obtain ⟨hstart, hresume⟩ := hfinds hunder findsSteps_bare
  have hfresh : bare.Reached .branching "s" .empty := .fresh nofun rfl
  have hstarted := hfresh.started "t" [] (some "s") {} (fun _ => false) rfl
  have hresumed := hresume "s" _ (leavesAlone_bare _) hstarted "u" ⟨"demo", "s"⟩ (some (.text "this")) {}
    fun _ => false
  have hnone (f : Files) : Library.get f [] "demo" = .error (Library.notFound "demo") := rfl
  refine ⟨hbuild, hstart "t" [] (some "s") {} (fun _ => false) .empty, fun f => hresumed f rfl fun v hv => ?_⟩
  cases (hnone _).symm.trans hv

/-- A workflow that is built may lead to a step that does not exist, and a run of it ends with the failure that
tells so. -/
theorem exists_dangling_step :
    ∃ w, Workflow.build Workflow.danglingDocument = .ok w ∧
      (∃ step ∈ w.steps, ∃ check onTrue target, step.task = .conditional check onTrue (some target) ∧
        target ∉ w.stepIds) ∧
      ∃ f, (({ bare.engine "t" with save := fun _ => pure () }).run w (Repository.initial w [] "s" "t") .empty).1 =
        .error (.failure f) ∧ f.kind = .unknownStep := by
  refine ⟨_, rfl, ⟨_, List.mem_cons_self, "ready", "b", "nowhere", rfl, by decide⟩, _, rfl, rfl⟩

end Manager

end Runbook
