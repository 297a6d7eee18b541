import Runbook.Proofs.Execution.Failing
import Runbook.Proofs.Manager.Crash

/-! A step that fails is contained: the operation ends with a failure that says what to do and where it arose, and what
is saved of the session agrees with it. -/

namespace Runbook

open Repository

variable {γ : Type} {m : Manager γ} {w : Workflow} {s s₀ d : Session} {step : Step} {o : Option Outcome} {f : Fault}
  {now : String} {x y z : World γ} {q : Except Fault Standing × World γ}

namespace Manager

/-! ## Where runs begin -/

/-- The operation with this result saves a session and runs the workflow from there. -/
inductive Begins (m : Manager γ) (now : String) (w : Workflow) :
    Except Fault Standing × World γ → Session → World γ → Prop where
  | started {x y : World γ} {given : Bindings} {asked : Option String} {id : String} {token : Token}
      (hfree : ∀ i, asked = some i → (m.checkFree now w ⟨w.name, i⟩ x).1 = .ok ()) (hid : (m.idOr asked x).1 = .ok id)
      (hsave : m.save (initial w given id now) (m.idOr asked x).2 = (.ok (), y)) :
      Begins m now w (m.start now w given asked token x) (initial w given id now) { y with token }
  | named {x y : World γ} {name : String} {given : Bindings} {asked : Option String} {token : Token} {s : Session}
      (hget : Library.get x.files m.directories name = .ok w)
      (h : Begins m now w (m.start now w given asked token x) s y) :
      Begins m now w (m.startNamed now name given asked token x) s y
  | resumed {x y : World γ} {key : SessionKey} {answer : Option Value} {token : Token} {d t : Session}
      (hload : load m.store x.files now key = .ok d) (hget : Library.get x.files m.directories d.name = .ok w)
      (hopen : d.completed = false) (ht : (m.engine now).reopened w d answer = .ok t)
      (hsave : m.save ((m.engine now).resumed t) { x with token } = (.ok (), y)) :
      Begins m now w (m.resume now key answer token x) ((m.engine now).resumed t) y

theorem start_of_free {given : Bindings} {asked : Option String} {id : String} {token : Token}
    (hfree : ∀ i, asked = some i → (m.checkFree now w ⟨w.name, i⟩ x).1 = .ok ()) (hid : (m.idOr asked x).1 = .ok id) :
    m.start now w given asked token x = m.launch now w given id token (m.idOr asked x).2 := by
  have hnew : m.idOr asked x = (.ok id, (m.idOr asked x).2) := Prod.ext hid rfl
  unfold start
  cases asked with
  | none =>
    dsimp only
    exact Act.bind_ok hnew _
  | some i =>
    have hcheck : m.checkFree now w ⟨w.name, i⟩ x = (.ok (), x) := Prod.ext (hfree i rfl) (checkFree_world m now w _ x)
    dsimp only
    rw [Act.bind_ok hcheck, Act.bind_ok hnew]

/-- It comes to what the run comes to, and the session neither waits nor has failed. -/
theorem Begins.spec (h : m.Begins now w q s x) :
    s.paused = false ∧ s.failed = false ∧ s.lastError = none ∧
      q = (((m.engine now).run w s x).1.map (⟨w, ·⟩), ((m.engine now).run w s x).2) := by
  induction h with
  | started hfree hid hsave =>
    refine ⟨rfl, rfl, rfl, ?_⟩
    rw [start_of_free hfree hid, launch_of_saved hsave]
  | named hget h ih =>
    obtain ⟨hpaused, hfailed, hlast, hrun⟩ := ih
    refine ⟨hpaused, hfailed, hlast, ?_⟩
    rw [startNamed_apply, hget]
    exact hrun
  | resumed hload hget hopen ht hsave => exact ⟨rfl, rfl, rfl, resume_of_saved hload hget hopen ht hsave⟩

/-! ## Steps that fail -/

/-- A step failed with a fault, perhaps with an outcome, in an operation with this result. The failure names what the
fault does not name itself, and the session is the one that is saved. -/
structure Contained (m : Manager γ) (w : Workflow) (s : Session) (step : Step) (o : Option Outcome) (f : Fault)
    (z : World γ) (q : Except Fault Standing × World γ) (g : Failure) (d : Session) : Prop where
  hints_ne_nil : g.hints ≠ []
  step_eq : g.context.step = orElseText f.givenContext.step (some step.id)
  workflow_eq : w.name ≠ "" → g.context.workflow = orElseText f.givenContext.workflow (some w.name)
  session_eq : g.context.session = orElseText f.givenContext.session (some s.key.display)
  recorded : Engine.Recorded s step o g.message d
  shows : ∀ u, m.save d z = (.ok (), u) → m.Shows s.key d.stored u
  failed : m.cancelled z = false → d.failed = true ∧ d.paused = false ∧
    d.lastError = some (Engine.errorFields g) ∧ Value.obj (Engine.errorFields g) = g.toValue ∧
    d.stored.lastError = d.lastError ∧
    q = match m.save d z with
      | (.ok (), u) => (.error (.failure g), u)
      | (.error f, u) => (.error f, u)
  stopped : m.cancelled z = true → d.paused = true ∧ d.failed = false ∧ d.lastError = none ∧
    q = match m.save d z with
      | (.ok (), u) => (.ok ⟨w, d⟩, u)
      | (.error f, u) => (.error f, u)

/-- Whatever a step fails with, in a session that an operation has come to, is contained, unless it ends the run at
once: then nothing is recorded or saved. -/
theorem failing_step_is_contained (hw : w.stepIds.Nodup) (hbegins : m.Begins now w q s₀ x)
    (hpasses : (m.engine now).Passes w s₀ x s y) (hopen : s.completed = false) (hgo : m.cancelled y = false)
    (hstep : Engine.stepOf? w s = some step) {r : Except Fault Outcome}
    (hperformed : (m.engine now).performed s step y = (r, z)) :
    (∀ f, r = .error f → Engine.isAbrupt f = true → q = (.error f, z)) ∧
      ∀ o f, (m.engine now).Fails w s step r o f → ∃ g d, m.Contained w s step o f z q g d := by
  obtain ⟨hpaused₀, hfailed₀, hlast₀, rfl⟩ := hbegins.spec
  obtain ⟨hpaused, hrun⟩ := hpasses.run_eq hw hpaused₀
  obtain ⟨hkey, hfailed, hlast⟩ := hpasses.keeps
  rw [hrun]
  refine ⟨fun f hr habrupt => ?_, fun o f hfails => ?_⟩
  · subst hr
    rw [Engine.run_eq_of_isAbrupt hpaused hopen hgo hstep (congrArg Prod.fst hperformed) habrupt, hperformed]
    rfl
  · have hfails' : (m.engine now).Fails w s step ((m.engine now).performed s step y).1 o f := by
      rw [hperformed]
      exact hfails
    have hrecorded := Engine.recorded_settledFailure (m.engine now) w s step o f (m.cancelled z)
    rw [hfails'.run_eq hpaused hopen hgo hstep, hperformed, settle_engine]
    refine ⟨Engine.raisedFailure w s step f, _, Engine.hints_raisedFailure_ne_nil w s step f,
      Engine.step_raisedFailure hstep f, fun hname => Engine.workflow_raisedFailure hname s step f,
      Engine.session_raisedFailure w s step f, hrecorded, fun u hu => ?_, fun hstop => ?_, fun hstop => ?_⟩
    · exact .of_save (hrecorded.key_eq ▸ .refl _) hu
    · have hcancelled : (m.engine now).cancelled z = false := hstop
      rw [hcancelled, hstop, Engine.settledFailure_false]
      exact ⟨rfl, hpaused, rfl, rfl, congrArg some (Engine.isPortable_errorFields _).stored_eq, rfl⟩
    · have hcancelled : (m.engine now).cancelled z = true := hstop
      rw [hcancelled, hstop, Engine.settledFailure_true]
      exact ⟨rfl, hfailed.trans hfailed₀, hlast.trans hlast₀, rfl⟩

/-! ## A command that is never run -/

def makeStep : Step where
  id := "make"
  task := .shell "make" none

/-- A workflow of one command. -/
def making : Workflow where
  name := "demo"
  steps := [makeStep]

/-- A manager whose runner raises the same for every command. -/
def raising (kind : IncidentKind) : Manager Unit :=
  { bare with services := Services.onPartners {
      runner := some { execute := fun _ _ _ => throw (.ofKind kind "boom"), terminate := pure () }
      agent := none
      hosting := none
      offerModel := fun _ x => x
      fileExists := fun _ _ => pure false
      shellTimeout := .nan } }

/-- Its first session is saved and begins. -/
theorem begins_raising (kind : IncidentKind) :
    ∃ y, (raising kind).Begins "t" making ((raising kind).start "t" making [] none {} .empty)
        (initial making [] "s" "t") y ∧ y.saves = [initial making [] "s" "t"] ∧ (raising kind).cancelled y = false := by
  have hwrite (data : List UInt8) : (bare.store.write "demo/s.json" data {}).1 = .ok () := rfl
  obtain ⟨y, hsave⟩ := exists_save_of_write (m := raising kind) (s := initial making [] "s" "t") (x := .empty) rfl
    (exists_fileText_of_pending rfl rfl rfl rfl) hwrite
  have hid : (raising kind).idOr none World.empty = (.ok "s", World.empty) := rfl
  refine ⟨{ y with token := {} }, ?_, (save_eq_ok hsave).2.1, rfl⟩
  refine .started nofun (congrArg Prod.fst hid) ?_
  rw [hid]
  exact hsave

/-- The session fails at the command. -/
theorem failing_command_is_contained :
    let m := raising .runtime
    let s := initial making [] "s" "t"
    ∃ y g d, m.Begins "t" making (m.start "t" making [] none {} .empty) s y ∧ m.cancelled y = false ∧
      (m.engine "t").performed s makeStep y = (.error (.ofKind .runtime "boom"), y) ∧
      m.Contained making s makeStep none (.ofKind .runtime "boom") y (m.start "t" making [] none {} .empty) g d := by
  intro m s
  obtain ⟨y, hbegins, -, hgo⟩ := begins_raising .runtime
  have hids : making.stepIds.Nodup := List.nodup_singleton _
  have hstep : Engine.stepOf? making s = some makeStep := rfl
  have hperformed : (m.engine "t").performed s makeStep y = (.error (.ofKind .runtime "boom"), y) := rfl
  obtain ⟨g, d, hcontained⟩ :=
    (failing_step_is_contained hids hbegins .refl rfl hgo hstep hperformed).2 none _ (.raised rfl)
  exact ⟨y, g, d, hbegins, hgo, hperformed, hcontained⟩

/-- A cancellation that the runner raises ends the run as it is: no failure is raised, and what was saved last is the
session as it began. -/
theorem exists_unrecorded_exception :
    let m := raising .cancelled
    let s := initial making [] "s" "t"
    ∃ y, (m.engine "t").performed s makeStep y = (.error (.ofKind .cancelled "boom"), y) ∧ m.cancelled y = false ∧
      m.start "t" making [] none {} .empty = (.error (.ofKind .cancelled "boom"), y) ∧
      y.saves = [s] ∧ s.failed = false ∧ s.lastError = none ∧ s.history = [] := by
  intro m s
  obtain ⟨y, hbegins, hsaves, hgo⟩ := begins_raising .cancelled
  have hstep : Engine.stepOf? making s = some makeStep := rfl
  have hperformed : (m.engine "t").performed s makeStep y = (.error (.ofKind .cancelled "boom"), y) := rfl
  obtain ⟨hpaused, -, -, hrun⟩ := hbegins.spec
  refine ⟨y, hperformed, hgo, ?_, hsaves, rfl, rfl, rfl⟩
  rw [hrun, Engine.run_eq_of_isAbrupt hpaused rfl hgo hstep (congrArg Prod.fst hperformed) rfl, hperformed]
  rfl

end Manager

end Runbook
