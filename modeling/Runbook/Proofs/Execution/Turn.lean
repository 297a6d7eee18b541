import Mathlib.Tactic
import Runbook.Execution.Engine
import Runbook.Proofs.Execution.Perform

/-! What an engine does between two saves. Whatever a single turn preserves is preserved by runs. -/

namespace Runbook.Engine

variable {σ : Type} {e : Engine σ} {w : Workflow} {s t : Session} {step : Step} {x : σ}

/-! ## Steps of an engine -/

/-- Saves a session and ends. -/
def settle (e : Engine σ) (t : Session × Except Fault Session) : Act σ Session := do
  e.save t.1
  Act.ofExcept t.2

/-- How a session ends that stops because it was asked to. -/
def stopping (e : Engine σ) (s : Session) : Session × Except Fault Session := (e.stopped s, .ok (e.stopped s))

/-- How a session ends that fails. -/
def failing (e : Engine σ) (s : Session) (f : Failure) : Session × Except Fault Session :=
  (e.failed s (named s f), .error (.failure (named s f)))

/-- What becomes of a session by a step that did not succeed. -/
def settledFailure (e : Engine σ) (w : Workflow) (s : Session) (step : Step) (o : Option Outcome) (f : Fault)
    (stop : Bool) : Session × Except Fault Session :=
  let failure := stepFailure w s step f
  let s := e.afterFailure s step o failure.message
  if stop then e.stopping s else e.failing s failure

/-- What becomes of a session by what its step came to. -/
def settled (e : Engine σ) (w : Workflow) (s : Session) (step : Step) (stop : Bool) :
    Except Fault Outcome → Session × Except Fault Session
  | .error f => e.settledFailure w s step none f stop
  | .ok o =>
    match e.judge w s step o with
    | .error f => e.settledFailure w s step (some o) f stop
    | .ok (target, iterations) =>
      let t := e.afterSuccess s step o target iterations
      (t, .ok t)

/-- What the step of a session comes to in a world. -/
def performed (e : Engine σ) (s : Session) (step : Step) (x : σ) : Except Fault Outcome × σ :=
  Execution.perform e.services s (step.fill s.variables) x

/-- A step does nothing but what the collaborators of the engine do. -/
theorem performed_all (e : Engine σ) {K : ∀ α : Type, Act σ α → Prop} (hK : Act.Closed K) (hv : e.services.All K)
    (s : Session) (step : Step) : K Outcome (e.performed s step) :=
  Execution.perform_all hK hv s (step.fill s.variables)

/-- What becomes of a session: its step failed without an outcome, or with one, or it succeeded. -/
theorem settled_cases (e : Engine σ) (w : Workflow) (s : Session) (step : Step) (stop : Bool)
    (r : Except Fault Outcome) :
    (∃ f, r = .error f ∧ e.settled w s step stop r = e.settledFailure w s step none f stop) ∨
    (∃ o f, r = .ok o ∧ e.judge w s step o = .error f ∧
      e.settled w s step stop r = e.settledFailure w s step (some o) f stop) ∨
    ∃ o target iterations, r = .ok o ∧ e.judge w s step o = .ok (target, iterations) ∧
      e.settled w s step stop r =
        (e.afterSuccess s step o target iterations, .ok (e.afterSuccess s step o target iterations)) := by
  cases r with
  | error f => exact .inl ⟨f, rfl, rfl⟩
  | ok o =>
    simp only [settled]
    cases hjudge : e.judge w s step o with
    | error f => exact .inr (.inl ⟨o, f, rfl, hjudge, rfl⟩)
    | ok p => exact .inr (.inr ⟨o, p.1, p.2, rfl, hjudge, rfl⟩)

/-- The record of a step that succeeded. -/
def successRecord (e : Engine σ) (step : Step) (o : Outcome) : StepRecord where
  stepId := step.id
  action := step.action
  success := true
  output := .obj o.output
  timestamp := e.now

/-- The session with the record of a step that succeeded, at that step still. -/
def succeeded (e : Engine σ) (s : Session) (step : Step) (o : Outcome) (iterations : ℤ) : Session :=
  ({ s with «variables» := s.variables.update o.exports, iterations }).record (e.successRecord step o) e.now

/-- With its record a session pauses if there is a question, and else moves on. -/
theorem afterSuccess_eq (e : Engine σ) (s : Session) (step : Step) (o : Outcome) (target : Option String)
    (iterations : ℤ) :
    e.afterSuccess s step o target iterations =
      if o.request.isSome then { e.succeeded s step o iterations with paused := true }
      else (e.succeeded s step o iterations).moveTo target e.now := rfl

theorem key_moveTo (s : Session) (target : Option String) (now : String) :
    (s.moveTo target now).key = s.key := by
  cases target <;> rfl

theorem key_afterSuccess (e : Engine σ) (s : Session) (step : Step) (o : Outcome) (target : Option String)
    (iterations : ℤ) : (e.afterSuccess s step o target iterations).key = s.key := by
  rw [afterSuccess_eq]
  split_ifs
  · rfl
  · exact key_moveTo _ _ _

theorem kept_afterSuccess (e : Engine σ) (s : Session) (step : Step) (o : Outcome) (target : Option String)
    (iterations : Int) :
    (e.afterSuccess s step o target iterations).failed = s.failed ∧
      (e.afterSuccess s step o target iterations).lastError = s.lastError := by
  rw [afterSuccess_eq]
  split_ifs
  · exact ⟨rfl, rfl⟩
  · cases target <;> exact ⟨rfl, rfl⟩

theorem settle_apply (e : Engine σ) (t : Session × Except Fault Session) (x : σ) :
    e.settle t x =
      match (e.save t.1 x).1 with
      | .ok () => (t.2, (e.save t.1 x).2)
      | .error f => (.error f, (e.save t.1 x).2) := by
  unfold settle
  rw [Act.bind_apply]
  cases (e.save t.1 x).1 with
  | ok u => exact Act.ofExcept_apply _ _
  | error f => rfl

theorem stop_eq_settle (e : Engine σ) (s : Session) :
    (do e.save (e.stopped s); return e.stopped s : Act σ Session) = e.settle (e.stopping s) := rfl

theorem fail_eq_settle (e : Engine σ) (s : Session) (f : Failure) :
    (do let f ← e.fail s f; throw (.failure f) : Act σ Session) = e.settle (e.failing s f) := by
  funext x
  unfold fail
  rw [settle_apply, Act.bind_apply, Act.bind_apply, failing]
  cases (e.save (e.failed s (named s f)) x).1 <;> rfl

theorem failStep_apply (e : Engine σ) (w : Workflow) (s : Session) (step : Step) (o : Option Outcome)
    (f : Fault) (x : σ) :
    e.failStep w s step o f x = e.settle (e.settledFailure w s step o f (e.cancelled x)) x := by
  unfold failStep settledFailure
  rw [Act.bind_ok (Act.view_apply e.cancelled x)]
  split_ifs
  · rw [← stop_eq_settle]
  · rw [← fail_eq_settle]

/-- A step that does not end the run at once comes to a session that is saved. -/
theorem runStep_apply (e : Engine σ) (w : Workflow) (s : Session) (step : Step) (x : σ) :
    e.runStep w s step x =
      let r := (e.performed s step x).1
      let y := (e.performed s step x).2
      match r with
      | .error f =>
        if isAbrupt f then (.error f, y) else e.settle (e.settled w s step (e.cancelled y) r) y
      | .ok _ => e.settle (e.settled w s step (e.cancelled y) r) y := by
  unfold runStep
  rw [Act.bind_ok (Act.observe_apply _ x)]
  unfold performed
  dsimp only
  cases (Execution.perform e.services s (step.fill s.variables) x).1 with
  | error f =>
    dsimp only
    split_ifs
    · rfl
    · exact failStep_apply e w s step none f _
  | ok o =>
    simp only [settled]
    cases e.judge w s step o with
    | error f => exact failStep_apply e w s step (some o) f _
    | ok p => rfl

/-- The fault with which what a step came to ends the run at once. -/
def abort? : Except Fault Outcome → Option Fault
  | .error f => if isAbrupt f then some f else none
  | .ok _ => none

theorem abort?_eq_some {r : Except Fault Outcome} {f : Fault} (h : abort? r = some f) : r = .error f := by
  cases r with
  | error g =>
    unfold abort? at h
    dsimp only at h
    split_ifs at h
    rw [Option.some.inj h]
  | ok o => cases h

/-- A step either ends the run at once or is settled, whatever it came to. -/
theorem runStep_eq (e : Engine σ) (w : Workflow) (s : Session) (step : Step) (x : σ) :
    e.runStep w s step x =
      let r := (e.performed s step x).1
      let y := (e.performed s step x).2
      match abort? r with
      | some f => (.error f, y)
      | none => e.settle (e.settled w s step (e.cancelled y) r) y := by
  rw [runStep_apply]
  dsimp only
  cases (e.performed s step x).1 with
  | error f =>
    unfold abort?
    dsimp only
    split_ifs <;> rfl
  | ok o => rfl

theorem runFrom_succ (e : Engine σ) (w : Workflow) (fuel : ℕ) (s : Session) (x : σ) :
    e.runFrom w (fuel + 1) s x =
      if s.completed then (.ok s, x)
      else if e.cancelled x then e.settle (e.stopping s) x
      else
        match stepOf? w s with
        | none => e.settle (e.failing s (unknownStep w s)) x
        | some step =>
          let y := (e.runStep w s step x).2
          match (e.runStep w s step x).1 with
          | .error f => (.error f, y)
          | .ok t => if t.paused then (.ok t, y) else e.runFrom w fuel t y := by
  rw [runFrom]
  split_ifs with hdone hstop
  · rfl
  · rw [Act.bind_ok (Act.view_apply e.cancelled x), if_pos hstop]
    rfl
  · rw [Act.bind_ok (Act.view_apply e.cancelled x), if_neg hstop]
    cases hstep : stepOf? w s with
    | none => exact congrFun (fail_eq_settle e s (unknownStep w s)) x
    | some step =>
      change (e.runStep w s step >>= _) x = _
      rw [Act.bind_apply]
      dsimp only
      cases (e.runStep w s step x).1 with
      | error f => rfl
      | ok t =>
        dsimp only
        split_ifs <;> rfl

/-- The session that goes on, past its question if there is an answer. -/
def reopened (e : Engine σ) (w : Workflow) (s : Session) (answer : Option Value) : Except Fault Session :=
  match answer with
  | some a => e.answered w s a
  | none => .ok s

theorem resume_apply (e : Engine σ) (w : Workflow) (s : Session) (answer : Option Value) (x : σ) :
    e.resume w s answer x =
      if s.completed then (.ok s, x)
      else
        match e.reopened w s answer with
        | .error f => (.error f, x)
        | .ok t =>
          let y := (e.save (e.resumed t) x).2
          match (e.save (e.resumed t) x).1 with
          | .error f => (.error f, y)
          | .ok () => e.run w (e.resumed t) y := by
  unfold resume
  split_ifs
  · rfl
  · change (Act.ofExcept (e.reopened w s answer) >>= _) x = _
    rw [Act.bind_apply, Act.ofExcept_apply]
    cases e.reopened w s answer with
    | error f => rfl
    | ok t =>
      dsimp only
      rw [Act.bind_apply]
      cases (e.save (e.resumed t) x).1 <;> rfl

/-! ## Turns -/

theorem stepOf?_of_current {id : String} (hcurrent : s.currentStep = some id) (hid : id ≠ "")
    (hget : w.getStep? id = some step) : stepOf? w s = some step := by
  unfold stepOf?
  rw [hcurrent]
  exact (if_neg (by simpa using hid)).trans hget

/-- A session is at the step of the workflow that its current id names. -/
theorem stepOf?_eq_some_iff : stepOf? w s = some step ↔
    s.currentStep = some step.id ∧ step.id ≠ "" ∧ w.getStep? step.id = some step := by
  constructor
  · intro h
    unfold stepOf? at h
    split at h
    · rename_i id hid
      split_ifs at h with hempty
      obtain rfl : step.id = id := by simpa using List.find?_some h
      exact ⟨hid, by simpa using hempty, h⟩
    · cases h
  · exact fun ⟨hcurrent, hid, hget⟩ => stepOf?_of_current hcurrent hid hget

theorem stepOf?_eq_some (h : stepOf? w s = some step) :
    s.currentStep = some step.id ∧ w.getStep? step.id = some step := by
  obtain ⟨hcurrent, -, hget⟩ := stepOf?_eq_some_iff.mp h
  exact ⟨hcurrent, hget⟩

theorem limitAt_le (e : Engine σ) (step : Step) : e.limitAt step ≤ e.maxIterations := by
  unfold limitAt
  split
  · split_ifs
    · exact le_rfl
    · exact min_le_left _ _
  · exact le_rfl

/-- The outcome of a step, if there is one, is none with which the session goes on. -/
def Unsuccessful (e : Engine σ) (w : Workflow) (s : Session) (step : Step) (o : Option Outcome) : Prop :=
  ∀ out, o = some out → (∃ x, (e.performed s step x).1 = .ok out) ∧ ∃ f, e.judge w s step out = .error f

/-- The sessions that a turn saves: one that stopped or is at no step, one whose step succeeded, and one
whose step did not. -/
inductive Turn (e : Engine σ) (w : Workflow) (s : Session) : Session → Prop where
  | stopped : Turn e w s (e.stopped s)
  | lost (h : stepOf? w s = none) : Turn e w s (e.failed s (named s (unknownStep w s)))
  | finished {step : Step} {o : Outcome} {target : Option String} {iterations : ℤ} {x : σ}
      (hstep : stepOf? w s = some step) (hdone : (e.performed s step x).1 = .ok o)
      (hsuccess : o.success = true) (htarget : e.target w s step o = .ok (target, iterations)) :
      Turn e w s (e.afterSuccess s step o target iterations)
  | interrupted {step : Step} {o : Option Outcome} {message : String} (hstep : stepOf? w s = some step)
      (ho : e.Unsuccessful w s step o) : Turn e w s (e.stopped (e.afterFailure s step o message))
  | broken {step : Step} {o : Option Outcome} {message : String} {f : Failure} (hstep : stepOf? w s = some step)
      (ho : e.Unsuccessful w s step o) : Turn e w s (e.failed (e.afterFailure s step o message) f)

theorem turn_settledFailure (hstep : stepOf? w s = some step) {o : Option Outcome} (ho : e.Unsuccessful w s step o)
    (f : Fault) (stop : Bool) : Turn e w s (e.settledFailure w s step o f stop).1 := by
  cases stop with
  | true => exact .interrupted hstep ho
  | false => exact .broken hstep ho

theorem judge_eq_ok {o : Outcome} {p : Option String × ℤ} (h : e.judge w s step o = .ok p) :
    o.success = true ∧ e.target w s step o = .ok p := by
  unfold judge at h
  split_ifs at h with hsuccess
  · exact ⟨hsuccess, h⟩

theorem turn_settled (hstep : stepOf? w s = some step) (stop : Bool) (x : σ) :
    Turn e w s (e.settled w s step stop (e.performed s step x).1).1 := by
  obtain ⟨f, -, h⟩ | ⟨o, f, hdone, hjudge, h⟩ | ⟨o, target, iterations, hdone, hjudge, h⟩ :=
    settled_cases e w s step stop (e.performed s step x).1
  · rw [h]
    refine turn_settledFailure hstep ?_ f stop
    intro out hout
    cases hout
  · rw [h]
    refine turn_settledFailure hstep ?_ f stop
    rintro _ ⟨⟩
    exact ⟨⟨x, hdone⟩, f, hjudge⟩
  · rw [h]
    obtain ⟨hsuccess, htarget⟩ := judge_eq_ok hjudge
    exact .finished hstep hdone hsuccess htarget

theorem settledFailure_eq_ok {o : Option Outcome} {f : Fault} {stop : Bool}
    (h : (e.settledFailure w s step o f stop).2 = .ok t) :
    t = (e.settledFailure w s step o f stop).1 ∧ t.paused = true := by
  cases stop with
  | true =>
    obtain rfl := Except.ok.inj h
    exact ⟨rfl, rfl⟩
  | false => cases h

/-- The session with which a turn ends well is the one that it saves. -/
theorem settled_eq_ok {r : Except Fault Outcome} {stop : Bool} (h : (e.settled w s step stop r).2 = .ok t) :
    t = (e.settled w s step stop r).1 ∧ (t.paused = true ∨ t.failed = s.failed) := by
  obtain ⟨f, -, hsettled⟩ | ⟨o, f, -, -, hsettled⟩ | ⟨o, target, iterations, -, -, hsettled⟩ :=
    settled_cases e w s step stop r
  · rw [hsettled] at h ⊢
    obtain ⟨ht, hpaused⟩ := settledFailure_eq_ok h
    exact ⟨ht, .inl hpaused⟩
  · rw [hsettled] at h ⊢
    obtain ⟨ht, hpaused⟩ := settledFailure_eq_ok h
    exact ⟨ht, .inl hpaused⟩
  · rw [hsettled] at h ⊢
    obtain rfl := Except.ok.inj h
    exact ⟨rfl, .inr (kept_afterSuccess e s step o target iterations).1⟩

/-! ## What every turn preserves -/

/-- What the turns, answers and resumptions of an engine preserve of sessions. -/
structure Preserves (e : Engine σ) (w : Workflow) (P : Session → Prop) : Prop where
  turn : ∀ s t, P s → s.completed = false → s.paused = false → s.failed = false → Turn e w s t → P t
  answered : ∀ s a t, P s → s.completed = false → e.answered w s a = .ok t → P (e.resumed t)
  resumed : ∀ s, P s → s.completed = false → P (e.resumed s)

/-- What is preserved of sessions, and what the collaborators and the saves of such sessions preserve of the
world. -/
structure Keeps (e : Engine σ) (w : Workflow) (P : Session → Prop) (I : σ → Prop) : Prop extends
    Preserves e w P where
  perform : ∀ s step x, I x → I (e.performed s step x).2
  save : ∀ s x, P s → I x → I (e.save s x).2

theorem Preserves.and {P Q : Session → Prop} (hP : e.Preserves w P) (hQ : e.Preserves w Q) :
    e.Preserves w fun s => P s ∧ Q s where
  turn s t h hdone hpaused hfailed hturn :=
    ⟨hP.turn s t h.1 hdone hpaused hfailed hturn, hQ.turn s t h.2 hdone hpaused hfailed hturn⟩
  answered s a t h hdone ha := ⟨hP.answered s a t h.1 hdone ha, hQ.answered s a t h.2 hdone ha⟩
  resumed s h hdone := ⟨hP.resumed s h.1 hdone, hQ.resumed s h.2 hdone⟩

theorem key_of_turn (h : Turn e w s t) : t.key = s.key := by
  cases h with
  | finished hstep hdone hsuccess htarget => exact key_afterSuccess e s _ _ _ _
  | _ => rfl

theorem answered_eq_ok {a : Value} (h : e.answered w s a = .ok t) :
    ∃ step q value shown, stepOf? w s = some step ∧ step.task = .interactive q ∧ s.paused = true ∧
      t = e.afterAnswer w s step (Step.answerVariable step.id q) value shown := by
  unfold answered at h
  split at h
  · rename_i step hstep
    split at h
    · rename_i q htask hpaused
      cases hvalue : q.accept step.id a with
      | error f =>
        rw [hvalue] at h
        cases h
      | ok value =>
        rw [hvalue] at h
        exact ⟨step, q, value, _, hstep, htask, hpaused, (Except.ok.inj h).symm⟩
    · cases h
  · cases h

/-- A session keeps its name and its id. -/
theorem preserves_key (e : Engine σ) (w : Workflow) (key : SessionKey) : e.Preserves w (·.key = key) where
  turn s t h _ _ _ hturn := (key_of_turn hturn).trans h
  answered s a t h _ ha := by
    obtain ⟨step, q, value, shown, -, -, -, rfl⟩ := answered_eq_ok ha
    exact (key_moveTo _ _ _).trans h
  resumed s h _ := h

theorem Preserves.reopened {P : Session → Prop} (h : e.Preserves w P) (hP : P s) (hdone : s.completed = false)
    {answer : Option Value} (hopen : e.reopened w s answer = .ok t) : P (e.resumed t) := by
  cases answer with
  | none =>
    obtain rfl := Except.ok.inj hopen
    exact h.resumed s hP hdone
  | some a => exact h.answered s a t hP hdone hopen

/-- The operation leaves the world as it should be and ends, if it ends well, with such a session. -/
def EndsIn (P : Session → Prop) (I : σ → Prop) (r : Except Fault Session × σ) : Prop :=
  I r.2 ∧ ∀ t, r.1 = .ok t → P t

/-- A turn that ends well ends with the session that it saves. -/
theorem settle_eq_ok {t : Session × Except Fault Session} {u : Session} (h : (e.settle t x).1 = .ok u) :
    t.2 = .ok u := by
  rw [settle_apply] at h
  cases hr : (e.save t.1 x).1 with
  | ok v =>
    rw [hr] at h
    exact h
  | error f =>
    rw [hr] at h
    cases h

theorem runStep_eq_ok (h : (e.runStep w s step x).1 = .ok t) :
    ∃ stop, (e.settled w s step stop (e.performed s step x).1).2 = .ok t := by
  rw [runStep_eq] at h
  dsimp only at h
  split at h
  · cases h
  · exact ⟨_, settle_eq_ok h⟩

namespace Keeps

variable {P : Session → Prop} {I : σ → Prop}

theorem settle (h : e.Keeps w P I) {t : Session × Except Fault Session} (hP : P t.1)
    (hok : ∀ u, t.2 = .ok u → u = t.1) (hI : I x) : EndsIn P I (e.settle t x) := by
  have hsave := h.save t.1 x hP hI
  refine ⟨?_, fun u hu => ?_⟩
  · rw [settle_apply]
    cases (e.save t.1 x).1 <;> exact hsave
  · rw [hok u (settle_eq_ok hu)]
    exact hP

theorem runStep (h : e.Keeps w P I) (hP : P s) (hdone : s.completed = false) (hpaused : s.paused = false)
    (hfailed : s.failed = false) (hstep : stepOf? w s = some step) (hI : I x) :
    EndsIn P I (e.runStep w s step x) := by
  have hworld := h.perform s step x hI
  have hturn (stop : Bool) := h.turn s _ hP hdone hpaused hfailed (turn_settled hstep stop x)
  have hsettle (stop : Bool) := h.settle (hturn stop) (fun u hu => (settled_eq_ok hu).1) hworld
  rw [runStep_eq]
  dsimp only
  split
  · exact ⟨hworld, fun u hu => nomatch hu⟩
  · exact hsettle _

/-- A run saves no session but such as the turns lead to. -/
theorem runFrom (h : e.Keeps w P I) (fuel : ℕ) (hP : P s) (hpaused : s.paused = false)
    (hfailed : s.failed = false) (hI : I x) : EndsIn P I (e.runFrom w fuel s x) := by
  induction fuel generalizing s x with
  | zero =>
    refine ⟨hI, fun u hu => ?_⟩
    obtain rfl := Except.ok.inj hu
    exact hP
  | succ fuel ih =>
    rw [runFrom_succ]
    split_ifs with hdone hstop
    · refine ⟨hI, fun u hu => ?_⟩
      obtain rfl := Except.ok.inj hu
      exact hP
    · rw [Bool.not_eq_true] at hdone
      exact h.settle (h.turn s _ hP hdone hpaused hfailed .stopped) (fun u hu => (Except.ok.inj hu).symm) hI
    · rw [Bool.not_eq_true] at hdone
      cases hstep : stepOf? w s with
      | none =>
        exact h.settle (h.turn s _ hP hdone hpaused hfailed (.lost hstep)) (fun u hu => nomatch hu) hI
      | some step =>
        obtain ⟨hworld, hend⟩ := h.runStep hP hdone hpaused hfailed hstep hI
        dsimp only
        cases hr : (e.runStep w s step x).1 with
        | error f => exact ⟨hworld, fun u hu => nomatch hu⟩
        | ok t =>
          dsimp only
          obtain ⟨stop, hsettled⟩ := runStep_eq_ok hr
          split_ifs with hwaits
          · refine ⟨hworld, fun u hu => ?_⟩
            obtain rfl := Except.ok.inj hu
            exact hend _ hr
          · rw [Bool.not_eq_true] at hwaits
            refine ih (hend t hr) hwaits ?_ hworld
            rcases (settled_eq_ok hsettled).2 with hp | hf
            · rw [hwaits] at hp
              cases hp
            · rw [hf, hfailed]

theorem run (h : e.Keeps w P I) (hP : P s) (hpaused : s.paused = false) (hfailed : s.failed = false)
    (hI : I x) : EndsIn P I (e.run w s x) := by
  have hself : { s with paused := false } = s := by
    rw [← hpaused]
  unfold Engine.run
  split_ifs
  · refine ⟨hI, fun u hu => ?_⟩
    obtain rfl := Except.ok.inj hu
    exact hP
  · rw [hself]
    exact h.runFrom _ hP hpaused hfailed hI

/-- So does an operation that goes on with a session, with an answer or without one. -/
theorem resume (h : e.Keeps w P I) (hP : P s) (answer : Option Value) (hI : I x) :
    EndsIn P I (e.resume w s answer x) := by
  rw [resume_apply]
  split_ifs with hdone
  · refine ⟨hI, fun u hu => ?_⟩
    obtain rfl := Except.ok.inj hu
    exact hP
  · rw [Bool.not_eq_true] at hdone
    cases hopen : e.reopened w s answer with
    | error f => exact ⟨hI, fun u hu => nomatch hu⟩
    | ok t =>
      dsimp only
      have ht := h.toPreserves.reopened hP hdone hopen
      have hsave := h.save _ x ht hI
      cases (e.save (e.resumed t) x).1 with
      | error f => exact ⟨hsave, fun u hu => nomatch hu⟩
      | ok u => exact h.run ht rfl rfl hsave

end Keeps

end Runbook.Engine
