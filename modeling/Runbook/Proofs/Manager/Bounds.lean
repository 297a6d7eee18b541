import Runbook.Proofs.Execution.Failing
import Runbook.Proofs.Execution.Passes
import Runbook.Proofs.Execution.Timeline
import Runbook.Proofs.Manager.Containment
import Runbook.Proofs.Manager.Interruption
import Runbook.Proofs.Manager.Soundness
import Runbook.Proofs.Manager.Walk

/-! The bounds of loops. There is one count of jumps backward in a session, and each loop compares it with its own
bound: so no loop goes backward more often than its bound, and every jump of the session counts for it. -/

namespace Runbook

/-! ## Jumps in a history -/

namespace Workflow

/-- How often a history goes backward. -/
def jumps (w : Workflow) (history : List StepRecord) : ℕ := history.countP w.isBackward

/-- How often a history goes backward at the step with the id. -/
def jumpsOf (w : Workflow) (id : String) (history : List StepRecord) : ℕ :=
  history.countP fun r => r.stepId = id && w.isBackward r

variable {w : Workflow} {id : String} {history : List StepRecord} {r : StepRecord}

theorem jumpsOf_le_jumps (w : Workflow) (id : String) (history : List StepRecord) :
    w.jumpsOf id history ≤ w.jumps history :=
  List.countP_mono_left fun _ _ h => (Bool.and_eq_true_iff.mp h).2

theorem jumpsOf_concat_of_ne (h : r.stepId ≠ id) : w.jumpsOf id (history ++ [r]) = w.jumpsOf id history := by
  simp [jumpsOf, List.countP_append, h]

theorem jumpsOf_concat_of_forward (h : w.isBackward r = false) :
    w.jumpsOf id (history ++ [r]) = w.jumpsOf id history := by
  simp [jumpsOf, List.countP_append, h]

theorem jumpsOf_stored (hlegible : ∀ r ∈ history, w.Legible r) :
    w.jumpsOf id (history.map StepRecord.stored) = w.jumpsOf id history := by
  unfold jumpsOf
  rw [List.countP_map]
  refine List.countP_congr fun r hr => ?_
  have hid : r.stored.stepId = r.stepId := rfl
  rw [Function.comp, hid, isBackward_stored (hlegible r hr)]

end Workflow

/-! ## What is preserved -/

namespace Session

variable {w : Workflow} {s t : Session} {r : StepRecord}

/-- The history is a walk in which no loop with a bound has gone backward more often than that. -/
structure WithinBounds (w : Workflow) (s : Session) : Prop extends s.IsLegibleWalk w where
  within : ∀ step target condition bound, w.getStep? step.id = some step →
    step.task = .loop target condition (some bound) → bound ≠ 0 → w.jumpsOf step.id s.history ≤ bound.toNat

theorem IsWalk.iterations_eq_jumps (h : s.IsWalk w) : s.iterations = w.jumps s.history := h.iterations

theorem WithinBounds.congr (h : s.WithinBounds w) (hhistory : t.history = s.history)
    (hcurrent : t.currentStep = s.currentStep) (hiterations : t.iterations = s.iterations) : t.WithinBounds w where
  toIsLegibleWalk := h.toIsLegibleWalk.congr hhistory hcurrent hiterations
  within := hhistory ▸ h.within

/-- A walk that goes on keeps within the bounds if it does not go backward, or the count of all jumps is within the
bound of the loop at which it does. -/
theorem WithinBounds.concat (h : s.WithinBounds w) (ht : t.IsLegibleWalk w) (hhistory : t.history = s.history ++ [r])
    (hcount : t.iterations = s.iterations ∨ ∀ step target condition bound, w.getStep? r.stepId = some step →
      step.task = .loop target condition (some bound) → bound ≠ 0 → t.iterations ≤ bound) : t.WithinBounds w where
  toIsLegibleWalk := ht
  within step target condition bound hget htask hbound := by
    have hbefore := h.within step target condition bound hget htask hbound
    have hsame : t.iterations = s.iterations → w.isBackward r = false := by
      intro heq
      have hjumps : w.jumps (s.history ++ [r]) = w.jumps s.history := by
        have hcounted := ht.toIsWalk.iterations_eq_jumps.symm.trans (heq.trans h.toIsWalk.iterations_eq_jumps)
        rw [hhistory] at hcounted
        exact Int.ofNat_inj.mp hcounted
      by_contra hback
      rw [Bool.not_eq_false] at hback
      simp [Workflow.jumps, List.countP_append, hback] at hjumps
    rw [hhistory]
    rcases hcount with heq | hlimit
    · rw [Workflow.jumpsOf_concat_of_forward (hsame heq)]
      exact hbefore
    · by_cases hid : r.stepId = step.id
      · have hall := Workflow.jumpsOf_le_jumps w step.id t.history
        have hiterations := ht.toIsWalk.iterations_eq_jumps
        have hle := hlimit step target condition bound (hid ▸ hget) htask hbound
        rw [hhistory] at hall hiterations
        omega
      · rw [Workflow.jumpsOf_concat_of_ne hid]
        exact hbefore

theorem WithinBounds.stored (h : s.WithinBounds w) : s.stored.WithinBounds w where
  toIsLegibleWalk := h.toIsLegibleWalk.stored
  within step target condition bound hget htask hbound := by
    have hsame : s.stored.history = s.history.map StepRecord.stored := rfl
    rw [hsame, Workflow.jumpsOf_stored h.legible]
    exact h.within step target condition bound hget htask hbound

end Session

namespace Engine

open Execution

variable {σ : Type} {e : Engine σ} {w : Workflow} {s t : Session} {step : Step}

theorem iterations_moveTo (s : Session) (target : Option String) (now : String) :
    (s.moveTo target now).iterations = s.iterations := by
  cases target <;> rfl

theorem iterations_afterSuccess (e : Engine σ) (s : Session) (step : Step) (o : Outcome) (target : Option String)
    (iterations : ℤ) : (e.afterSuccess s step o target iterations).iterations = iterations := by
  rw [afterSuccess_eq]
  split_ifs
  · rfl
  · exact iterations_moveTo _ _ _

theorem limitAt_loop (e : Engine σ) {target condition : String} {bound : ℤ}
    (htask : step.task = .loop target condition (some bound)) (hbound : bound ≠ 0) :
    e.limitAt step = min e.maxIterations bound := by
  unfold limitAt
  rw [htask]
  exact if_neg hbound

theorem withinBounds_afterFailure (h : s.WithinBounds w) (hstep : stepOf? w s = some step) (o : Option Outcome)
    (message : String) : (e.afterFailure s step o message).WithinBounds w :=
  h.concat (walk_afterFailure h.toIsLegibleWalk hstep o message) rfl (.inl rfl)

theorem withinBounds_turn (h : s.WithinBounds w) (hturn : Turn e w s t) : t.WithinBounds w := by
  have hwalk := walk_turn h.toIsLegibleWalk hturn
  cases hturn with
  | stopped => exact h.congr rfl rfl rfl
  | lost hlost => exact h.congr rfl rfl rfl
  | interrupted hstep => exact (withinBounds_afterFailure h hstep _ _).congr rfl rfl rfl
  | broken hstep => exact (withinBounds_afterFailure h hstep _ _).congr rfl rfl rfl
  | @finished step o next iterations x hstep hdone hsuccess htarget =>
    obtain ⟨r, hid, hhistory⟩ := history_afterSuccess e s step o next iterations
    have hcount := iterations_afterSuccess e s step o next iterations
    refine h.concat hwalk hhistory ?_
    rw [hcount]
    -- A jump backward is counted only within the bound at its step.
    rcases (target_eq_ok htarget).2 with heq | ⟨-, hlimit⟩
    · exact .inl heq
    · refine .inr fun loop target condition bound hget htask hbound => ?_
      obtain rfl := Option.some.inj ((stepOf?_eq_some hstep).2.symm.trans (hid ▸ hget))
      rw [limitAt_loop e htask hbound] at hlimit
      exact hlimit.trans (min_le_right _ _)

theorem withinBounds_afterAnswer (h : s.WithinBounds w) (hstep : stepOf? w s = some step) {q : Question}
    (htask : step.task = .interactive q) (name : String) (value shown : Value) :
    (e.afterAnswer w s step name value shown).WithinBounds w := by
  refine h.concat (walk_afterAnswer h.toIsLegibleWalk hstep htask name value shown) (history_moveTo _ _ _) (.inl ?_)
  exact iterations_moveTo _ _ _

/-- The turns, answers and resumptions of an engine keep within the bounds. -/
theorem preserves_withinBounds (e : Engine σ) (w : Workflow) : e.Preserves w (·.WithinBounds w) where
  turn _ _ h _ _ _ hturn := withinBounds_turn h hturn
  answered s a t h _ ha := by
    obtain ⟨step, q, value, shown, hstep, htask, -, rfl⟩ := answered_eq_ok ha
    exact (withinBounds_afterAnswer h hstep htask _ _ _).congr rfl rfl rfl
  resumed _ h _ := h.congr rfl rfl rfl

/-! ## The step of a loop -/

/-- What a loop comes to that asks to go back to its target, or not. -/
def loopOutcome (s : Session) (target condition : String) (again : Bool) : Outcome where
  output := [
    ("condition", .text condition), ("shouldLoop", .bool again), ("targetStep", .text target),
    ("iteration", .int s.iterations)]
  nextStep := if again then some target else none

variable {target condition : String} {bound : ℤ}

theorem performed_loop (e : Engine σ) {limit : Option ℤ} (htask : step.task = .loop target condition limit)
    (s : Session) (x : σ) :
    (e.performed s step x).1 =
      (Condition.evaluate condition (loopBindings s)).map (loopOutcome s target condition) := by
  have hfill : (step.fill s.variables).task = .loop target condition limit := by
    rw [Step.fill, htask, Task.fill]
  unfold performed perform
  rw [hfill]
  dsimp only
  rw [Act.ofExcept_apply]
  unfold loop
  cases Condition.evaluate condition (loopBindings s) <;> rfl

/-- A redirection is refused for the bound exactly if it goes backward and the bound is reached. -/
theorem target_eq_loopBound_iff {o : Outcome} {id : String} (hnext : o.nextStep = some id) :
    (∃ f, e.target w s step o = .error (.failure f) ∧ f.kind = .loopBound) ↔
      w.goesBack step.id (some id) = true ∧ e.limitAt step ≤ s.iterations := by
  unfold target Workflow.goesBack
  rw [hnext]
  dsimp only [Option.bind_some]
  cases w.indexOf? id with
  | none => simp
  | some i =>
    dsimp only
    split_ifs with hback hlimit
    · refine iff_of_true ⟨_, rfl, rfl⟩ ⟨hback, Int.lt_add_one_iff.mp hlimit⟩
    · refine iff_of_false (by simp) fun h => hlimit (Int.lt_add_one_iff.mpr h.2)
    · exact iff_of_false (by simp) fun h => hback h.1

/-- A loop fails for its bound exactly if its condition asks it to go backward when the session has gone backward as
often as its bound or the bound of all jumps allows. -/
theorem fails_for_bound_iff (h : s.IsWalk w) (htask : step.task = .loop target condition (some bound))
    (hbound : bound ≠ 0) (x : σ) :
    (∃ o f, e.Fails w s step (e.performed s step x).1 o (.failure f) ∧ f.kind = .loopBound) ↔
      w.goesBack step.id (some target) = true ∧ Condition.evaluate condition (loopBindings s) = .ok true ∧
        (bound ≤ w.jumps s.history ∨ e.maxIterations ≤ w.jumps s.history) := by
  have hlimit : e.limitAt step ≤ s.iterations ↔ bound ≤ w.jumps s.history ∨ e.maxIterations ≤ w.jumps s.history := by
    rw [limitAt_loop e htask hbound, h.iterations_eq_jumps, min_le_iff, or_comm]
  have hrefused : (∃ f, e.target w s step (loopOutcome s target condition true) = .error (.failure f) ∧
      f.kind = .loopBound) ↔ w.goesBack step.id (some target) = true ∧ e.limitAt step ≤ s.iterations :=
    target_eq_loopBound_iff rfl
  rw [performed_loop e htask, ← hlimit]
  constructor
  · rintro ⟨o, f, hfails, hkind⟩
    cases hanswer : Condition.evaluate condition (loopBindings s) with
    | error g =>
      rw [hanswer] at hfails
      cases hfails with
      | raised _ =>
        -- A condition without an answer is another fault.
        rcases Condition.only_evaluate _ _ _ hanswer with hother | hother <;> cases hkind.symm.trans hother
    | ok again =>
      rw [hanswer] at hfails
      cases hfails with
      | judged hjudge =>
        cases again with
        | false => cases hjudge
        | true =>
          obtain ⟨hback, hreached⟩ := hrefused.mp ⟨f, hjudge, hkind⟩
          exact ⟨hback, rfl, hreached⟩
  · rintro ⟨hback, hanswer, hreached⟩
    obtain ⟨f, htarget, hkind⟩ := hrefused.mpr ⟨hback, hreached⟩
    rw [hanswer]
    exact ⟨_, f, .judged htarget, hkind⟩

end Engine

namespace Manager

open Repository

variable {γ : Type} {m : Manager γ} {w : Workflow} {id : String} {x : World γ}

theorem withinBounds_initial (w : Workflow) (given : Bindings) (id now : String) :
    (initial w given id now).WithinBounds w where
  toIsLegibleWalk := walk_initial w given id now
  within _ _ _ _ _ _ _ := Nat.zero_le _

theorem invariant_withinBounds (m : Manager γ) (w : Workflow) (id : String) : m.Invariant w id (·.WithinBounds w) where
  initial given now := withinBounds_initial w given id now
  preserves now cancelled := Engine.preserves_withinBounds ({ m with cancelled }.engine now) w
  stored _ _ h _ := h.stored

/-- In every session that is saved, whatever operations are performed on it, a loop with a bound has gone backward no
more often than that. When the session comes to the loop, the loop fails for its bound exactly if its condition asks it
to go backward and the session has gone backward, there or anywhere else, as often as the bound allows, or as often as
a session may at all. -/
theorem loops_stop_at_bound (halone : m.LeavesAlone ⟨w.name, id⟩) (hreached : m.Reached w id x) {step : Step}
    {target condition : String} {bound : ℤ} (hget : w.getStep? step.id = some step)
    (htask : step.task = .loop target condition (some bound)) (hbound : bound ≠ 0) :
    ∀ s ∈ x.saves, s.key = ⟨w.name, id⟩ →
      w.jumpsOf step.id s.history ≤ bound.toNat ∧
      ∀ now cancelled (y : World γ),
        let e := { m with cancelled }.engine now
        (∃ o f, e.Fails w s step (e.performed s step y).1 o (.failure f) ∧ f.kind = .loopBound) ↔
          w.goesBack step.id (some target) = true ∧
            Condition.evaluate condition (Execution.loopBindings s) = .ok true ∧
            (bound ≤ w.jumps s.history ∨ m.maxIterations ≤ w.jumps s.history) := by
  intro s hs hkey
  have hwithin := (hreached.holds (invariant_withinBounds m w id) halone).1 s hs hkey
  refine ⟨hwithin.within step target condition bound hget htask hbound, fun now cancelled y => ?_⟩
  exact Engine.fails_for_bound_iff hwithin.toIsWalk htask hbound y

/-! ## A jump of another step -/

/-- A loop that may go back once. -/
def goAgain : Step where
  id := "again"
  task := .loop "ready" "iteration < 2" (some 1)

/-- A workflow whose first step goes back to itself once, with a loop behind it. -/
def goingAgain : Workflow where
  name := "demo"
  steps := [⟨"ready", none, .conditional "iterationCount" "again" (some "ready")⟩, goAgain]

/-- A session of the workflow is saved and is within the bound. -/
theorem goingAgain_stops_at_bound :
    ∃ s ∈ ((bare.askedAfter none).start "t" goingAgain [] none {} .empty).2.saves, s.key = ⟨"demo", "s"⟩ ∧
      goingAgain.jumpsOf "again" s.history ≤ 1 ∧
      ∀ now cancelled (y : World Unit),
        let e := { bare with cancelled }.engine now
        (∃ o f, e.Fails goingAgain s goAgain (e.performed s goAgain y).1 o (.failure f) ∧ f.kind = .loopBound) ↔
          goingAgain.goesBack "again" (some "ready") = true ∧
            Condition.evaluate "iteration < 2" (Execution.loopBindings s) = .ok true ∧
            (1 ≤ (goingAgain.jumps s.history : ℤ) ∨ 2 ≤ (goingAgain.jumps s.history : ℤ)) := by
  have hwrite (data : List UInt8) : (bare.store.write "demo/s.json" data {}).1 = .ok () := rfl
  obtain ⟨z, hsave⟩ := exists_save_of_write (m := bare.askedAfter none) (s := initial goingAgain [] "s" "t")
    (x := .empty) rfl (exists_fileText_of_pending rfl rfl rfl rfl) hwrite
  have hid : (bare.askedAfter none).idOr none .empty = (.ok "s", .empty) := rfl
  have hfree (i : String) (hi : none = some i) :
      ((bare.askedAfter none).checkFree "t" goingAgain ⟨"demo", i⟩ .empty).1 = .ok () := nomatch hi
  have hmem : initial goingAgain [] "s" "t" ∈
      ((bare.askedAfter none).start "t" goingAgain [] none {} .empty).2.saves := by
    have hkeeps := keeps_saves (engines_askedAfter bare none "t" "t") rfl goingAgain [initial goingAgain [] "s" "t"]
    have hbefore : [initial goingAgain [] "s" "t"] <:+ ({ z with token := {} } : World Unit).saves := by
      rw [(save_eq_ok hsave).2.1]
      rfl
    have hafter : [initial goingAgain [] "s" "t"] <:+ (((bare.askedAfter none).engine "t").run goingAgain
        (initial goingAgain [] "s" "t") { z with token := {} }).2.saves :=
      (hkeeps.run trivial rfl rfl hbefore).1
    rw [start_of_free hfree (congrArg Prod.fst hid), hid, launch_of_saved hsave]
    exact hafter.subset List.mem_cons_self
  have hfresh : bare.Reached goingAgain "s" .empty := .fresh nofun rfl
  have hstarted := hfresh.started "t" [] none {} (bare.askedAfter none).cancelled rfl
  have hget : goingAgain.getStep? goAgain.id = some goAgain := rfl
  exact ⟨_, hmem, rfl, loops_stop_at_bound (leavesAlone_bare _) hstarted hget rfl one_ne_zero _ hmem rfl⟩

/-- A jump of the first step uses up the bound of the loop, which has not gone backward at all. -/
theorem other_jump_uses_up_bound :
    ∃ s, Engine.forgetful.Passes goingAgain (initial goingAgain [] "s" "t") () s () ∧
      Engine.stepOf? goingAgain s = some goAgain ∧
      (∃ o f, Engine.forgetful.Fails goingAgain s goAgain (Engine.forgetful.performed s goAgain ()).1 o (.failure f) ∧
        f.kind = .loopBound) ∧
      goingAgain.jumpsOf "again" s.history = 0 ∧ goingAgain.jumps s.history = 1 ∧
      Engine.forgetful.maxIterations = 2 := by
  have hanswer : Condition.evaluate "iteration < 2" [("iteration", .int 1)] = .ok true := by
    have hsome : (Condition.evaluate "iteration < 2" [("iteration", .int 1)]).toOption = some true := by
      decide +kernel
    cases h : Condition.evaluate "iteration < 2" [("iteration", .int 1)] with
    | error f =>
      rw [h] at hsome
      cases hsome
    | ok t =>
      rw [h] at hsome
      exact congrArg Except.ok (Option.some.inj hsome)
  refine ⟨_, .step (.step .refl rfl rfl rfl rfl rfl) rfl rfl rfl rfl rfl, rfl, ?_, rfl, rfl, rfl⟩
  rw [Engine.performed_loop Engine.forgetful rfl]
  change ∃ o f, Engine.forgetful.Fails goingAgain _ goAgain
    ((Condition.evaluate "iteration < 2" [("iteration", .int 1)]).map _) o (.failure f) ∧ _
  rw [hanswer]
  exact ⟨_, _, .judged rfl, rfl⟩

end Manager

end Runbook
