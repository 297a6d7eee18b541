import Runbook.Proofs.Execution.Passes

/-! A run in slices: it stops where a step is in execution and goes on when the step has come to something. With nothing
in between, the slices one after the other are the run. -/

namespace Runbook.Engine

variable {σ : Type} {e : Engine σ} {w : Workflow} {s t : Session} {step : Step} {x y : σ}

/-- How far a request has come: it has not begun, a step of its session is in execution, or it has ended. -/
inductive Progress where
  | waiting
  | performing (w : Workflow) (s : Session) (step : Step)
  | ended (r : Except Fault Session)

/-- Nothing follows. -/
def ends (r : Except Fault Session × σ) : Progress × σ := (.ended r.1, r.2)

/-- A session comes to its step, or the run ends. -/
def reach (e : Engine σ) (w : Workflow) (s : Session) (x : σ) : Progress × σ :=
  if s.completed then (.ended (.ok s), x)
  else if e.cancelled x then ends (e.settle (e.stopping s) x)
  else
    match stepOf? w s with
    | none => ends (e.settle (e.failing s (unknownStep w s)) x)
    | some step => (.performing w s step, x)

/-- What a step has come to is recorded and saved, unless it ends the run at once. -/
def finish (e : Engine σ) (w : Workflow) (s : Session) (step : Step) (r : Except Fault Outcome) (x : σ) :
    Except Fault Session × σ :=
  match r with
  | .error f => if isAbrupt f then (.error f, x) else e.settle (e.settled w s step (e.cancelled x) r) x
  | .ok _ => e.settle (e.settled w s step (e.cancelled x) r) x

/-- A step has come to something: the session comes to the next one, or the run ends. -/
def land (e : Engine σ) (w : Workflow) (s : Session) (step : Step) (r : Except Fault Outcome) (x : σ) : Progress × σ :=
  match e.finish w s step r x with
  | (.error f, y) => (.ended (.error f), y)
  | (.ok t, y) => if t.paused then (.ended (.ok t), y) else e.reach w t y

/-- A step comes to what it comes to in the world as it is. -/
def slice (e : Engine σ) (w : Workflow) (s : Session) (step : Step) (x : σ) : Progress × σ :=
  e.land w s step (e.performed s step x).1 (e.performed s step x).2

theorem runStep_eq_finish (e : Engine σ) (w : Workflow) (s : Session) (step : Step) (x : σ) :
    e.runStep w s step x = e.finish w s step (e.performed s step x).1 (e.performed s step x).2 := by
  rw [runStep_apply]
  unfold finish
  dsimp only
  cases (e.performed s step x).1 <;> rfl

/-- What becomes of a step keeps the name and the id of the session, whatever the step came to. -/
theorem key_settled (e : Engine σ) (w : Workflow) (s : Session) (step : Step) (stop : Bool) (r : Except Fault Outcome) :
    (e.settled w s step stop r).1.key = s.key := by
  have hfailure (o : Option Outcome) (f : Fault) : (e.settledFailure w s step o f stop).1.key = s.key := by
    cases stop <;> rfl
  obtain ⟨f, -, h⟩ | ⟨o, f, -, -, h⟩ | ⟨o, target, iterations, -, -, h⟩ := settled_cases e w s step stop r <;> rw [h]
  · exact hfailure none f
  · exact hfailure (some o) f
  · exact key_afterSuccess e s step o target iterations

/-- The slices of a run each of whose steps comes to what it comes to in the world in which it began. -/
inductive Alone (e : Engine σ) : Progress × σ → Except Fault Session × σ → Prop where
  | ended (r : Except Fault Session × σ) : Alone e (ends r) r
  | landed {w : Workflow} {s : Session} {step : Step} {x : σ} {r : Except Fault Session × σ}
      (h : Alone e (e.slice w s step x) r) : Alone e (.performing w s step, x) r

theorem slice_eq (w : Workflow) (s : Session) (step : Step) (x : σ) :
    e.slice w s step x =
      match e.runStep w s step x with
      | (.error f, y) => (.ended (.error f), y)
      | (.ok t, y) => if t.paused then (.ended (.ok t), y) else e.reach w t y := by
  rw [runStep_eq_finish]
  rfl

theorem Loops.alone {steps : List Step} {r : Except Fault Session × σ} (h : e.Loops w s x steps r) :
    e.Alone (e.reach w s x) r := by
  induction h with
  | @completed s x hdone =>
    rw [reach, if_pos hdone]
    exact .ended (.ok s, x)
  | stopped hopen hstop =>
    rw [reach, hopen, if_neg Bool.false_ne_true, if_pos hstop]
    exact .ended _
  | lost hopen hgo hstep =>
    rw [reach, hopen, if_neg Bool.false_ne_true, hgo, if_neg Bool.false_ne_true, hstep]
    exact .ended _
  | @broke s x y step f hopen hgo hstep hturn =>
    rw [reach, hopen, if_neg Bool.false_ne_true, hgo, if_neg Bool.false_ne_true, hstep]
    refine .landed ?_
    rw [slice_eq, hturn]
    exact .ended (.error f, y)
  | @paused s t x y step hopen hgo hstep hturn hwaits =>
    rw [reach, hopen, if_neg Bool.false_ne_true, hgo, if_neg Bool.false_ne_true, hstep]
    refine .landed ?_
    rw [slice_eq, hturn]
    dsimp only
    rw [if_pos hwaits]
    exact .ended (.ok t, y)
  | passed hopen hgo hstep hturn hgoes hrest ih =>
    rw [reach, hopen, if_neg Bool.false_ne_true, hgo, if_neg Bool.false_ne_true, hstep]
    refine .landed ?_
    rw [slice_eq, hturn]
    dsimp only
    rw [hgoes, if_neg Bool.false_ne_true]
    exact ih

/-- Alone, the slices of a session that does not wait come to what the run comes to. -/
theorem alone_run (hw : w.stepIds.Nodup) (hs : s.completed = true ∨ s.paused = false) (x : σ) :
    e.Alone (e.reach w s x) (e.run w s x) := by
  rcases hs with hdone | hpaused
  · have hrun : e.run w s = pure s := if_pos hdone
    rw [reach, if_pos hdone, hrun]
    exact .ended (.ok s, x)
  · obtain ⟨steps, r, hloops, hlength⟩ := exists_loops (e := e) hw s x
    rw [run_eq_runFrom hw hpaused (Nat.lt_succ_self _), hloops.runFrom_eq (Nat.lt_succ_of_le hlength)]
    exact hloops.alone

end Runbook.Engine
