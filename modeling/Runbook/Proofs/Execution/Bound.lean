import Runbook.Proofs.Execution.Turn
import Runbook.Proofs.Workflow.Build

/-! Runs of workflows with different step ids end: between two jumps backward each step is performed once at
most, so that no run needs more steps than it is given. -/

namespace Runbook

namespace Workflow

variable {w : Workflow}

theorem indexOf?_lt {id : String} {i : ℕ} (h : w.indexOf? id = some i) : i < w.steps.length :=
  (List.findIdx?_eq_some_iff_getElem.mp h).1

theorem indexOf?_getElem (hw : w.stepIds.Nodup) {i : ℕ} (hi : i < w.steps.length) :
    w.indexOf? w.steps[i].id = some i := by
  unfold indexOf?
  rw [List.findIdx?_eq_some_iff_getElem]
  refine ⟨hi, by simp, fun j hj => ?_⟩
  have hlength : w.stepIds.length = w.steps.length := by simp [stepIds]
  have hne : w.stepIds.get ⟨j, hlength ▸ hj.trans hi⟩ ≠ w.stepIds.get ⟨i, hlength ▸ hi⟩ := fun heq =>
    hj.ne (congrArg Fin.val ((List.Nodup.get_inj_iff hw).mp heq))
  simpa [stepIds] using hne

/-- The step after a step has the next index. -/
theorem indexOf?_of_nextStepId? (hw : w.stepIds.Nodup) {id next : String} (h : w.nextStepId? id = some next) :
    ∃ i, w.indexOf? id = some i ∧ w.indexOf? next = some (i + 1) := by
  unfold nextStepId? at h
  split at h
  · rename_i i hi
    obtain ⟨step, hstep, rfl⟩ := Option.map_eq_some_iff.mp h
    obtain ⟨hlt, rfl⟩ := List.getElem?_eq_some_iff.mp hstep
    exact ⟨i, hi, indexOf?_getElem hw hlt⟩
  · cases h

end Workflow

namespace Engine

variable {σ : Type} {e : Engine σ} {w : Workflow} {s t : Session} {step : Step}

/-- How many steps a run can still take from a place, with so many jumps backward behind it. -/
def rankAt (e : Engine σ) (w : Workflow) (current : Option String) (iterations : ℤ) : ℕ :=
  match current.bind w.indexOf? with
  | some i => (e.maxIterations - iterations).toNat * w.steps.length + (w.steps.length - i)
  | none => 0

def rank (e : Engine σ) (w : Workflow) (s : Session) : ℕ := e.rankAt w s.currentStep s.iterations

theorem rank_le_stepBound (e : Engine σ) (w : Workflow) (s : Session) : e.rank w s ≤ e.stepBound w s := by
  unfold rank rankAt stepBound
  split
  · have hone : (e.maxIterations - s.iterations).toNat + 1 ≤ (e.maxIterations - s.iterations + 1).toNat.max 1 := by
      change _ ≤ max _ 1
      omega
    calc (e.maxIterations - s.iterations).toNat * w.steps.length + (w.steps.length - _)
        ≤ (e.maxIterations - s.iterations).toNat * w.steps.length + w.steps.length := by omega
      _ = w.steps.length * ((e.maxIterations - s.iterations).toNat + 1) := by ring
      _ ≤ w.steps.length * (e.maxIterations - s.iterations + 1).toNat.max 1 := Nat.mul_le_mul_left _ hone
  · exact Nat.zero_le _

/-- A step that succeeds leads to a place of lower rank. -/
theorem rankAt_target_lt (hw : w.stepIds.Nodup) (hcurrent : s.currentStep = some step.id) {i : ℕ}
    (hi : w.indexOf? step.id = some i) {o : Outcome} {next : Option String} {iterations : ℤ}
    (h : e.target w s step o = .ok (next, iterations)) : e.rankAt w next iterations < e.rank w s := by
  have hlt := Workflow.indexOf?_lt hi
  have hrank : e.rank w s =
      (e.maxIterations - s.iterations).toNat * w.steps.length + (w.steps.length - i) := by
    rw [rank, rankAt, hcurrent, Option.bind_some, hi]
  rw [hrank]
  unfold target at h
  split at h
  · obtain ⟨rfl, rfl⟩ := Prod.mk.inj (Except.ok.inj h)
    unfold rankAt
    cases hnext : w.nextStepId? step.id with
    | none =>
      rw [Option.bind_none]
      dsimp only
      omega
    | some id =>
      obtain ⟨j, hj, hid⟩ := Workflow.indexOf?_of_nextStepId? hw hnext
      obtain rfl := Option.some.inj (hi.symm.trans hj)
      rw [Option.bind_some, hid]
      have := Workflow.indexOf?_lt hid
      dsimp only
      omega
  · rename_i id hnext
    split at h
    · cases h
    · rename_i j hj
      have hjlt := Workflow.indexOf?_lt hj
      split_ifs at h with hback
      · dsimp only at h
        split_ifs at h with hlimit
        obtain ⟨rfl, rfl⟩ := Prod.mk.inj (Except.ok.inj h)
        have hbound := (not_lt.mp hlimit).trans (limitAt_le e step)
        obtain ⟨k, hk⟩ : ∃ k, (e.maxIterations - s.iterations).toNat = k + 1 :=
          ⟨(e.maxIterations - (s.iterations + 1)).toNat, by omega⟩
        have hk' : (e.maxIterations - (s.iterations + 1)).toNat = k := by omega
        unfold rankAt
        rw [Option.bind_some, hj, hk, hk', Nat.succ_mul]
        dsimp only
        omega
      · obtain ⟨rfl, rfl⟩ := Prod.mk.inj (Except.ok.inj h)
        rw [hi, Option.any_some, decide_eq_true_iff] at hback
        unfold rankAt
        rw [Option.bind_some, hj]
        dsimp only
        omega

theorem exists_indexOf? (h : w.getStep? step.id = some step) : ∃ i, w.indexOf? step.id = some i := by
  unfold Workflow.getStep? at h
  cases hi : w.indexOf? step.id with
  | some i => exact ⟨i, rfl⟩
  | none =>
    have hnone := List.findIdx?_eq_none_iff.mp hi step (List.mem_of_find?_eq_some h)
    simp at hnone

theorem settled_eq_success {r : Except Fault Outcome} {stop : Bool}
    (h : (e.settled w s step stop r).2 = .ok t) (hgoes : t.paused = false) :
    ∃ o target iterations, e.target w s step o = .ok (target, iterations) ∧
      t = e.afterSuccess s step o target iterations := by
  obtain ⟨f, -, hsettled⟩ | ⟨o, f, -, -, hsettled⟩ | ⟨o, target, iterations, -, hjudge, hsettled⟩ :=
    settled_cases e w s step stop r <;> rw [hsettled] at h
  · rw [(settledFailure_eq_ok h).2] at hgoes
    cases hgoes
  · rw [(settledFailure_eq_ok h).2] at hgoes
    cases hgoes
  · exact ⟨o, target, iterations, (judge_eq_ok hjudge).2, (Except.ok.inj h).symm⟩

theorem rank_afterSuccess {o : Outcome} {target : Option String} {iterations : ℤ}
    (hgoes : (e.afterSuccess s step o target iterations).paused = false) :
    e.rank w (e.afterSuccess s step o target iterations) = e.rankAt w target iterations := by
  rw [afterSuccess_eq] at hgoes ⊢
  by_cases hasks : o.request.isSome = true
  · rw [if_pos hasks] at hgoes
    cases hgoes
  · rw [if_neg hasks]
    cases target <;> rfl

/-- A turn after which the run goes on lowers the rank. -/
theorem rank_runStep_lt (hw : w.stepIds.Nodup) (hstep : stepOf? w s = some step) {x : σ}
    (h : (e.runStep w s step x).1 = .ok t) (hgoes : t.paused = false) : e.rank w t < e.rank w s := by
  obtain ⟨stop, hsettled⟩ := runStep_eq_ok h
  obtain ⟨o, target, iterations, htarget, rfl⟩ := settled_eq_success hsettled hgoes
  obtain ⟨hcurrent, hget⟩ := stepOf?_eq_some hstep
  obtain ⟨i, hi⟩ := exists_indexOf? hget
  rw [rank_afterSuccess hgoes]
  exact rankAt_target_lt hw hcurrent hi htarget

/-- A run does the same with all numbers of steps above its rank. -/
theorem runFrom_congr (hw : w.stepIds.Nodup) {m n : ℕ} (hm : e.rank w s < m) (hn : e.rank w s < n) (x : σ) :
    e.runFrom w m s x = e.runFrom w n s x := by
  induction m generalizing n s x with
  | zero => exact absurd hm (Nat.not_lt_zero _)
  | succ m ih =>
    obtain ⟨n, rfl⟩ := Nat.exists_eq_succ_of_ne_zero (Nat.ne_zero_of_lt hn)
    rw [Nat.succ_eq_add_one, runFrom_succ, runFrom_succ]
    cases hstep : stepOf? w s with
    | none => rfl
    | some step =>
      dsimp only
      cases hr : (e.runStep w s step x).1 with
      | error f => rfl
      | ok t =>
        dsimp only
        cases hwaits : t.paused with
        | true => rfl
        | false =>
          have hlt := rank_runStep_lt hw hstep hr hwaits
          rw [ih (hlt.trans_le (Nat.lt_succ_iff.mp hm)) (hlt.trans_le (Nat.lt_succ_iff.mp hn))]

theorem run_apply (hpaused : s.paused = false) (x : σ) :
    e.run w s x = e.runFrom w (e.stepBound w s + 1) s x := by
  have hself : { s with paused := false } = s := by rw [← hpaused]
  unfold run
  rw [hself]
  split_ifs with hdone
  · rw [runFrom_succ, if_pos hdone]
    rfl
  · rfl

/-- A run that is asked to stop before it begins pauses the session where it is. -/
theorem run_eq_of_cancelled (hpaused : s.paused = false) (hopen : s.completed = false) {x : σ}
    (hstop : e.cancelled x = true) : e.run w s x = e.settle (e.stopping s) x := by
  rw [run_apply hpaused, runFrom_succ]
  simp only [hopen, hstop, Bool.false_eq_true, if_true, if_false]

/-- A run fails at once where the workflow does not have the current step. -/
theorem run_eq_of_unknownStep (hpaused : s.paused = false) (hopen : s.completed = false) {x : σ}
    (hgo : e.cancelled x = false) (hstep : stepOf? w s = none) :
    e.run w s x = e.settle (e.failing s (unknownStep w s)) x := by
  rw [run_apply hpaused, runFrom_succ]
  simp only [hopen, hgo, hstep, Bool.false_eq_true, if_false]

/-- The steps that a run is given are enough: with more of them it does the same. -/
theorem run_eq_runFrom (hw : w.stepIds.Nodup) (hpaused : s.paused = false) {n : ℕ} (hn : e.rank w s < n) (x : σ) :
    e.run w s x = e.runFrom w n s x :=
  (run_apply hpaused x).trans (runFrom_congr hw (Nat.lt_succ_of_le (rank_le_stepBound e w s)) hn x)

end Engine

end Runbook
