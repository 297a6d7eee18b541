import Runbook.Proofs.Execution.Bound
import Runbook.Session.Repository

/-! The loop of a run with nothing that bounds it. It ends for every workflow with different step ids, and how many
steps it performs is bounded by the number of steps of the workflow and the jumps backward that are left. -/

namespace Runbook.Engine

variable {σ : Type} {e : Engine σ} {w : Workflow} {s t : Session} {step : Step} {steps : List Step} {x y : σ}
  {r : Except Fault Session × σ}

/-- What the loop comes to from a session in a world, with the steps that it performs on the way. -/
inductive Loops (e : Engine σ) (w : Workflow) : Session → σ → List Step → Except Fault Session × σ → Prop where
  | completed {s : Session} {x : σ} (hdone : s.completed = true) : Loops e w s x [] (.ok s, x)
  | stopped {s : Session} {x : σ} (hopen : s.completed = false) (hstop : e.cancelled x = true) :
      Loops e w s x [] (e.settle (e.stopping s) x)
  | lost {s : Session} {x : σ} (hopen : s.completed = false) (hgo : e.cancelled x = false)
      (hstep : stepOf? w s = none) : Loops e w s x [] (e.settle (e.failing s (unknownStep w s)) x)
  | broke {s : Session} {x y : σ} {step : Step} {f : Fault} (hopen : s.completed = false)
      (hgo : e.cancelled x = false) (hstep : stepOf? w s = some step)
      (hturn : e.runStep w s step x = (.error f, y)) : Loops e w s x [step] (.error f, y)
  | paused {s t : Session} {x y : σ} {step : Step} (hopen : s.completed = false) (hgo : e.cancelled x = false)
      (hstep : stepOf? w s = some step) (hturn : e.runStep w s step x = (.ok t, y)) (hwaits : t.paused = true) :
      Loops e w s x [step] (.ok t, y)
  | passed {s t : Session} {x y : σ} {step : Step} {steps : List Step} {r : Except Fault Session × σ}
      (hopen : s.completed = false) (hgo : e.cancelled x = false) (hstep : stepOf? w s = some step)
      (hturn : e.runStep w s step x = (.ok t, y)) (hgoes : t.paused = false) (hrest : Loops e w t y steps r) :
      Loops e w s x (step :: steps) r

/-- The steps that a run performs and what it comes to: a completed session is left as it is, any other enters
the loop. -/
def Performs (e : Engine σ) (w : Workflow) (s : Session) (x : σ) (steps : List Step)
    (r : Except Fault Session × σ) : Prop :=
  if s.completed then steps = [] ∧ r = (.ok s, x) else e.Loops w { s with paused := false } x steps r

/-- A run that may perform more steps than the loop comes to the same. -/
theorem Loops.runFrom_eq (h : e.Loops w s x steps r) {fuel : ℕ} (hfuel : steps.length < fuel) :
    e.runFrom w fuel s x = r := by
  induction h generalizing fuel
  all_goals
    obtain ⟨fuel, rfl⟩ := Nat.exists_eq_add_one_of_ne_zero (Nat.ne_zero_of_lt hfuel)
    rw [runFrom_succ]
  case completed hdone => rw [if_pos hdone]
  case stopped hopen hstop => simp [hopen, hstop]
  case lost hopen hgo hstep => simp [hopen, hgo, hstep]
  case broke hopen hgo hstep hturn => simp [hopen, hgo, hstep, hturn]
  case paused hopen hgo hstep hturn hwaits => simp [hopen, hgo, hstep, hturn, hwaits]
  case passed hopen hgo hstep hturn hgoes hrest ih =>
    simp only [hopen, hgo, hstep, hturn, hgoes, Bool.false_eq_true, if_false]
    exact ih (Nat.lt_of_succ_lt_succ hfuel)

/-- What happens next is settled by the session and the world. -/
theorem Loops.unique {steps' : List Step} {r' : Except Fault Session × σ} (h : e.Loops w s x steps r)
    (h' : e.Loops w s x steps' r') : steps' = steps ∧ r' = r := by
  induction h generalizing steps' r' with
  | passed hopen hgo hstep hturn hgoes hrest ih =>
    cases h' with
    | passed hopen' hgo' hstep' hturn' hgoes' hrest' =>
      obtain rfl := Option.some.inj (hstep.symm.trans hstep')
      obtain ⟨ht, rfl⟩ := Prod.mk.inj (hturn.symm.trans hturn')
      obtain rfl := Except.ok.inj ht
      obtain ⟨rfl, rfl⟩ := ih hrest'
      exact ⟨rfl, rfl⟩
    | _ => grind
  | _ => cases h' <;> grind

/-- At a step something can still be performed. -/
theorem rank_pos (hstep : stepOf? w s = some step) : 0 < e.rank w s := by
  obtain ⟨hcurrent, hget⟩ := stepOf?_eq_some hstep
  obtain ⟨i, hi⟩ := exists_indexOf? hget
  have hlt := Workflow.indexOf?_lt hi
  rw [rank, rankAt, hcurrent, Option.bind_some, hi]
  exact Nat.add_pos_right _ (Nat.sub_pos_of_lt hlt)

/-- The loop ends, and every step that it performs lowers the rank. -/
theorem exists_loops (hw : w.stepIds.Nodup) (s : Session) (x : σ) :
    ∃ steps r, e.Loops w s x steps r ∧ steps.length ≤ e.rank w s := by
  induction hrank : e.rank w s using Nat.strong_induction_on generalizing s x with
  | _ n ih =>
    subst hrank
    cases hdone : s.completed with
    | true => exact ⟨[], _, .completed hdone, Nat.zero_le _⟩
    | false =>
      cases hstop : e.cancelled x with
      | true => exact ⟨[], _, .stopped hdone hstop, Nat.zero_le _⟩
      | false =>
        cases hstep : stepOf? w s with
        | none => exact ⟨[], _, .lost hdone hstop hstep, Nat.zero_le _⟩
        | some step =>
          rcases hturn : e.runStep w s step x with ⟨f | t, y⟩
          · exact ⟨[step], _, .broke hdone hstop hstep hturn, rank_pos hstep⟩
          · cases hwaits : t.paused with
            | true => exact ⟨[step], _, .paused hdone hstop hstep hturn hwaits, rank_pos hstep⟩
            | false =>
              have hlt := rank_runStep_lt hw hstep (congrArg Prod.fst hturn) hwaits
              obtain ⟨steps, r, hrest, hlength⟩ := ih _ hlt t y rfl
              exact ⟨step :: steps, r, .passed hdone hstop hstep hturn hwaits hrest, hlength.trans_lt hlt⟩

/-- The rank counts each step once for every jump backward that is left, and once more. -/
theorem rank_le (hk : s.iterations ≤ e.maxIterations) :
    (e.rank w s : ℤ) ≤ w.steps.length * (e.maxIterations - s.iterations + 1) := by
  have hnonneg : 0 ≤ e.maxIterations - s.iterations := Int.sub_nonneg_of_le hk
  unfold rank rankAt
  split
  · rename_i i _
    have hleft : ((w.steps.length - i : ℕ) : ℤ) ≤ w.steps.length := Int.ofNat_le.mpr (Nat.sub_le _ _)
    calc (((e.maxIterations - s.iterations).toNat * w.steps.length + (w.steps.length - i) : ℕ) : ℤ)
        = (e.maxIterations - s.iterations) * w.steps.length + (w.steps.length - i : ℕ) := by
          rw [Nat.cast_add, Nat.cast_mul, Int.toNat_of_nonneg hnonneg]
      _ ≤ (e.maxIterations - s.iterations) * w.steps.length + w.steps.length := Int.add_le_add_left hleft _
      _ = w.steps.length * (e.maxIterations - s.iterations + 1) := by ring
  · exact mul_nonneg (Int.natCast_nonneg _) (by omega)

/-- A run of a workflow with different step ids ends, and performs each step at most once for every jump backward that
is left, and once more. It can come to nothing else, and performs no other steps. -/
theorem run_performs_within_bound (hw : w.stepIds.Nodup) (hk : s.iterations ≤ e.maxIterations) (x : σ) :
    ∃ steps, (steps.length : ℤ) ≤ w.steps.length * (e.maxIterations - s.iterations + 1) ∧
      ∀ steps' r, e.Performs w s x steps' r ↔ steps' = steps ∧ r = e.run w s x := by
  by_cases hdone : s.completed = true
  · refine ⟨[], mul_nonneg (Int.natCast_nonneg _) (by omega), fun steps' r => ?_⟩
    unfold Performs run
    rw [if_pos hdone, if_pos hdone]
    rfl
  · obtain ⟨steps, r, hloops, hlength⟩ := exists_loops (e := e) hw { s with paused := false } x
    have hrank : e.rank w { s with paused := false } = e.rank w s := rfl
    have hrun : e.run w s x = r := by
      unfold run
      rw [if_neg hdone]
      exact hloops.runFrom_eq (Nat.lt_succ_of_le (hlength.trans (hrank ▸ rank_le_stepBound e w s)))
    refine ⟨steps, (Int.ofNat_le.mpr hlength).trans (hrank ▸ rank_le hk), fun steps' r' => ?_⟩
    unfold Performs
    rw [if_neg hdone, hrun]
    refine ⟨fun h => hloops.unique h, ?_⟩
    rintro ⟨rfl, rfl⟩
    exact hloops

/-! ## On the way -/

/-- The sessions and worlds that the loop goes through between two steps. -/
inductive Passes (e : Engine σ) (w : Workflow) (s : Session) (x : σ) : Session → σ → Prop where
  | refl : Passes e w s x s x
  | step {t u : Session} {y z : σ} {step : Step} (h : Passes e w s x t y) (hopen : t.completed = false)
      (hgo : e.cancelled y = false) (hstep : stepOf? w t = some step) (hturn : e.runStep w t step y = (.ok u, z))
      (hgoes : u.paused = false) : Passes e w s x u z

/-- A run goes on from there. -/
theorem Passes.run_eq (hw : w.stepIds.Nodup) (hpaused : s.paused = false) (h : e.Passes w s x t y) :
    t.paused = false ∧ e.run w s x = e.run w t y := by
  induction h with
  | refl => exact ⟨hpaused, rfl⟩
  | @step t u y z step _ hopen hgo hstep hturn hgoes ih =>
    refine ⟨hgoes, ih.2.trans ?_⟩
    obtain ⟨n, hu, ht⟩ : ∃ n, e.rank w u < n ∧ e.rank w t < n + 1 :=
      ⟨e.rank w u + e.rank w t + 1, by omega, by omega⟩
    rw [run_eq_runFrom hw ih.1 ht, run_eq_runFrom hw hgoes hu, runFrom_succ]
    simp only [hopen, hgo, hstep, hturn, hgoes, Bool.false_eq_true, if_false]

/-- What a step that succeeds leaves alone is the same all the way. -/
theorem Passes.keeps (h : e.Passes w s x t y) :
    t.key = s.key ∧ t.failed = s.failed ∧ t.lastError = s.lastError := by
  induction h with
  | refl => exact ⟨rfl, rfl, rfl⟩
  | @step t u y z step _ hopen hgo hstep hturn hgoes ih =>
    obtain ⟨stop, hsettled⟩ := runStep_eq_ok (congrArg Prod.fst hturn)
    obtain ⟨o, target, iterations, -, rfl⟩ := settled_eq_success hsettled hgoes
    have hkey := key_afterSuccess e t step o target iterations
    obtain ⟨hfailed, hlast⟩ := kept_afterSuccess e t step o target iterations
    exact ⟨hkey.trans ih.1, hfailed.trans ih.2.1, hlast.trans ih.2.2⟩

/-! ## A step that leads to itself -/

/-- A step that leads to itself. -/
def spin : Step where
  id := "spin"
  task := .conditional "true" "spin" none

def spinning : Workflow where
  name := "demo"
  steps := [spin]

/-- An engine without collaborators that saves nothing and allows two jumps backward. -/
def forgetful : Engine Unit where
  services := {
    runner := none
    agent := none
    hosting := none
    offerModel := fun _ x => x
    fileExists := fun _ _ => pure false
    shellTimeout := .nan }
  save := fun _ => pure ()
  cancelled := fun _ => false
  now := "t"
  maxIterations := 2

/-- The bound is reached. -/
theorem spinning_performs_three_steps :
    spinning.stepIds.Nodup ∧ (Repository.initial spinning [] "s" "t").iterations ≤ forgetful.maxIterations ∧
      (3 : ℤ) = spinning.steps.length * (forgetful.maxIterations - 0 + 1) ∧
      ∀ steps r, forgetful.Performs spinning (Repository.initial spinning [] "s" "t") () steps r ↔
        steps = [spin, spin, spin] ∧ r = forgetful.run spinning (Repository.initial spinning [] "s" "t") () := by
  have hids : spinning.stepIds.Nodup := List.nodup_singleton _
  have hk : (Repository.initial spinning [] "s" "t").iterations ≤ forgetful.maxIterations := by decide
  obtain ⟨steps, -, hsteps⟩ := run_performs_within_bound hids hk ()
  have hloops : ∃ r, forgetful.Performs spinning (Repository.initial spinning [] "s" "t") () [spin, spin, spin] r :=
    ⟨_, .passed rfl rfl rfl rfl rfl (.passed rfl rfl rfl rfl rfl (.broke rfl rfl rfl rfl))⟩
  obtain ⟨r, hr⟩ := hloops
  obtain ⟨rfl, -⟩ := (hsteps _ r).mp hr
  exact ⟨hids, hk, by decide, hsteps⟩

end Runbook.Engine
