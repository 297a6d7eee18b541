import Runbook.Proofs.Execution.Guard
import Runbook.Proofs.Manager.Isolation

/-! Which branches reach git and the hosting service, whatever is in a workflow, in its variables and in what commands
print. -/

namespace Runbook

open Naming

namespace Engine

variable {σ : Type}

/-- The engine with its collaborators behind a guard. -/
noncomputable def guarded (e : Engine σ) (d : Detour σ) : Engine σ := { e with services := e.services.guarded d }

theorem runStep_guarded (e : Engine σ) (d : Detour σ) (w : Workflow) (s : Session) (step : Step) :
    (e.guarded d).runStep w s step = e.runStep w s step := by
  unfold runStep guarded
  rw [Execution.perform_guarded]
  rfl

theorem runFrom_guarded (e : Engine σ) (d : Detour σ) (w : Workflow) (fuel : ℕ) (s : Session) :
    (e.guarded d).runFrom w fuel s = e.runFrom w fuel s := by
  induction fuel generalizing s with
  | zero => rfl
  | succ fuel ih =>
    unfold runFrom
    simp only [runStep_guarded, ih]
    rfl

theorem run_guarded (e : Engine σ) (d : Detour σ) (w : Workflow) (s : Session) :
    (e.guarded d).run w s = e.run w s := by
  unfold run
  rw [runFrom_guarded]
  rfl

theorem resume_guarded (e : Engine σ) (d : Detour σ) (w : Workflow) (s : Session) (answer : Option Value) :
    (e.guarded d).resume w s answer = e.resume w s answer := by
  unfold resume
  simp only [run_guarded]
  rfl

end Engine

namespace Manager

variable {γ : Type}

/-- The manager of sessions whose steps work behind a guard. -/
noncomputable def guarded (m : Manager γ) (d : Detour (World γ)) : Manager γ :=
  { m with services := m.services.guarded d }

theorem engine_guarded (m : Manager γ) (d : Detour (World γ)) (now : String) :
    (m.guarded d).engine now = (m.engine now).guarded d := rfl

theorem launch_guarded (m : Manager γ) (d : Detour (World γ)) (now : String) (w : Workflow) (given : Bindings)
    (id : String) (token : Token) : (m.guarded d).launch now w given id token = m.launch now w given id token := by
  unfold launch
  simp only [engine_guarded, Engine.run_guarded]
  rfl

theorem start_guarded (m : Manager γ) (d : Detour (World γ)) (now : String) (w : Workflow) (given : Bindings)
    (asked : Option String) (token : Token) :
    (m.guarded d).start now w given asked token = m.start now w given asked token := by
  unfold start
  simp only [launch_guarded]
  rfl

theorem resume_guarded (m : Manager γ) (d : Detour (World γ)) (now : String) (key : SessionKey)
    (answer : Option Value) (token : Token) :
    (m.guarded d).resume now key answer token = m.resume now key answer token := by
  unfold resume
  simp only [engine_guarded, Engine.resume_guarded]
  rfl

theorem perform_call_guarded (m : Manager γ) (d : Detour (World γ)) (c : Call) :
    c.perform (m.guarded d) = c.perform m := by
  cases c with
  | start now w given asked token =>
    unfold Call.perform
    dsimp only
    rw [start_guarded]
  | startNamed now name given asked token =>
    unfold Call.perform startNamed
    simp only [start_guarded]
    rfl
  | resume now key answer token =>
    unfold Call.perform
    dsimp only
    rw [resume_guarded]
  | save s => rfl
  | load now key => rfl
  | delete key => rfl
  | abandon key => rfl

/-- Commands and pull requests go out only with branches whose names are let pass: whatever else were done instead of the
others, every call comes to the same. A step with another branch is refused as invalid, a sync before any command is
run, and a pull request once its head is known. -/
theorem only_branches_let_pass_go_out (m : Manager γ) (d : Detour (World γ)) (c : Call) :
    c.perform (m.guarded d) = c.perform m ∧
      ∀ (s : Session) (step : Step) (x : World γ),
        (∀ message base, step.task = .git .sync message base → ¬ IsLetPass (Git.given base Git.defaultBase) →
          ∃ e, Execution.IsRefusal step.id e ∧ Execution.perform m.services s step x = (.error e, x)) ∧
        (∀ p h head y, step.task = .pullRequest p → p.action = .create → m.services.hosting = some h →
          Execution.headOf m.services step.id p x = (.ok head, y) →
          ¬ IsLetPass head ∨ ¬ IsLetPass (Git.given p.base Execution.defaultPullRequestBase) →
          ∃ e z, Execution.IsRefusal step.id e ∧ (z = x ∨ z = y) ∧
            Execution.perform m.services s step x = (.error e, z)) := by
  refine ⟨perform_call_guarded m d c, fun s step x => ⟨fun message base htask hbase => ?_, ?_⟩⟩
  · exact Execution.perform_sync_refused s htask hbase x
  · intro p h head y htask haction hhosting hhead hbranch
    exact Execution.perform_create_refused s htask haction hhosting hhead hbranch

end Manager

/-- A branch with a line feed behind its name goes out to git. -/
theorem Git.line_feed_goes_out :
    commands "s" .sync none (some "main\n") =
        .ok [["git", "fetch", "origin", "main\n"], ["git", "reset", "--hard", "origin/main\n"]] ∧
      ¬ IsBranchName "main\n" := by
  have hsafe : isSafeBranch (given (some "main\n") defaultBase) = true := by decide
  refine ⟨?_, fun h => h.body.feed_notMem (by decide)⟩
  rw [commands, if_pos hsafe]
  rfl

end Runbook
