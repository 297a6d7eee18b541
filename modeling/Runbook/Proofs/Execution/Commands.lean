import Runbook.Proofs.Execution.Notes
import Runbook.Workflow.Fill

/-! The commands of a git step: they are executed in their order, each of them only after the one before it exited
with zero. -/

namespace Runbook

variable {σ : Type}

/-- A command that was executed, and how that ended. -/
structure Executed where
  command : Command
  result : Except Fault ProcessResult

namespace Executed

/-- The process came to its end and exited with zero. -/
def Passed (e : Executed) : Prop := ∃ r, e.result = .ok r ∧ r.exitCode = 0

theorem passed_ok {c : Command} {r : ProcessResult} : Passed ⟨c, .ok r⟩ ↔ r.exitCode = 0 := by
  simp [Passed]

theorem not_passed_error {c : Command} {e : Fault} : ¬ Passed ⟨c, .error e⟩ := by
  simp [Passed]

end Executed

/-- A runner that writes down what it executes. -/
def Runner.noting (r : Runner σ) : Runner (σ × List Executed) where
  execute c dir t := (r.execute c dir t).noting (⟨c, ·⟩)
  terminate := r.terminate.beside _

namespace Services

/-- The collaborators with notes of the commands that are executed. -/
def notingCommands (v : Services σ) : Services (σ × List Executed) :=
  { v.beside (List Executed) with runner := v.runner.map (·.noting) }

theorem follows_notingCommands (v : Services σ) : v.notingCommands.Follows v :=
  { v.follows_beside (List Executed) with
    runner := by
      unfold notingCommands
      cases v.runner with
      | none => exact .none
      | some r => exact .some fun _ _ _ => Act.follows_noting _ _ }

end Services

/-! ## Commands in a row -/

/-- What is executed of some commands, and what that comes to: it ends with the first command that does not pass, or
that cannot be started. -/
inductive Stops : List (List String) → List Executed → Except Fault (List ProcessResult) → Prop where
  | finished : Stops [] [] (.ok [])
  | passed {argv : List String} {rest : List (List String)} {done : List Executed} {r : ProcessResult}
      {results : Except Fault (List ProcessResult)} (hr : r.exitCode = 0) (h : Stops rest done results) :
      Stops (argv :: rest) (⟨.words argv, .ok r⟩ :: done) (results.map (r :: ·))
  | failed {argv : List String} {rest : List (List String)} {r : ProcessResult} (hr : r.exitCode ≠ 0) :
      Stops (argv :: rest) [⟨.words argv, .ok r⟩] (.ok [r])
  | broken {argv : List String} {rest : List (List String)} (cause e : Fault) :
      Stops (argv :: rest) [⟨.words argv, .error cause⟩] (.error e)
  | notStarted {argv : List String} {rest : List (List String)} (e : Fault) : Stops (argv :: rest) [] (.error e)

namespace Execution

variable {v : Services σ}

/-- Without a runner no command is executed; with one the command is, and its own result is noted. -/
theorem runCommand_notingCommands (v : Services σ) (step label : String) (c : Command) (timeout : Option Binary64)
    (p : σ × List Executed) :
    (∃ e, runCommand v.notingCommands step label c timeout p = (.error e, p)) ∨
      ∃ (result : Except Fault ProcessResult) (f : Fault → Fault) (y : σ),
        runCommand v.notingCommands step label c timeout p = (result.mapError f, y, p.2 ++ [⟨c, result⟩]) := by
  unfold runCommand Services.notingCommands
  cases v.runner with
  | none => exact .inl ⟨_, rfl⟩
  | some r => exact .inr ⟨_, _, _, Act.reword_apply _ _ _⟩

/-- Commands that are run in turn stop at the first that does not pass. -/
theorem runAll_stops (v : Services σ) (step : String) (commands : List (List String)) (p : σ × List Executed) :
    ∃ done, (runAll v.notingCommands step commands p).2.2 = p.2 ++ done ∧
      Stops commands done (runAll v.notingCommands step commands p).1 := by
  induction commands generalizing p with
  | nil => exact ⟨[], (List.append_nil _).symm, .finished⟩
  | cons argv rest ih =>
    rw [runAll]
    rcases runCommand_notingCommands v step "Git command" (.words argv) none p with ⟨e, hrun⟩ | ⟨result, f, y, hrun⟩
    · rw [Act.bind_error hrun]
      exact ⟨[], (List.append_nil _).symm, .notStarted e⟩
    · cases result with
      | error cause =>
        rw [Act.bind_error hrun]
        exact ⟨_, rfl, .broken cause _⟩
      | ok r =>
        rw [Act.bind_ok hrun]
        by_cases hr : r.exitCode = 0
        · obtain ⟨done, hnotes, hstops⟩ := ih (y, p.2 ++ [⟨.words argv, .ok r⟩])
          have hpassed : Stops (argv :: rest) (⟨.words argv, .ok r⟩ :: done) _ := .passed hr hstops
          rw [if_pos (by simpa [ProcessResult.ok] using hr), Act.bind_apply]
          refine ⟨⟨.words argv, .ok r⟩ :: done, ?_⟩
          rw [List.append_assoc] at hnotes
          generalize runAll v.notingCommands step rest (y, p.2 ++ [⟨.words argv, .ok r⟩]) = last at hnotes hpassed ⊢
          obtain ⟨results, z⟩ := last
          cases results <;> exact ⟨hnotes, hpassed⟩
        · rw [if_neg (by simpa [ProcessResult.ok] using hr)]
          exact ⟨_, rfl, .failed hr⟩

end Execution

namespace Stops

variable {commands : List (List String)} {done : List Executed} {results : Except Fault (List ProcessResult)}

/-- What is executed is a beginning of the commands. -/
theorem isPrefix (h : Stops commands done results) : done.map (·.command) <+: commands.map .words := by
  induction h with
  | finished => exact List.prefix_refl []
  | passed _ _ ih => exact (List.prefix_cons_inj _).mpr ih
  | failed | broken => exact (List.prefix_cons_inj _).mpr List.nil_prefix
  | notStarted => exact List.nil_prefix

/-- All that is executed passes, but perhaps the last. -/
theorem passed_of_mem_dropLast (h : Stops commands done results) : ∀ e ∈ done.dropLast, e.Passed := by
  induction h with
  | passed hr h ih =>
    rename_i rest done r results
    cases done with
    | nil => simp
    | cons next done =>
      rw [List.dropLast_cons_cons]
      exact List.forall_mem_cons.mpr ⟨Executed.passed_ok.mpr hr, ih⟩
  | _ => simp

/-- The last process exits with zero exactly if all commands are executed and pass. -/
theorem exitCode_eq_zero_iff (h : Stops commands done results) :
    (∃ rs, results = .ok rs ∧ (rs.getLast?.map (·.exitCode)).getD 0 = 0) ↔
      done.map (·.command) = commands.map .words ∧ ∀ e ∈ done, e.Passed := by
  induction h with
  | finished => simp
  | @passed argv rest done r results hr h ih =>
    have hcode (rs : List ProcessResult) : ((r :: rs).getLast?.map (·.exitCode)).getD 0 =
        (rs.getLast?.map (·.exitCode)).getD 0 := by
      cases rs with
      | nil => simpa using hr
      | cons next rs => simp
    rw [List.map_cons, List.map_cons, List.cons.injEq, List.forall_mem_cons, Executed.passed_ok]
    simp only [true_and, hr]
    rw [← ih]
    cases results with
    | error e => simp [Except.map]
    | ok rs => simp [Except.map, hcode]
  | failed hr => simp [Executed.passed_ok, hr]
  | broken cause e => simp [Executed.not_passed_error]
  | notStarted e => simp

end Stops

/-! ## Git steps -/

namespace Execution

/-- The commands of a step are executed in their order, each only after those before it passed, and the step succeeds
exactly if all of them were executed and passed. -/
structure StopsAtFailure (commands : List (List String)) (done : List Executed) (outcome : Except Fault Outcome) :
    Prop where
  in_order : done.map (·.command) <+: commands.map .words
  passed : ∀ e ∈ done.dropLast, e.Passed
  succeeds_iff : (∃ o, outcome = .ok o ∧ o.success = true) ↔
    done.map (·.command) = commands.map .words ∧ ∀ e ∈ done, e.Passed

/-- The commands that a step executes, with how each of them ended. -/
def executed (v : Services σ) (s : Session) (step : Step) (x : σ) : List Executed :=
  (perform v.notingCommands s step (x, [])).2.2

theorem success_gitOutcome (action : GitAction) (commands : List (List String)) (results : List ProcessResult) :
    (gitOutcome action commands results).success = true ↔ (results.getLast?.map (·.exitCode)).getD 0 = 0 := by
  simp [gitOutcome]

/-- What a step comes to by what becomes of its commands. -/
theorem git_apply (v : Services σ) {step : String} {action : GitAction} {message base : Option String}
    {commands : List (List String)} (h : Git.commands step action message base = .ok commands) (x : σ) :
    git v step action message base x =
      ((runAll v step commands x).1.map (gitOutcome action commands), (runAll v step commands x).2) := by
  rw [git, h, Act.ofExcept, pure_bind, Act.bind_apply]
  cases (runAll v step commands x).1 <;> rfl

section Task

variable {s : Session} {step : Step} {action : GitAction} {message base : Option String}

theorem perform_git (htask : step.task = .git action message base) {ρ : Type} (v : Services ρ) :
    perform v s step = git v step.id action message base := by
  simp only [perform, htask]

/-- What a step executes stops like its commands, and the step comes to what these come to. -/
theorem stops_executed (htask : step.task = .git action message base) {commands : List (List String)}
    (h : Git.commands step.id action message base = .ok commands) (v : Services σ) (x : σ) :
    ∃ results, Stops commands (executed v s step x) results ∧
      (perform v s step x).1 = results.map (gitOutcome action commands) := by
  obtain ⟨done, hnotes, hstops⟩ := runAll_stops v step.id commands (x, [])
  have hfollows := follows_perform v.follows_notingCommands s step (x, [])
  have hnoted := git_apply v.notingCommands h (x, [])
  rw [← perform_git htask] at hnoted
  obtain rfl : executed v s step x = done := by
    rw [executed, hnoted]
    exact hnotes
  rw [hnoted] at hfollows
  exact ⟨_, hstops, hfollows.1.symm⟩

theorem stopsAtFailure_executed (htask : step.task = .git action message base) {commands : List (List String)}
    (h : Git.commands step.id action message base = .ok commands) (v : Services σ) (x : σ) :
    StopsAtFailure commands (executed v s step x) (perform v s step x).1 := by
  obtain ⟨results, hstops, hresult⟩ := stops_executed htask h v x
  rw [hresult]
  refine ⟨hstops.isPrefix, hstops.passed_of_mem_dropLast, ?_⟩
  rw [← hstops.exitCode_eq_zero_iff]
  cases results with
  | error e => simp [Except.map]
  | ok rs => simp [Except.map, success_gitOutcome]

theorem perform_of_refused (htask : step.task = .git action message base) {e : Fault}
    (h : Git.commands step.id action message base = .error e) {ρ : Type} (v : Services ρ) (y : ρ) :
    perform v s step y = (.error e, y) := by
  rw [perform_git htask, git, h]
  rfl

theorem executed_of_refused (htask : step.task = .git action message base) {e : Fault}
    (h : Git.commands step.id action message base = .error e) (v : Services σ) (x : σ) :
    executed v s step x = [] := by
  rw [executed, perform_of_refused htask h]

end Task

end Execution

namespace Git

/-- What the commands of a step are built to be: they are refused as invalid, or there is one, which resets nothing, or
a branch is fetched and reset to. -/
inductive Builds : Except Fault (List (List String)) → Prop where
  | refused {f : Failure} (h : f.kind = .validation) : Builds (.error (.failure f))
  | alone {argv : List String} (h : argv[1]? ≠ some "reset") : Builds (.ok [argv])
  | sync (branch : String) :
      Builds (.ok [["git", "fetch", "origin", branch], ["git", "reset", "--hard", "origin/" ++ branch]])

theorem builds_commands (step : String) (action : GitAction) (message base : Option String) :
    Builds (commands step action message base) := by
  cases action with
  | commit =>
    cases message with
    | none => exact .refused rfl
    | some m =>
      rw [commands]
      split_ifs
      · exact .refused rfl
      · exact .alone (by simp)
  | push => exact .alone (by simp)
  | pull => exact .alone (by simp)
  | sync =>
    rw [commands]
    split_ifs
    · exact .sync _
    · exact .refused rfl

theorem isValidation_of_commands {step : String} {action : GitAction} {message base : Option String} {e : Fault}
    (h : commands step action message base = .error e) : ∃ f, e = .failure f ∧ f.kind = .validation := by
  have hbuilds := builds_commands step action message base
  rw [h] at hbuilds
  cases hbuilds with
  | refused hkind => exact ⟨_, rfl, hkind⟩

/-- Without a message there is nothing to commit. -/
theorem exists_commands_eq_error (step : String) {message : Option String} (base : Option String)
    (h : ∀ m, message = some m → Text.isBlankText m = true) : ∃ e, commands step .commit message base = .error e := by
  cases message with
  | none => exact ⟨_, rfl⟩
  | some m => exact ⟨_, if_pos (h m rfl)⟩

end Git

namespace Execution

/-- What is fetched passes before anything is reset to it. -/
theorem StopsAtFailure.fetch_of_reset {commands : List (List String)} (hbuilds : Git.Builds (.ok commands))
    {outcome : Except Fault Outcome} {before after : List Executed} {branch : String}
    {result : Except Fault ProcessResult}
    (h : StopsAtFailure commands
      (before ++ ⟨.words ["git", "reset", "--hard", "origin/" ++ branch], result⟩ :: after) outcome) :
    ∃ e ∈ before, e.command = .words ["git", "fetch", "origin", branch] ∧ e.Passed := by
  have hmem : ["git", "reset", "--hard", "origin/" ++ branch] ∈ commands := by
    have hmem := h.in_order.subset (List.mem_map_of_mem (List.mem_append_right before List.mem_cons_self))
    simpa using hmem
  cases hbuilds with
  | alone hne =>
    obtain rfl := List.mem_singleton.mp hmem
    simp at hne
  | sync branch' =>
    obtain rfl : branch = branch' := by simpa using hmem
    cases before with
    | nil => simpa using h.in_order
    | cons e before =>
      refine ⟨e, List.mem_cons_self, (List.cons_prefix_cons.mp h.in_order).1, h.passed e ?_⟩
      rw [List.dropLast_append_of_ne_nil (List.cons_ne_nil _ _)]
      exact List.mem_append_left _ List.mem_cons_self

/-- Whatever the runner does, a git step executes its commands in their order and stops at the first that does not exit
with zero, and it succeeds exactly if all of them were executed and did. So nothing is reset to a branch that was not
fetched before. Where the commands are refused, as is a commit without a message, nothing is executed at all. What is
noted of it makes no difference to the step. -/
theorem git_stops_at_first_failure (v : Services σ) (s : Session) {step : Step} {action : GitAction}
    {message base : Option String} (htask : step.task = .git action message base) (x : σ) :
    let filled := step.fill s.variables
    let outcome := (perform v s filled x).1
    let done := executed v s filled x
    let commands := Git.commands step.id action (Task.fillOption s.variables message)
      (Task.fillOption s.variables base)
    (perform v.notingCommands s filled).Follows (perform v s filled) ∧
      (∀ cs, commands = .ok cs → StopsAtFailure cs done outcome) ∧
      (∀ before branch result after,
        done = before ++ ⟨.words ["git", "reset", "--hard", "origin/" ++ branch], result⟩ :: after →
          ∃ e ∈ before, e.command = .words ["git", "fetch", "origin", branch] ∧ e.Passed) ∧
      (∀ e, commands = .error e → done = [] ∧ outcome = .error e ∧ (perform v s filled x).2 = x ∧
        ∃ f, e = .failure f ∧ f.kind = .validation) ∧
      (action = .commit → (∀ m, Task.fillOption s.variables message = some m → Text.isBlankText m = true) →
        ∃ e, commands = .error e) := by
  intro filled outcome done commands
  have hfilled : filled.task = .git action (Task.fillOption s.variables message) (Task.fillOption s.variables base) :=
    congrArg (Task.fill s.variables) htask
  refine ⟨follows_perform v.follows_notingCommands s filled, ?_, ?_, ?_, ?_⟩
  · intro cs hcs
    exact stopsAtFailure_executed hfilled hcs v x
  · intro before branch result after hdone
    cases hcs : commands with
    | ok cs =>
      have hstops := stopsAtFailure_executed (s := s) hfilled hcs v x
      rw [show executed v s filled x = _ from hdone] at hstops
      exact hstops.fetch_of_reset (hcs ▸ Git.builds_commands _ _ _ _)
    | error e =>
      have hnone : done = [] := executed_of_refused hfilled hcs v x
      simp [hnone] at hdone
  · intro e he
    have hrefused := perform_of_refused (s := s) hfilled he v x
    exact ⟨executed_of_refused hfilled he v x, congrArg Prod.fst hrefused, congrArg Prod.snd hrefused,
      Git.isValidation_of_commands he⟩
  · rintro rfl hblank
    exact Git.exists_commands_eq_error _ _ hblank

end Execution

/-! ## A fetch that fails -/

/-- A runner whose processes all exit with the same code. -/
def Runner.exiting (code : Int) : Runner σ where
  execute _ _ _ := pure { exitCode := code }
  terminate := pure ()

/-- Collaborators of which there is none but a runner. -/
def Services.running (r : Runner σ) : Services σ := { Services.missing with runner := some r }

/-- A session with the name of a branch. -/
def Session.branching : Session := .holding [("branch", .text "develop")]

/-- Goes back to what others have of the branch. -/
def Step.syncing : Step := ⟨"sync", none, .git .sync none (some "{{branch}}")⟩

namespace Execution

/-- Where the fetch fails, nothing is reset, and the step does not succeed. -/
theorem nothing_is_reset_after_failed_fetch :
    (executed (.running (.exiting 128)) .branching (Step.syncing.fill Session.branching.variables) ()).map (·.command) =
        [.words ["git", "fetch", "origin", "develop"]] ∧
      ¬ ∃ o, (perform (.running (.exiting 128)) .branching (Step.syncing.fill Session.branching.variables) ()).1 =
        .ok o ∧ o.success = true := by
  have hdone : (executed (.running (.exiting 128)) .branching (Step.syncing.fill Session.branching.variables) ()).map
      (·.command) = [.words ["git", "fetch", "origin", "develop"]] := by
    decide +kernel
  have hcommands : Git.commands "sync" .sync none (Task.fillOption Session.branching.variables (some "{{branch}}")) =
      .ok [["git", "fetch", "origin", "develop"], ["git", "reset", "--hard", "origin/develop"]] := by
    rfl
  have htask : Step.syncing.task = .git .sync none (some "{{branch}}") := rfl
  have hstops := (git_stops_at_first_failure (.running (.exiting 128)) .branching htask ()).2.1 _ hcommands
  refine ⟨hdone, fun hsucceeds => ?_⟩
  have hall := (hstops.succeeds_iff.mp hsucceeds).1
  simp [hdone] at hall

end Execution

end Runbook
