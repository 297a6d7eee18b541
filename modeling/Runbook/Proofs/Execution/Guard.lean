import Runbook.Execution.Engine
import Runbook.Proofs.Naming

/-! Guarded collaborators: calls in which a branch has no name that is let pass do not reach them, and something else is
done instead. No step makes such a call, so steps do the same under every guard. -/

namespace Runbook

open Naming

variable {σ : Type}

/-- A command of a step: a line for the shell, or words for git of which those that name a branch are let pass. -/
inductive Command.IsOrderly : Command → Prop where
  | line (text : String) : IsOrderly (.line text)
  | commit (message : String) : IsOrderly (.words ["git", "commit", "-m", message])
  | push : IsOrderly (.words ["git", "push"])
  | pull : IsOrderly (.words ["git", "pull"])
  | current : IsOrderly (.words ["git", "rev-parse", "--abbrev-ref", "HEAD"])
  | fetch {branch : String} (h : IsLetPass branch) : IsOrderly (.words ["git", "fetch", "origin", branch])
  | reset {branch : String} (h : IsLetPass branch) :
      IsOrderly (.words ["git", "reset", "--hard", "origin/" ++ branch])

/-- A pull request between branches with names that are let pass. -/
def PullRequestDraft.IsOrderly (d : PullRequestDraft) : Prop := IsLetPass d.head ∧ IsLetPass d.base

/-- What is done instead of the calls that are not let through. -/
structure Detour (σ : Type) where
  execute : Command → Option String → Binary64 → Act σ ProcessResult
  create : PullRequestDraft → Act σ PullRequest

open Classical in
noncomputable def Runner.guarded (r : Runner σ) (d : Detour σ) : Runner σ where
  execute c dir timeout := if c.IsOrderly then r.execute c dir timeout else d.execute c dir timeout
  terminate := r.terminate

open Classical in
noncomputable def Hosting.guarded (h : Hosting σ) (d : Detour σ) : Hosting σ where
  create draft := if draft.IsOrderly then h.create draft else d.create draft
  latest := h.latest
  merge := h.merge

/-- The collaborators behind a guard. -/
noncomputable def Services.guarded (v : Services σ) (d : Detour σ) : Services σ :=
  { v with
    runner := v.runner.map (·.guarded d)
    hosting := v.hosting.map (·.guarded d) }

namespace Execution

variable {v : Services σ} {h : Hosting σ} {d : Detour σ}

theorem checkBranchName_cases (step branch : String) :
    IsLetPass branch ∧ checkBranchName step branch = .ok () ∨
      ¬ IsLetPass branch ∧
        checkBranchName step branch = .error (refusal step ("Invalid branch name: " ++ Text.quoted branch) []) := by
  unfold checkBranchName
  rw [← isSafeBranch_iff]
  by_cases hsafe : isSafeBranch branch = true
  · exact .inl ⟨hsafe, if_pos hsafe⟩
  · exact .inr ⟨hsafe, if_neg hsafe⟩

/-! ## Commands -/

theorem runCommand_guarded (step label : String) {c : Command} (hc : c.IsOrderly) (timeout : Option Binary64) :
    runCommand (v.guarded d) step label c timeout = runCommand v step label c timeout := by
  unfold runCommand Services.guarded
  cases hrunner : v.runner with
  | none => simp
  | some r => simp [Runner.guarded, hc]

theorem runAll_guarded (step : String) {commands : List (List String)}
    (hall : ∀ argv ∈ commands, (Command.words argv).IsOrderly) :
    runAll (v.guarded d) step commands = runAll v step commands := by
  induction commands with
  | nil => rfl
  | cons argv rest ih =>
    rw [runAll, runAll, runCommand_guarded step _ (hall argv List.mem_cons_self),
      ih fun argv h => hall argv (List.mem_cons_of_mem _ h)]

/-- The commands of a git step are orderly. -/
theorem isOrderly_of_commands {step : String} {action : GitAction} {message base : Option String}
    {commands : List (List String)} (h : Git.commands step action message base = .ok commands) :
    ∀ argv ∈ commands, (Command.words argv).IsOrderly := by
  cases action with
  | commit =>
    cases message with
    | none => cases h
    | some m =>
      rw [Git.commands] at h
      split_ifs at h
      obtain rfl := Except.ok.inj h
      simpa using Command.IsOrderly.commit m
  | push =>
    obtain rfl := Except.ok.inj h
    simpa using Command.IsOrderly.push
  | pull =>
    obtain rfl := Except.ok.inj h
    simpa using Command.IsOrderly.pull
  | sync =>
    rw [Git.commands] at h
    split_ifs at h with hsafe
    obtain rfl := Except.ok.inj h
    have hpass := (isSafeBranch_iff _).mp hsafe
    simpa using ⟨Command.IsOrderly.fetch hpass, Command.IsOrderly.reset hpass⟩

theorem git_guarded (step : String) (action : GitAction) (message base : Option String) :
    git (v.guarded d) step action message base = git v step action message base := by
  unfold git
  cases hcommands : Git.commands step action message base with
  | error e => rfl
  | ok commands =>
    have hrun := runAll_guarded (v := v) (d := d) step (isOrderly_of_commands hcommands)
    simp only [Act.ofExcept, pure_bind, hrun]

/-! ## Pull requests -/

theorem currentBranch_guarded (step : String) : currentBranch (v.guarded d) step = currentBranch v step := by
  unfold currentBranch
  rw [runCommand_guarded step _ .current]

theorem headOf_guarded (step : String) (p : PullRequestStep) : headOf (v.guarded d) step p = headOf v step p := by
  unfold headOf
  rw [currentBranch_guarded]

theorem create_guarded {draft : PullRequestDraft} (hdraft : draft.IsOrderly) :
    (h.guarded d).create draft = h.create draft := if_pos hdraft

theorem createPullRequest_guarded (step : String) (p : PullRequestStep) (title head : String) :
    createPullRequest (v.guarded d) (h.guarded d) step p title head = createPullRequest v h step p title head := by
  unfold createPullRequest
  dsimp only
  rcases checkBranchName_cases step head with ⟨hhead, hcheck⟩ | ⟨-, hcheck⟩
  · rcases checkBranchName_cases step (Git.given p.base defaultPullRequestBase) with ⟨hbase, hcheck'⟩ | ⟨-, hcheck'⟩
    · have hdraft (repo : String) : PullRequestDraft.IsOrderly
          ⟨repo, title, head, Git.given p.base defaultPullRequestBase, p.body.getD ""⟩ := ⟨hhead, hbase⟩
      simp only [create_guarded (hdraft _)]
      rfl
    · rw [hcheck, hcheck']
      rfl
  · rw [hcheck]
    rfl

theorem pullRequest_guarded (step : String) (p : PullRequestStep) :
    pullRequest (v.guarded d) step p = pullRequest v step p := by
  unfold pullRequest
  cases hhosting : v.hosting with
  | none => simp [Services.guarded, hhosting]
  | some h =>
    have hguarded : (v.guarded d).hosting = some (h.guarded d) := by simp [Services.guarded, hhosting]
    rw [hguarded]
    dsimp only
    cases p.action with
    | create =>
      dsimp only
      unfold openPullRequest
      simp only [headOf_guarded, createPullRequest_guarded]
    | review => rfl
    | merge => rfl

/-! ## Steps -/

/-- A step does the same behind a guard, whatever is done instead of the calls that this does not let through. -/
theorem perform_guarded (v : Services σ) (d : Detour σ) (s : Session) (step : Step) :
    perform (v.guarded d) s step = perform v s step := by
  unfold perform
  cases step.task with
  | shell command timeout =>
    dsimp only
    unfold shell
    rw [runCommand_guarded step.id _ (.line command)]
  | git action message base => exact git_guarded step.id action message base
  | pullRequest p => exact pullRequest_guarded step.id p
  | _ => rfl

/-! ## Refusals -/

/-- The step is refused as invalid. -/
def IsRefusal (step : String) (e : Fault) : Prop :=
  ∃ f : Failure, e = .failure f ∧ f.kind = .validation ∧ f.context.step = some step

theorem isRefusal_refusal (step message : String) (hints : List String) :
    IsRefusal step (refusal step message hints) := ⟨_, rfl, rfl, rfl⟩

/-- A sync onto another branch is refused, and no command is run. -/
theorem perform_sync_refused (s : Session) {step : Step} {message base : Option String}
    (htask : step.task = .git .sync message base) (hbase : ¬ IsLetPass (Git.given base Git.defaultBase)) (x : σ) :
    ∃ e, IsRefusal step.id e ∧ perform v s step x = (.error e, x) := by
  have hunsafe : ¬ isSafeBranch (Git.given base Git.defaultBase) = true := fun h => hbase ((isSafeBranch_iff _).mp h)
  have hcommands : ∃ e, IsRefusal step.id e ∧ Git.commands step.id .sync message base = .error e :=
    ⟨_, isRefusal_refusal _ _ _, if_neg hunsafe⟩
  obtain ⟨e, he, hcommands⟩ := hcommands
  refine ⟨e, he, ?_⟩
  have hgit : git v step.id .sync message base x = (.error e, x) := by
    unfold git
    exact Act.bind_error (by rw [hcommands, Act.ofExcept_apply]) _
  rw [perform, htask]
  exact hgit

/-- A pull request from or to another branch is refused as soon as its branches are known, or before for its title. -/
theorem perform_create_refused (s : Session) {step : Step} {p : PullRequestStep} (htask : step.task = .pullRequest p)
    (haction : p.action = .create) (hhosting : v.hosting = some h) {x y : σ} {head : String}
    (hhead : headOf v step.id p x = (.ok head, y))
    (hbranch : ¬ IsLetPass head ∨ ¬ IsLetPass (Git.given p.base defaultPullRequestBase)) :
    ∃ e z, IsRefusal step.id e ∧ (z = x ∨ z = y) ∧ perform v s step x = (.error e, z) := by
  have hperform : perform v s step = openPullRequest v h step.id p := by
    rw [perform, htask]
    dsimp only
    rw [pullRequest, hhosting]
    dsimp only
    rw [haction]
  rw [hperform, openPullRequest]
  by_cases htitle : (!isValidTitle (p.title.getD "")) = true
  · rw [if_pos htitle]
    exact ⟨_, x, isRefusal_refusal _ _ _, .inl rfl, rfl⟩
  · rw [if_neg htitle, Act.bind_ok hhead]
    unfold createPullRequest
    rcases checkBranchName_cases step.id head with ⟨hpass, hcheck⟩ | ⟨-, hcheck⟩
    · rcases checkBranchName_cases step.id (Git.given p.base defaultPullRequestBase) with ⟨hpass', -⟩ | ⟨-, hcheck'⟩
      · exact absurd hbranch (by simp [hpass, hpass'])
      · rw [hcheck, hcheck']
        exact ⟨_, y, isRefusal_refusal _ _ _, .inr rfl, rfl⟩
    · rw [hcheck]
      exact ⟨_, y, isRefusal_refusal _ _ _, .inr rfl, rfl⟩

end Execution

end Runbook
