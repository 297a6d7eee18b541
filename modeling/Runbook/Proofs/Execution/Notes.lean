import Mathlib.Tactic
import Runbook.Proofs.Execution.Perform

/-! Notes beside the world: what the collaborators do can be written down without a step taking any notice. -/

namespace Runbook

variable {σ ρ α β : Type}

namespace Act

/-- The operation in a world with notes beside it, of which it leaves the notes alone. -/
def beside (ρ : Type) (act : Act σ α) : Act (σ × ρ) α := act.within Prod.fst fun x p => (x, p.2)

/-- The operation with a note of how it ended behind the others. -/
def noting (note : Except Fault α → ρ) (act : Act σ α) : Act (σ × List ρ) α := fun p =>
  ((act p.1).1, (act p.1).2, p.2 ++ [note (act p.1).1])

/-- An operation with notes does the same to the world as another one, and ends alike. -/
def Follows (noted : Act (σ × ρ) α) (act : Act σ α) : Prop :=
  ∀ p, (noted p).1 = (act p.1).1 ∧ (noted p).2.1 = (act p.1).2

theorem follows_beside (act : Act σ α) : (act.beside ρ).Follows act := fun _ => ⟨rfl, rfl⟩

theorem follows_noting (note : Except Fault α → ρ) (act : Act σ α) : (act.noting note).Follows act :=
  fun _ => ⟨rfl, rfl⟩

theorem follows_ofExcept (r : Except Fault α) : (ofExcept r : Act (σ × ρ) α).Follows (ofExcept r) := by
  intro p
  rw [ofExcept_apply, ofExcept_apply]
  exact ⟨rfl, rfl⟩

theorem follows_return (a : α) : (pure a : Act (σ × ρ) α).Follows (pure a) := fun _ => ⟨rfl, rfl⟩

theorem follows_throw (e : Fault) : (throw e : Act (σ × ρ) α).Follows (throw e) := fun _ => ⟨rfl, rfl⟩

/-- The operation leaves the notes alone. -/
def NotesNothing (α : Type) (act : Act (σ × ρ) α) : Prop := Moves (fun p q => q.2 = p.2) α act

theorem closed_notesNothing : Closed (NotesNothing (σ := σ) (ρ := ρ)) :=
  closed_moves (R := fun p q : σ × ρ => q.2 = p.2) (fun _ => rfl) fun _ _ _ h h' => h'.trans h

theorem notesNothing_beside (act : Act σ α) : NotesNothing α (act.beside ρ) := fun _ => rfl

namespace Follows

variable {noted : Act (σ × ρ) α} {act : Act σ α}

theorem bind {next' : α → Act (σ × ρ) β} {next : α → Act σ β} (h : noted.Follows act)
    (hnext : ∀ a, (next' a).Follows (next a)) : (noted >>= next').Follows (act >>= next) := by
  intro p
  obtain ⟨hresult, hworld⟩ := h p
  rw [bind_apply, bind_apply, ← hresult, ← hworld]
  cases (noted p).1 with
  | ok a => exact hnext a (noted p).2
  | error e => exact ⟨rfl, rfl⟩

theorem reword (h : noted.Follows act) (f : Fault → Fault) : (noted.reword f).Follows (act.reword f) := by
  intro p
  obtain ⟨hresult, hworld⟩ := h p
  rw [reword_apply, reword_apply, hresult]
  exact ⟨rfl, hworld⟩

theorem observe (h : noted.Follows act) : noted.observe.Follows act.observe := by
  intro p
  obtain ⟨hresult, hworld⟩ := h p
  rw [observe_apply, observe_apply, hresult]
  exact ⟨rfl, hworld⟩

end Follows

end Act

/-! ## Collaborators with notes -/

/-- The commands do the same to the world. -/
def Runner.Follows (noted : Runner (σ × ρ)) (r : Runner σ) : Prop :=
  ∀ c dir t, (noted.execute c dir t).Follows (r.execute c dir t)

/-- The agents are at the same provider and give the same answers. -/
structure Agent.Follows (noted : Agent (σ × ρ)) (a : Agent σ) : Prop where
  provider : (Act.view noted.provider).Follows (Act.view a.provider)
  setProvider : ∀ p, (noted.setProvider p).Follows (a.setProvider p)
  chat : ∀ prompt, (noted.chat prompt).Follows (a.chat prompt)

/-- The hosting services do the same to the world. -/
structure Hosting.Follows (noted : Hosting (σ × ρ)) (h : Hosting σ) : Prop where
  create : ∀ d, (noted.create d).Follows (h.create d)
  latest : ∀ repo, (noted.latest repo).Follows (h.latest repo)
  merge : ∀ repo n, (noted.merge repo n).Follows (h.merge repo n)

namespace Services

/-- Collaborators with notes that do the same to the world as others, and with the same settings. -/
structure Follows (noted : Services (σ × ρ)) (v : Services σ) : Prop where
  runner : Option.Rel Runner.Follows noted.runner v.runner
  agent : Option.Rel Agent.Follows noted.agent v.agent
  hosting : Option.Rel Hosting.Follows noted.hosting v.hosting
  offerModel : ∀ model, (Act.change (noted.offerModel model)).Follows (Act.change (v.offerModel model))
  fileExists : ∀ dir file, (noted.fileExists dir file).Follows (v.fileExists dir file)
  workDir : noted.workDir = v.workDir
  shellTimeout : noted.shellTimeout = v.shellTimeout
  defaultRepo : noted.defaultRepo = v.defaultRepo

/-- The collaborators in a world with notes beside it, of which they know nothing. -/
def beside (ρ : Type) (v : Services σ) : Services (σ × ρ) where
  runner := v.runner.map fun r => {
    execute := fun c dir t => (r.execute c dir t).beside ρ
    terminate := r.terminate.beside ρ }
  agent := v.agent.map fun a => {
    provider := fun p => a.provider p.1
    setProvider := fun p => (a.setProvider p).beside ρ
    chat := fun prompt => (a.chat prompt).beside ρ }
  hosting := v.hosting.map fun h => {
    create := fun d => (h.create d).beside ρ
    latest := fun repo => (h.latest repo).beside ρ
    merge := fun repo n => (h.merge repo n).beside ρ }
  offerModel := fun model p => (v.offerModel model p.1, p.2)
  fileExists := fun dir file => (v.fileExists dir file).beside ρ
  workDir := v.workDir
  shellTimeout := v.shellTimeout
  defaultRepo := v.defaultRepo

theorem follows_beside (ρ : Type) (v : Services σ) : (v.beside ρ).Follows v where
  runner := by
    unfold beside
    cases v.runner with
    | none => exact .none
    | some r => exact .some fun _ _ _ => Act.follows_beside _
  agent := by
    unfold beside
    cases v.agent with
    | none => exact .none
    | some a => exact .some ⟨fun _ => ⟨rfl, rfl⟩, fun _ => Act.follows_beside _, fun _ => Act.follows_beside _⟩
  hosting := by
    unfold beside
    cases v.hosting with
    | none => exact .none
    | some h =>
      exact .some ⟨fun _ => Act.follows_beside _, fun _ => Act.follows_beside _, fun _ _ => Act.follows_beside _⟩
  offerModel _ _ := ⟨rfl, rfl⟩
  fileExists _ _ := Act.follows_beside _
  workDir := rfl
  shellTimeout := rfl
  defaultRepo := rfl

/-- Whatever leaves the notes alone has the property, and so have the collaborators. -/
theorem all_beside (v : Services σ) {K : (α : Type) → Act (σ × ρ) α → Prop}
    (hbeside : ∀ (α : Type) (act : Act σ α), K α (act.beside ρ)) : (v.beside ρ).All K where
  execute r hr c dir t := by
    obtain ⟨r, -, rfl⟩ := Option.map_eq_some_iff.mp hr
    exact hbeside _ _
  provider a ha := by
    obtain ⟨a, -, rfl⟩ := Option.map_eq_some_iff.mp ha
    exact hbeside _ (Act.view a.provider)
  setProvider a ha p := by
    obtain ⟨a, -, rfl⟩ := Option.map_eq_some_iff.mp ha
    exact hbeside _ _
  chat a ha prompt := by
    obtain ⟨a, -, rfl⟩ := Option.map_eq_some_iff.mp ha
    exact hbeside _ _
  create h hh d := by
    obtain ⟨h, -, rfl⟩ := Option.map_eq_some_iff.mp hh
    exact hbeside _ _
  latest h hh repo := by
    obtain ⟨h, -, rfl⟩ := Option.map_eq_some_iff.mp hh
    exact hbeside _ _
  merge h hh repo n := by
    obtain ⟨h, -, rfl⟩ := Option.map_eq_some_iff.mp hh
    exact hbeside _ _
  offerModel model := hbeside _ (Act.change (v.offerModel model))
  fileExists _ _ := hbeside _ _

end Services

/-! ## Steps with notes -/

namespace Execution

open Act

variable {noted : Services (σ × ρ)} {v : Services σ}

theorem follows_runCommand (h : noted.Follows v) (step label : String) (c : Command) (timeout : Option Binary64) :
    (runCommand noted step label c timeout).Follows (runCommand v step label c timeout) := by
  have hrunner := h.runner
  simp only [runCommand, h.workDir, h.shellTimeout]
  generalize noted.runner = mine, v.runner = theirs at hrunner ⊢
  cases hrunner with
  | none => exact follows_throw _
  | some hexecute => exact (hexecute _ _ _).reword _

theorem follows_shell (h : noted.Follows v) (step command : String) (timeout : Option Binary64) :
    (shell noted step command timeout).Follows (shell v step command timeout) :=
  (follows_runCommand h _ _ _ _).bind fun _ => follows_return _

theorem follows_runAll (h : noted.Follows v) (step : String) (commands : List (List String)) :
    (runAll noted step commands).Follows (runAll v step commands) := by
  induction commands with
  | nil => exact follows_return _
  | cons argv rest ih =>
    refine (follows_runCommand h _ _ _ _).bind fun r => ?_
    split_ifs
    · exact ih.bind fun _ => follows_return _
    · exact follows_return _

theorem follows_git (h : noted.Follows v) (step : String) (action : GitAction) (message base : Option String) :
    (git noted step action message base).Follows (git v step action message base) :=
  (follows_ofExcept _).bind fun _ => (follows_runAll h _ _).bind fun _ => follows_return _

theorem follows_chatAs (h : noted.Follows v) {a' : Agent (σ × ρ)} {a : Agent σ} (ha : a'.Follows a)
    (previous other : Provider) (step prompt : String) :
    (chatAs noted a' previous other step prompt).Follows (chatAs v a previous other step prompt) := by
  refine (ha.setProvider _).bind fun _ => (h.offerModel _).bind fun _ => ?_
  refine ((ha.chat _).reword _).observe.bind fun _ => (ha.setProvider _).bind fun _ => ?_
  exact follows_ofExcept _

theorem follows_aiPrompt (h : noted.Follows v) (step prompt : String) (model : Option String) :
    (aiPrompt noted step prompt model).Follows (aiPrompt v step prompt model) := by
  have hagent := h.agent
  unfold aiPrompt
  generalize noted.agent = mine, v.agent = theirs at hagent ⊢
  cases hagent with
  | none => exact follows_throw _
  | some ha =>
    refine ha.provider.bind fun previous => ?_
    dsimp only
    split_ifs
    · exact ((ha.chat _).reword _).bind fun _ => follows_return _
    · exact (follows_chatAs h ha _ _ _ _).bind fun _ => follows_return _

theorem follows_switchModel (h : noted.Follows v) (step : String) (model : Option String) :
    (switchModel noted step model).Follows (switchModel v step model) := by
  have hagent := h.agent
  simp only [switchModel, chooseModel]
  split_ifs
  · exact follows_throw _
  · generalize noted.agent = mine, v.agent = theirs at hagent ⊢
    cases hagent with
    | none => exact follows_throw _
    | some ha =>
      refine ha.provider.bind fun previous => (ha.setProvider _).bind fun _ => ?_
      exact (h.offerModel _).bind fun _ => follows_return _

theorem follows_currentBranch (h : noted.Follows v) (step : String) :
    (currentBranch noted step).Follows (currentBranch v step) := by
  refine (follows_runCommand h _ _ _ _).bind fun _ => ?_
  dsimp only
  split_ifs
  · exact follows_throw _
  · exact follows_return _

theorem follows_headOf (h : noted.Follows v) (step : String) (p : PullRequestStep) :
    (headOf noted step p).Follows (headOf v step p) := by
  unfold headOf
  cases p.head with
  | none => exact follows_currentBranch h step
  | some b =>
    dsimp only
    split_ifs
    · exact follows_currentBranch h step
    · exact follows_return _

theorem repoOf_eq (h : noted.Follows v) (step : String) (repo : Option String) :
    repoOf noted step repo = repoOf v step repo := by
  simp only [repoOf, h.defaultRepo]

section PullRequests

variable {host' : Hosting (σ × ρ)} {host : Hosting σ}

theorem follows_openPullRequest (h : noted.Follows v) (hhost : host'.Follows host) (step : String)
    (p : PullRequestStep) : (openPullRequest noted host' step p).Follows (openPullRequest v host step p) := by
  simp only [openPullRequest, createPullRequest, repoOf_eq h]
  split
  · exact follows_throw _
  · refine (follows_headOf h step p).bind fun head => (follows_ofExcept _).bind fun _ => ?_
    refine (follows_ofExcept _).bind fun _ => (follows_ofExcept _).bind fun _ => ?_
    exact ((hhost.create _).reword _).bind fun _ => follows_return _

theorem follows_reviewPullRequest (h : noted.Follows v) (hhost : host'.Follows host) (step : String)
    (p : PullRequestStep) : (reviewPullRequest noted host' step p).Follows (reviewPullRequest v host step p) := by
  simp only [reviewPullRequest, repoOf_eq h]
  refine (follows_ofExcept _).bind fun _ => ((hhost.latest _).reword _).bind fun found => ?_
  cases found <;> exact follows_return _

theorem follows_mergePullRequest (h : noted.Follows v) (hhost : host'.Follows host) (step : String)
    (p : PullRequestStep) : (mergePullRequest noted host' step p).Follows (mergePullRequest v host step p) := by
  simp only [mergePullRequest, repoOf_eq h]
  refine (follows_ofExcept _).bind fun _ => ((hhost.latest _).reword _).bind fun found => ?_
  cases found with
  | none => exact follows_return _
  | some pr =>
    refine ((hhost.merge _ _).reword _).bind fun payload => ?_
    split_ifs
    · exact follows_throw _
    · exact follows_return _

theorem follows_pullRequest (h : noted.Follows v) (step : String) (p : PullRequestStep) :
    (pullRequest noted step p).Follows (pullRequest v step p) := by
  have hhosting := h.hosting
  unfold pullRequest
  generalize noted.hosting = mine, v.hosting = theirs at hhosting ⊢
  cases hhosting with
  | none => exact follows_throw _
  | some hhost =>
    cases p.action with
    | create => exact follows_openPullRequest h hhost step p
    | review => exact follows_reviewPullRequest h hhost step p
    | merge => exact follows_mergePullRequest h hhost step p

end PullRequests

/-- A step does the same, whatever notes are taken of what the collaborators do. -/
theorem follows_perform (h : noted.Follows v) (s : Session) (step : Step) :
    (perform noted s step).Follows (perform v s step) := by
  unfold perform
  cases step.task with
  | switchModel model => exact follows_switchModel h _ _
  | conditional check onTrue onFalse => exact follows_ofExcept _
  | loop target condition bound => exact follows_ofExcept _
  | interactive q => exact follows_return _
  | shell command timeout => exact follows_shell h _ _ _
  | git action message base => exact follows_git h _ _ _ _
  | aiPrompt prompt model => exact follows_aiPrompt h _ _ _
  | pullRequest p => exact follows_pullRequest h _ _
  | fileExists file =>
    refine Follows.bind ?_ fun _ => follows_return _
    rw [h.workDir]
    exact h.fileExists _ _

end Execution

end Runbook
