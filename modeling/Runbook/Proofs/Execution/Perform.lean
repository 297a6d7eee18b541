import Runbook.Execution.Perform
import Runbook.Proofs.Value.Bindings
import Runbook.Workflow.Fill

/-! What holds of all that the collaborators do holds of every step, since steps are made of nothing else. -/

namespace Runbook

variable {σ : Type}

namespace Fault

variable {α β : Type} {Q : Fault → Prop}

/-- The result is no fault but one with the property. -/
def Only (Q : Fault → Prop) (r : Except Fault α) : Prop := ∀ e, r = .error e → Q e

theorem only_ok (a : α) : Only Q (.ok a : Except Fault α) := fun _ h => nomatch h

theorem only_error {e : Fault} (he : Q e) : Only Q (.error e : Except Fault α) :=
  fun _ h => Except.error.inj h ▸ he

theorem Only.map {r : Except Fault α} (h : Only Q r) (f : α → β) : Only Q (r.map f) := by
  cases r with
  | ok a => exact only_ok _
  | error e => exact only_error (h e rfl)

theorem Only.bind {r : Except Fault α} {f : α → Except Fault β} (h : Only Q r) (hf : ∀ a, Only Q (f a)) :
    Only Q (r >>= f) := by
  cases r with
  | ok a => exact hf a
  | error e => exact only_error (h e rfl)

/-- A fault that steps end with by themselves: the step failed or was refused, or something else came to
pass than a failure. -/
def IsOfStep : Fault → Prop
  | .failure f => f.kind = .execution ∨ f.kind = .validation
  | _ => True

end Fault

namespace Act

/-- A property of operations that is handed on to the operations that steps make of them. -/
structure Closed (K : (α : Type) → Act σ α → Prop) : Prop where
  result : ∀ {α : Type} (r : Except Fault α), Fault.Only Fault.IsOfStep r → K α (ofExcept r)
  bind : ∀ {α β : Type} {act : Act σ α} {f : α → Act σ β}, K α act → (∀ a, K β (f a)) → K β (act >>= f)
  reword : ∀ {α : Type} {act : Act σ α} {f : Fault → Fault}, (∀ e, f e = e ∨ (f e).IsOfStep) → K α act →
    K α (act.reword f)
  always : ∀ {α : Type} {act : Act σ α} {after : Act σ Unit}, K α act → K Unit after →
    K α (do let r ← act.observe; after; ofExcept r)

namespace Closed

variable {K : (α : Type) → Act σ α → Prop} {α : Type}

theorem return_ (hK : Closed K) (a : α) : K α (pure a) := hK.result (.ok a) (Fault.only_ok a)

theorem throw_ (hK : Closed K) {e : Fault} (he : e.IsOfStep) : K α (throw e) :=
  hK.result (.error e) (Fault.only_error he)

end Closed

/-- The operation moves every world to one that it is related to. -/
def Moves (R : σ → σ → Prop) (α : Type) (act : Act σ α) : Prop := ∀ x, R x (act x).2

/-- The operation does the same in related worlds, and leaves them related. -/
def Respects (S : σ → σ → Prop) (α : Type) (act : Act σ α) : Prop :=
  ∀ x y, S x y → (act x).1 = (act y).1 ∧ S (act x).2 (act y).2

theorem always_apply {α : Type} (act : Act σ α) (after : Act σ Unit) (x : σ) :
    (do let r ← act.observe; after; ofExcept r : Act σ α) x =
      match (after (act x).2).1 with
      | .ok () => ((act x).1, (after (act x).2).2)
      | .error e => (.error e, (after (act x).2).2) := by
  rw [bind_ok (observe_apply act x), bind_apply]
  cases (after (act x).2).1 with
  | ok u => exact ofExcept_apply _ _
  | error e => rfl

theorem closed_moves {R : σ → σ → Prop} (hrefl : ∀ x, R x x) (htrans : ∀ x y z, R x y → R y z → R x z) :
    Closed (Moves R) where
  result r _ x := by
    rw [ofExcept_apply]
    exact hrefl x
  bind {_ _ act f} hact hf x := by
    rw [bind_apply]
    cases h : (act x).1 with
    | ok a => exact htrans _ _ _ (hact x) (hf a (act x).2)
    | error e => exact hact x
  reword _ hact x := by
    rw [reword_apply]
    exact hact x
  always {_ act after} hact hafter x := by
    have hboth := htrans _ _ _ (hact x) (hafter (act x).2)
    rw [always_apply]
    cases (after (act x).2).1 <;> exact hboth

theorem closed_respects (S : σ → σ → Prop) : Closed (Respects S) where
  result r _ x y h := by
    rw [ofExcept_apply, ofExcept_apply]
    exact ⟨rfl, h⟩
  bind {_ _ act f} hact hf x y h := by
    obtain ⟨hresult, hworld⟩ := hact x y h
    rw [bind_apply, bind_apply, ← hresult]
    cases hx : (act x).1 with
    | ok a => exact hf a _ _ hworld
    | error e => exact ⟨rfl, hworld⟩
  reword _ hact x y h := by
    obtain ⟨hresult, hworld⟩ := hact x y h
    rw [reword_apply, reword_apply, hresult]
    exact ⟨rfl, hworld⟩
  always {_ act after} hact hafter x y h := by
    obtain ⟨hresult, hworld⟩ := hact x y h
    obtain ⟨hlast, hend⟩ := hafter _ _ hworld
    rw [always_apply, always_apply, ← hlast, hresult]
    cases (after (act x).2).1 <;> exact ⟨rfl, hend⟩

/-- Every fault with which the operation ends has the property. -/
def Raises (Q : Fault → Prop) (α : Type) (act : Act σ α) : Prop := ∀ x, Fault.Only Q (act x).1

theorem closed_raises {Q : Fault → Prop} (hown : ∀ e : Fault, e.IsOfStep → Q e) :
    Closed (Raises (σ := σ) Q) where
  result r hr x e he := by
    rw [ofExcept_apply] at he
    exact hown e (hr e he)
  bind {_ _ act f} hact hf x e he := by
    rw [bind_apply] at he
    cases hx : (act x).1 with
    | ok a =>
      rw [hx] at he
      exact hf a _ e he
    | error e' =>
      rw [hx] at he
      exact hact x e (hx.trans (congrArg Except.error (Except.error.inj he)))
  reword {_ act f} hf hact x e he := by
    rw [reword_apply] at he
    cases hx : (act x).1 with
    | ok a =>
      rw [hx] at he
      cases he
    | error e' =>
      rw [hx] at he
      obtain rfl := Except.error.inj he
      rcases hf e' with hsame | hstep
      · rw [hsame]
        exact hact x e' hx
      · exact hown _ hstep
  always {_ act after} hact hafter x e he := by
    rw [always_apply] at he
    cases hlast : (after (act x).2).1 with
    | ok u =>
      rw [hlast] at he
      exact hact x e he
    | error e' =>
      rw [hlast] at he
      exact hafter _ e (hlast.trans (congrArg Except.error (Except.error.inj he)))

end Act

/-- Whatever the collaborators do has the property. -/
structure Services.All (v : Services σ) (K : (α : Type) → Act σ α → Prop) : Prop where
  execute : ∀ r, v.runner = some r → ∀ c dir t, K ProcessResult (r.execute c dir t)
  provider : ∀ a, v.agent = some a → K Provider (Act.view a.provider)
  setProvider : ∀ a, v.agent = some a → ∀ p, K Unit (a.setProvider p)
  chat : ∀ a, v.agent = some a → ∀ prompt, K String (a.chat prompt)
  create : ∀ h, v.hosting = some h → ∀ d, K PullRequest (h.create d)
  latest : ∀ h, v.hosting = some h → ∀ repo, K (Option PullRequest) (h.latest repo)
  merge : ∀ h, v.hosting = some h → ∀ repo n, K Value (h.merge repo n)
  offerModel : ∀ model, K Unit (Act.change (v.offerModel model))
  fileExists : ∀ dir file, K Bool (v.fileExists dir file)

/-- Collaborators of which there is none. -/
def Services.missing : Services σ where
  runner := none
  agent := none
  hosting := none
  offerModel _ x := x
  fileExists _ _ := pure false
  shellTimeout := .nan

/-- A session that has variables and no history. -/
def Session.holding (b : Bindings) : Session where
  name := "demo"
  id := "s"
  currentStep := none
  «variables» := b
  createdAt := "t"
  updatedAt := "t"

/-! ## Faults that steps end with by themselves -/

namespace Condition

open Fault

theorem only_number? (v : Value) : Only IsOfStep (number? v) := by
  unfold number?
  split
  · exact only_ok _
  · split
    · exact only_ok _
    · exact only_error trivial
  all_goals exact only_ok _

theorem only_numbers? (left right : Value) : Only IsOfStep (numbers? left right) := by
  unfold numbers?
  split
  · rename_i e he
    exact only_error (only_number? left e he)
  · rename_i e he _
    exact only_error (only_number? right e he)
  all_goals exact only_ok _

theorem only_comparedText (v : Value) : Only IsOfStep (comparedText v) := by
  unfold comparedText
  split
  · exact only_ok _
  · exact only_ok _
  · split <;> exact only_ok _
  · split
    · exact only_ok _
    · exact only_error trivial

theorem only_looselyEqual (left right : Value) : Only IsOfStep (looselyEqual left right) := by
  unfold looselyEqual
  split
  · rename_i e he
    exact only_error (only_numbers? left right e he)
  · exact only_ok _
  · exact (only_comparedText left).bind fun _ => (only_comparedText right).bind fun _ => only_ok _

theorem only_ordered (test : Binary64 → Binary64 → Bool) (left right : Value) :
    Only IsOfStep (ordered test left right) := by
  unfold ordered
  split
  · rename_i e he
    exact only_error (only_numbers? left right e he)
  all_goals exact only_ok _

theorem only_compareValues (op : Comparison) (left right : Value) :
    Only IsOfStep (compareValues op left right) := by
  cases op with
  | equal => exact only_looselyEqual _ _
  | notEqual => exact (only_looselyEqual _ _).map _
  | _ => exact only_ordered _ _ _

theorem only_barHolds (test : BarTest) (v : Option Value) (arg : String) :
    Only IsOfStep (barHolds test v arg) := by
  unfold barHolds
  split
  · exact only_ok _
  · cases test with
    | equals => exact only_looselyEqual _ _
    | contains => exact only_ok _
    | greaterThan => exact only_compareValues _ _ _
    | lessThan => exact only_compareValues _ _ _

/-- A condition that cannot be evaluated is no failure. -/
theorem only_evaluate (text : String) (b : Bindings) : Only IsOfStep (evaluate text b) := by
  unfold evaluate
  cases read text with
  | bar test name arg => exact only_barHolds _ _ _
  | compare op left right => exact only_compareValues _ _ _
  | _ => exact only_ok _

end Condition

namespace Execution

open Fault

theorem only_conditional (s : Session) (check onTrue : String) (onFalse : Option String) :
    Only IsOfStep (conditional s check onTrue onFalse) :=
  (Condition.only_evaluate _ _).bind fun _ => only_ok _

theorem only_loop (s : Session) (target condition : String) : Only IsOfStep (loop s target condition) :=
  (Condition.only_evaluate _ _).bind fun _ => only_ok _

theorem only_commands (step : String) (action : GitAction) (message base : Option String) :
    Only IsOfStep (Git.commands step action message base) := by
  unfold Git.commands
  split
  · split
    · exact only_error (.inr rfl)
    · split
      · exact only_error (.inr rfl)
      · exact only_ok _
  · exact only_ok _
  · exact only_ok _
  · dsimp only
    split
    · exact only_ok _
    · exact only_error (.inr rfl)

theorem only_checkBranchName (step branch : String) : Only IsOfStep (checkBranchName step branch) := by
  unfold checkBranchName
  split
  · exact only_ok _
  · exact only_error (.inr rfl)

theorem only_repoOf (v : Services σ) (step : String) (repo : Option String) :
    Only IsOfStep (repoOf v step repo) := by
  unfold repoOf
  split
  · split
    · exact only_error (.inr rfl)
    · exact only_ok _
  · exact only_error (.inr rfl)

/-! Rewordings of the collaborators' faults. -/

theorem commandFault_cases (step label : String) (c : Command) (timeout : Binary64) (e : Fault) :
    commandFault step label c timeout e = e ∨ (commandFault step label c timeout e).IsOfStep := by
  unfold commandFault
  split
  · split
    · exact .inr (.inl rfl)
    · split
      · exact .inr (.inl rfl)
      · exact .inl rfl
  · exact .inl rfl

theorem agentFault_cases (step : String) (e : Fault) :
    agentFault step e = e ∨ (agentFault step e).IsOfStep := by
  unfold agentFault
  split
  · split
    · exact .inr (.inl rfl)
    · split
      · exact .inr (.inl rfl)
      · exact .inl rfl
  · exact .inl rfl

theorem hostingFault_cases (step : String) (action : PullRequestAction) (e : Fault) :
    hostingFault step action e = e ∨ (hostingFault step action e).IsOfStep := by
  unfold hostingFault
  split
  · split
    · exact .inr (.inl rfl)
    · split
      · exact .inr (.inl rfl)
      · exact .inl rfl
  · exact .inl rfl

end Execution

/-! ## Whole steps -/

namespace Execution

variable {v : Services σ} {K : (α : Type) → Act σ α → Prop}

theorem runCommand_all (hK : Act.Closed K) (hv : v.All K) (step label : String) (c : Command)
    (timeout : Option Binary64) : K ProcessResult (runCommand v step label c timeout) := by
  unfold runCommand
  split
  · exact hK.throw_ (.inl rfl)
  · rename_i r hr
    exact hK.reword (commandFault_cases _ _ _ _) (hv.execute r hr _ _ _)

theorem shell_all (hK : Act.Closed K) (hv : v.All K) (step command : String)
    (timeout : Option Binary64) : K Outcome (shell v step command timeout) :=
  hK.bind (runCommand_all hK hv _ _ _ _) fun _ => hK.return_ _

/-- Commands are left to the runner alone. -/
theorem runAll_congr {w : Services σ} (hrunner : v.runner = w.runner) (hdir : v.workDir = w.workDir)
    (htimeout : v.shellTimeout = w.shellTimeout) (step : String) (commands : List (List String)) :
    runAll v step commands = runAll w step commands := by
  induction commands with
  | nil => rfl
  | cons argv rest ih => simp only [runAll, runCommand, hrunner, hdir, htimeout, ih]

theorem runAll_all (hK : Act.Closed K) (hv : v.All K) (step : String) (commands : List (List String)) :
    K (List ProcessResult) (runAll v step commands) := by
  induction commands with
  | nil => exact hK.return_ _
  | cons argv rest ih =>
    refine hK.bind (runCommand_all hK hv _ _ _ _) fun r => ?_
    split
    · exact hK.bind ih fun _ => hK.return_ _
    · exact hK.return_ _

theorem git_all (hK : Act.Closed K) (hv : v.All K) (step : String) (action : GitAction)
    (message base : Option String) : K Outcome (git v step action message base) :=
  hK.bind (hK.result _ (only_commands _ _ _ _)) fun _ => hK.bind (runAll_all hK hv _ _) fun _ => hK.return_ _

theorem chatAs_all (hK : Act.Closed K) (hv : v.All K) {a : Agent σ} (ha : v.agent = some a)
    (previous other : Provider) (step prompt : String) :
    K String (chatAs v a previous other step prompt) := by
  refine hK.bind (hv.setProvider a ha other) fun _ => hK.bind (hv.offerModel _) fun _ => ?_
  exact hK.always (hK.reword (agentFault_cases step) (hv.chat a ha prompt)) (hv.setProvider a ha previous)

theorem aiPrompt_all (hK : Act.Closed K) (hv : v.All K) (step prompt : String) (model : Option String) :
    K Outcome (aiPrompt v step prompt model) := by
  unfold aiPrompt
  split
  · exact hK.throw_ (.inl rfl)
  · rename_i a ha
    refine hK.bind (hv.provider a ha) fun previous => ?_
    dsimp only
    split
    · exact hK.bind (hK.reword (agentFault_cases step) (hv.chat a ha prompt)) fun _ => hK.return_ _
    · exact hK.bind (chatAs_all hK hv ha _ _ _ _) fun _ => hK.return_ _

theorem switchModel_all (hK : Act.Closed K) (hv : v.All K) (step : String) (model : Option String) :
    K Outcome (switchModel v step model) := by
  unfold switchModel
  dsimp only
  split
  · exact hK.throw_ (.inr rfl)
  · unfold chooseModel
    split
    · exact hK.throw_ (.inl rfl)
    · rename_i a ha
      refine hK.bind (hv.provider a ha) fun previous => hK.bind (hv.setProvider a ha _) fun _ => ?_
      exact hK.bind (hv.offerModel _) fun _ => hK.return_ _

theorem currentBranch_all (hK : Act.Closed K) (hv : v.All K) (step : String) :
    K String (currentBranch v step) := by
  refine hK.bind (runCommand_all hK hv _ _ _ _) fun _ => ?_
  dsimp only
  split
  · exact hK.throw_ (.inl rfl)
  · exact hK.return_ _

theorem headOf_all (hK : Act.Closed K) (hv : v.All K) (step : String) (p : PullRequestStep) :
    K String (headOf v step p) := by
  unfold headOf
  split
  · split
    · exact currentBranch_all hK hv step
    · exact hK.return_ _
  · exact currentBranch_all hK hv step

theorem openPullRequest_all (hK : Act.Closed K) (hv : v.All K) {h : Hosting σ} (hh : v.hosting = some h)
    (step : String) (p : PullRequestStep) : K Outcome (openPullRequest v h step p) := by
  unfold openPullRequest
  dsimp only
  split
  · exact hK.throw_ (.inr rfl)
  · refine hK.bind (headOf_all hK hv step p) fun head => ?_
    refine hK.bind (hK.result _ (only_checkBranchName _ _)) fun _ => ?_
    refine hK.bind (hK.result _ (only_checkBranchName _ _)) fun _ => ?_
    refine hK.bind (hK.result _ (only_repoOf v _ _)) fun _ => ?_
    exact hK.bind (hK.reword (hostingFault_cases _ _) (hv.create h hh _)) fun _ => hK.return_ _

theorem reviewPullRequest_all (hK : Act.Closed K) (hv : v.All K) {h : Hosting σ} (hh : v.hosting = some h)
    (step : String) (p : PullRequestStep) : K Outcome (reviewPullRequest v h step p) := by
  refine hK.bind (hK.result _ (only_repoOf v _ _)) fun _ => ?_
  refine hK.bind (hK.reword (hostingFault_cases _ _) (hv.latest h hh _)) fun found => ?_
  cases found <;> exact hK.return_ _

theorem mergePullRequest_all (hK : Act.Closed K) (hv : v.All K) {h : Hosting σ} (hh : v.hosting = some h)
    (step : String) (p : PullRequestStep) : K Outcome (mergePullRequest v h step p) := by
  refine hK.bind (hK.result _ (only_repoOf v _ _)) fun _ => ?_
  refine hK.bind (hK.reword (hostingFault_cases _ _) (hv.latest h hh _)) fun found => ?_
  cases found with
  | none => exact hK.return_ _
  | some pr =>
    refine hK.bind (hK.reword (hostingFault_cases _ _) (hv.merge h hh _ _)) fun payload => ?_
    dsimp only
    split
    · exact hK.throw_ trivial
    · exact hK.return_ _

theorem pullRequest_all (hK : Act.Closed K) (hv : v.All K) (step : String) (p : PullRequestStep) :
    K Outcome (pullRequest v step p) := by
  unfold pullRequest
  split
  · exact hK.throw_ (.inl rfl)
  · rename_i h hh
    split
    · exact openPullRequest_all hK hv hh step p
    · exact reviewPullRequest_all hK hv hh step p
    · exact mergePullRequest_all hK hv hh step p

/-- A step does nothing but what the collaborators do. -/
theorem perform_all (hK : Act.Closed K) (hv : v.All K) (s : Session) (step : Step) :
    K Outcome (perform v s step) := by
  unfold perform
  split
  · exact switchModel_all hK hv _ _
  · exact hK.result _ (only_conditional _ _ _ _)
  · exact hK.result _ (only_loop _ _ _)
  · exact hK.return_ _
  · exact shell_all hK hv _ _ _
  · exact git_all hK hv _ _ _ _
  · exact aiPrompt_all hK hv _ _ _
  · exact pullRequest_all hK hv _ _
  · exact hK.bind (hv.fileExists _ _) fun _ => hK.return_ _

end Execution

/-! ## Outcomes -/

namespace Act

variable {α β : Type}

/-- Every result of the operation has the property. -/
def Ensures (Q : α → Prop) (act : Act σ α) : Prop := ∀ x a, (act x).1 = .ok a → Q a

theorem ensures_return {Q : α → Prop} {a : α} (h : Q a) : Ensures Q (pure a : Act σ α) := by
  intro x b hb
  rwa [← Except.ok.inj hb]

theorem ensures_throw {Q : α → Prop} (e : Fault) : Ensures Q (throw e : Act σ α) := by
  intro x a h
  cases h

theorem ensures_bind {Q : β → Prop} {act : Act σ α} {f : α → Act σ β} (h : ∀ a, Ensures Q (f a)) :
    Ensures Q (act >>= f) := by
  intro x b hb
  rw [bind_apply] at hb
  split at hb
  · exact h _ _ _ hb
  · cases hb

end Act

namespace Outcome

/-- The outcome leads to the step after it, and asks nothing. -/
def IsPlain (o : Outcome) : Prop :=
  o.nextStep = none ∧ o.request = none ∧ "waitingForInput" ∉ Bindings.names o.output

end Outcome

namespace Task

/-- The task decides where the session goes, or asks a question. -/
def isFlow : Task → Bool
  | .conditional .. => true
  | .loop .. => true
  | .interactive _ => true
  | _ => false

@[simp] theorem isFlow_fill (b : Bindings) (t : Task) : (t.fill b).isFlow = t.isFlow := by
  cases t <;> rfl

end Task

namespace Execution

open Act

variable (v : Services σ)

theorem plain_shell (step command : String) (timeout : Option Binary64) :
    Ensures Outcome.IsPlain (shell v step command timeout) :=
  ensures_bind fun _ => ensures_return ⟨rfl, rfl, by simp [Bindings.names]⟩

theorem plain_git (step : String) (action : GitAction) (message base : Option String) :
    Ensures Outcome.IsPlain (git v step action message base) :=
  ensures_bind fun _ => ensures_bind fun _ => ensures_return ⟨rfl, rfl, by simp [Bindings.names, gitOutcome]⟩

theorem plain_switchModel (step : String) (model : Option String) :
    Ensures Outcome.IsPlain (switchModel v step model) := by
  unfold switchModel
  dsimp only
  split
  · exact ensures_throw _
  · unfold chooseModel
    split
    · exact ensures_throw _
    · refine ensures_bind fun _ => ensures_bind fun _ => ensures_bind fun _ => ?_
      exact ensures_return ⟨rfl, rfl, by simp [Bindings.names]⟩

theorem plain_aiPrompt (step prompt : String) (model : Option String) :
    Ensures Outcome.IsPlain (aiPrompt v step prompt model) := by
  unfold aiPrompt
  split
  · exact ensures_throw _
  · refine ensures_bind fun _ => ?_
    dsimp only
    split <;> exact ensures_bind fun _ => ensures_return ⟨rfl, rfl, by simp [Bindings.names]⟩

theorem plain_openPullRequest (h : Hosting σ) (step : String) (p : PullRequestStep) :
    Ensures Outcome.IsPlain (openPullRequest v h step p) := by
  unfold openPullRequest
  dsimp only
  split
  · exact ensures_throw _
  · refine ensures_bind fun _ => ensures_bind fun _ => ensures_bind fun _ => ?_
    exact ensures_bind fun _ => ensures_bind fun _ => ensures_return ⟨rfl, rfl, by simp [Bindings.names]⟩

theorem plain_reviewPullRequest (h : Hosting σ) (step : String) (p : PullRequestStep) :
    Ensures Outcome.IsPlain (reviewPullRequest v h step p) := by
  refine ensures_bind fun _ => ensures_bind fun found => ?_
  cases found <;> exact ensures_return ⟨rfl, rfl, by simp [Bindings.names]⟩

theorem plain_mergePullRequest (h : Hosting σ) (step : String) (p : PullRequestStep) :
    Ensures Outcome.IsPlain (mergePullRequest v h step p) := by
  refine ensures_bind fun _ => ensures_bind fun found => ?_
  cases found with
  | none => exact ensures_return ⟨rfl, rfl, by simp [Bindings.names]⟩
  | some pr =>
    refine ensures_bind fun payload => ?_
    dsimp only
    split
    · exact ensures_throw _
    · exact ensures_return ⟨rfl, rfl, by simp [Bindings.names]⟩

theorem plain_pullRequest (step : String) (p : PullRequestStep) :
    Ensures Outcome.IsPlain (pullRequest v step p) := by
  unfold pullRequest
  split
  · exact ensures_throw _
  · split
    · exact plain_openPullRequest v _ step p
    · exact plain_reviewPullRequest v _ step p
    · exact plain_mergePullRequest v _ step p

/-- Only conditional, loop and interactive steps redirect or ask. -/
theorem plain_perform (s : Session) {step : Step} (h : step.task.isFlow = false) :
    Ensures Outcome.IsPlain (perform v s step) := by
  unfold perform
  cases htask : step.task with
  | switchModel model => exact plain_switchModel v _ _
  | conditional check onTrue onFalse => rw [htask] at h; cases h
  | loop target condition maxIterations => rw [htask] at h; cases h
  | interactive q => rw [htask] at h; cases h
  | shell command timeout => exact plain_shell v _ _ _
  | git action message base => exact plain_git v _ _ _ _
  | aiPrompt prompt model => exact plain_aiPrompt v _ _ _
  | pullRequest p => exact plain_pullRequest v _ _
  | fileExists file => exact ensures_bind fun _ => ensures_return ⟨rfl, rfl, by simp [Bindings.names]⟩

theorem perform_conditional {s : Session} {step : Step} {check onTrue : String} {onFalse : Option String}
    (h : step.task = .conditional check onTrue onFalse) :
    Ensures (fun o => ∃ holds target, target = (if holds then some onTrue else onFalse) ∧ o = {
      output := [("condition", .text check), ("result", .bool holds), ("nextStep", optionText target)]
      nextStep := target }) (perform v s step) := by
  intro x o ho
  unfold perform at ho
  rw [h] at ho
  dsimp only at ho
  rw [ofExcept_apply] at ho
  unfold conditional at ho
  dsimp only at ho
  cases hcheck : Condition.evaluate check (checkBindings s) with
  | error e => rw [hcheck] at ho; cases ho
  | ok holds =>
    rw [hcheck] at ho
    exact ⟨holds, _, rfl, (Except.ok.inj ho).symm⟩

theorem perform_loop {s : Session} {step : Step} {target condition : String} {maxIterations : Option Int}
    (h : step.task = .loop target condition maxIterations) :
    Ensures (fun o => ∃ again, o = {
      output := [
        ("condition", .text condition), ("shouldLoop", .bool again), ("targetStep", .text target),
        ("iteration", .int s.iterations)]
      nextStep := if again then some target else none }) (perform v s step) := by
  intro x o ho
  unfold perform at ho
  rw [h] at ho
  dsimp only at ho
  rw [ofExcept_apply] at ho
  unfold loop at ho
  dsimp only at ho
  cases hcheck : Condition.evaluate condition (loopBindings s) with
  | error e => rw [hcheck] at ho; cases ho
  | ok again =>
    rw [hcheck] at ho
    exact ⟨again, (Except.ok.inj ho).symm⟩

theorem perform_interactive {s : Session} {step : Step} {q : Question} (h : step.task = .interactive q) :
    Ensures (fun o => o = interactive step.id q) (perform v s step) := by
  intro x o ho
  unfold perform at ho
  rw [h] at ho
  exact (Except.ok.inj ho).symm

end Execution

end Runbook
