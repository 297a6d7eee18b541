import Runbook.Proofs.Execution.Provider

/-! Which steps move the agent to another provider: those that switch the model, and no others. A step may ask its
prompt elsewhere, but whatever becomes of the prompt, the agent is back afterwards. -/

namespace Runbook

open Text

variable {σ : Type}

/-! ## Switches -/

namespace Task

/-- The provider to which a task switches from another one: the one that its model names, if it names any. -/
def switch? (t : Task) (previous : Provider) : Option Provider :=
  match t with
  | .switchModel model =>
    let spec := trim (model.getD "")
    if spec.isEmpty then none else some (.parse spec previous.name)
  | _ => none

/-- Where an agent stands after a task, given where it stood before. -/
def moves (t : Task) (previous : Provider) : Provider := (t.switch? previous).getD previous

end Task

namespace Execution

variable {v : Services σ} {a : Agent σ}

/-- A model that is chosen is recorded as the provider that it names. -/
theorem choiceOf_chooseModel (h : v.RemembersProvider a) (step spec : String) (x : σ) :
    choiceOf "switch-model" (chooseModel v step spec x).1 = some (.parse spec (a.provider x).name) := by
  obtain ⟨y, hset, -⟩ := h.setProvider (.parse spec (a.provider x).name) x
  unfold chooseModel
  rw [h.agent]
  dsimp only
  rw [Act.bind_ok (Act.view_apply a.provider x), Act.bind_ok hset, Act.bind_ok (Act.change_apply _ y)]
  rfl

/-- A step chooses the provider to which its task switches. -/
theorem choiceOf_perform (h : v.RemembersProvider a) (s : Session) (step : Step) (x : σ) :
    choiceOf step.action (perform v s step x).1 = step.task.switch? (a.provider x) := by
  by_cases hswitch : ∃ model, step.task = .switchModel model
  · obtain ⟨model, hswitch⟩ := hswitch
    have haction : step.action = "switch-model" := congrArg Task.action hswitch
    rw [haction, perform, hswitch]
    dsimp only [switchModel, Task.switch?]
    split_ifs with hblank
    · rfl
    · exact choiceOf_chooseModel h _ _ x
  · have hne := not_exists.mp hswitch
    rw [Step.action, choiceOf_of_action (Task.action_ne hne)]
    cases htask : step.task with
    | switchModel model => exact absurd htask (hne model)
    | _ => rfl

/-- A step leaves the agent where its task moves it. -/
theorem provider_perform_eq_moves (h : v.RemembersProvider a) (s : Session) (step : Step) (x : σ) :
    a.provider (perform v s step x).2 = step.task.moves (a.provider x) := by
  rw [provider_perform h, choiceOf_perform h, Task.moves]

end Execution

/-! ## Steps with one agent -/

/-- A step that is begun for a session in a world, with the collaborators that it has there. -/
structure Begun (σ : Type) where
  services : Services σ
  session : Session
  step : Step
  world : σ

namespace Begun

/-- The task with the values of the variables. -/
def task (b : Begun σ) : Task := (b.step.fill b.session.variables).task

/-- What the step comes to, and the world that it leaves. -/
def done (b : Begun σ) : Except Fault Outcome × σ :=
  Execution.perform b.services b.session (b.step.fill b.session.variables) b.world

end Begun

/-- Steps of any sessions that are performed one after the other, with one agent among their collaborators. What else
happens between them leaves the agent where it is. -/
inductive Trail (a : Agent σ) (x : σ) : List (Begun σ) → σ → Prop where
  | start : Trail a x [] x
  | step {steps : List (Begun σ)} {y : σ} (h : Trail a x steps y) (b : Begun σ) (hworld : b.world = y)
      (hagent : b.services.RemembersProvider a) : Trail a x (steps ++ [b]) b.done.2
  | elsewhere {steps : List (Begun σ)} {y z : σ} (h : Trail a x steps y) (hsame : a.SameProvider y z) :
      Trail a x steps z

/-- Where an agent stands after some tasks, of which each moves it or not. -/
def Begun.standing (p : Provider) (steps : List (Begun σ)) : Provider := steps.foldl (fun p b => b.task.moves p) p

namespace Trail

variable {a : Agent σ} {x y : σ} {steps : List (Begun σ)}

theorem provider_done {b : Begun σ} (hagent : b.services.RemembersProvider a) :
    a.provider b.done.2 = b.task.moves (a.provider b.world) :=
  Execution.provider_perform_eq_moves hagent _ _ _

/-- The agent stands where the tasks moved it. -/
theorem provider_eq (h : Trail a x steps y) : a.provider y = Begun.standing (a.provider x) steps := by
  induction h with
  | start => rfl
  | step _ b hworld hagent ih =>
    rw [provider_done hagent, hworld, ih]
    simp [Begun.standing]
  | elsewhere _ hsame ih => exact hsame.trans ih

/-- Every step of a trail ends the trail of the steps up to it. -/
theorem upTo (h : Trail a x steps y) :
    ∀ before b after, steps = before ++ b :: after → Trail a x before b.world ∧ b.services.RemembersProvider a := by
  induction h with
  | start => intro before b after hsteps; simp at hsteps
  | @step done y h last hworld hagent ih =>
    intro before b after hsteps
    rcases List.eq_nil_or_concat after with rfl | ⟨rest, c, rfl⟩
    · obtain ⟨rfl, hlast⟩ := List.append_inj' hsteps rfl
      obtain rfl : last = b := by simpa using hlast
      exact ⟨hworld ▸ h, hagent⟩
    · rw [List.concat_eq_append, ← List.cons_append, ← List.append_assoc] at hsteps
      exact ih before b rest (List.append_inj' hsteps rfl).1
  | elsewhere _ _ ih => exact ih

end Trail

/-- Whatever steps are performed with one agent, of whatever sessions, a step that switches the model leaves the agent
at the provider that its model names, and every other step leaves it where it was. So the agent stands where the
switches put it, one after the other. -/
theorem Trail.agent_moves_by_switches {a : Agent σ} {x y : σ} {steps : List (Begun σ)} (h : Trail a x steps y) :
    a.provider y = Begun.standing (a.provider x) steps ∧
      ∀ before b after, steps = before ++ b :: after →
        a.provider b.world = Begun.standing (a.provider x) before ∧
        a.provider b.done.2 = (b.task.switch? (a.provider b.world)).getD (a.provider b.world) := by
  refine ⟨h.provider_eq, ?_⟩
  intro before b after hsteps
  obtain ⟨hbefore, hagent⟩ := h.upTo before b after hsteps
  exact ⟨hbefore.provider_eq, provider_done hagent⟩

/-! ## An agent that cannot be reached -/

/-- An agent that goes where it is told, and whose providers cannot be reached. -/
def Agent.unreachable : Agent Provider where
  provider := id
  setProvider p := Act.change fun _ => p
  chat _ := throw (.ofKind .agentUnavailable "offline")

/-- Collaborators of which there is none but an agent. -/
def Services.solely (a : Agent σ) : Services σ := { Services.missing with agent := some a }

theorem remembersProvider_unreachable : (Services.solely .unreachable).RemembersProvider .unreachable where
  agent := rfl
  setProvider p _ := ⟨p, rfl, rfl⟩
  chat _ _ := rfl
  others := ⟨nofun, nofun, nofun, nofun, nofun, nofun, nofun, fun _ _ => rfl, fun _ _ _ => rfl⟩

/-- A session with the name of a model. -/
def Session.coding : Session := .holding [("model", .text "coder:7b")]

namespace Begun

/-- Switches to the model that the variable names. -/
def switching : Begun Provider where
  services := .solely .unreachable
  session := .coding
  step := ⟨"pick", none, .switchModel (some " lm_studio:{{model}} ")⟩
  world := ⟨"ollama", "base-model"⟩

/-- Asks another model after the switch. -/
def prompting : Begun Provider where
  services := .solely .unreachable
  session := .coding
  step := ⟨"ask", none, .aiPrompt "Hi" (some "ollama:other")⟩
  world := switching.done.2

end Begun

/-- A prompt that finds no answer at another provider leaves the agent at the one that was switched to. -/
theorem unreachable_agent_is_back :
    Trail .unreachable Begun.switching.world [.switching, .prompting] Begun.prompting.done.2 ∧
      (∃ f, Begun.prompting.done.1 = .error f) ∧
      Agent.unreachable.provider Begun.prompting.done.2 = ⟨"lm_studio", "coder:7b"⟩ := by
  have htrail : Trail .unreachable Begun.switching.world [.switching, .prompting] Begun.prompting.done.2 :=
    (Trail.start.step .switching rfl remembersProvider_unreachable).step .prompting rfl remembersProvider_unreachable
  have hstanding : Begun.standing Begun.switching.world [.switching, .prompting] = ⟨"lm_studio", "coder:7b"⟩ := by
    decide +kernel
  exact ⟨htrail, ⟨_, rfl⟩, htrail.agent_moves_by_switches.1.trans hstanding⟩

end Runbook
