import Runbook.Agent.Conversation
import Runbook.Proofs.Execution.Timeline

/-! At which provider the agent stands. A switch of the model leaves it at the provider that its record shows, and
every other step leaves it where it was: so it stands at the last choice of all that went before, whichever session
made it. -/

namespace Runbook

variable {σ : Type}

/-! ## Choices -/

namespace Provider

/-- A provider from its document. -/
def ofValue? (v : Value) : Option Provider :=
  match v.get? "name", v.get? "model" with
  | some (.text name), some (.text model) => some ⟨name, model⟩
  | _, _ => none

@[simp] theorem ofValue?_toValue (p : Provider) : ofValue? p.toValue = some p := rfl

end Provider

/-- The provider that a step with an action chose: only a switch of the model that succeeded chooses one. -/
def chosen? (action : String) (success : Bool) (output : Value) : Option Provider :=
  if action = "switch-model" ∧ success = true then (output.get? "newProvider").bind Provider.ofValue? else none

theorem chosen?_of_action {action : String} (h : action ≠ "switch-model") (success : Bool) (output : Value) :
    chosen? action success output = none :=
  if_neg fun hboth => h hboth.1

/-- The provider that a record shows to be chosen. -/
def StepRecord.choice? (r : StepRecord) : Option Provider := chosen? r.action r.success r.output

/-- The provider that the history of a session shows to be chosen last. -/
def Session.choice? (s : Session) : Option Provider := (s.history.filterMap StepRecord.choice?).getLast?

theorem Session.choice?_of_history {s t : Session} {r : StepRecord} (h : t.history = s.history ++ [r]) :
    t.choice? = r.choice?.or s.choice? := by
  unfold Session.choice?
  rw [h, List.filterMap_append, List.getLast?_append]
  cases hr : r.choice? <;> simp [hr]

/-- The provider that a step chooses by what it comes to. -/
def choiceOf (action : String) : Except Fault Outcome → Option Provider
  | .ok o => chosen? action o.success (.obj o.output)
  | .error _ => none

theorem choiceOf_of_action {action : String} (h : action ≠ "switch-model") (r : Except Fault Outcome) :
    choiceOf action r = none := by
  cases r with
  | ok o => exact chosen?_of_action h _ _
  | error f => rfl

/-- The provider that is chosen at an event: by the step that is begun, if it switches the model. -/
def Event.choice? (v : Services σ) : Event σ → Option Provider
  | .began s step x => choiceOf step.action (Execution.perform v s (step.fill s.variables) x).1
  | .saved .. => none

/-- The provider that is chosen last. -/
def lastChoice (v : Services σ) (events : List (Event σ)) : Option Provider :=
  (events.filterMap (Event.choice? v)).getLast?

/-- Where nothing but one provider is chosen, that is the last choice. -/
theorem lastChoice_eq_of_forall {v : Services σ} {events : List (Event σ)} {p : Provider}
    (hall : ∀ event ∈ events, ∀ q, event.choice? v = some q → q = p)
    (hsome : ∃ event ∈ events, event.choice? v = some p) : lastChoice v events = some p := by
  obtain ⟨event, hmem, hchoice⟩ := hsome
  have hchosen : p ∈ events.filterMap (Event.choice? v) := List.mem_filterMap.mpr ⟨event, hmem, hchoice⟩
  unfold lastChoice
  cases hlast : (events.filterMap (Event.choice? v)).getLast? with
  | none =>
    rw [List.getLast?_eq_none_iff.mp hlast] at hchosen
    cases hchosen
  | some q =>
    obtain ⟨event', hmem', hchoice'⟩ := List.mem_filterMap.mp (List.mem_of_getLast? hlast)
    rw [hall event' hmem' q hchoice']

theorem Task.action_ne {t : Task} (h : ∀ model, t ≠ .switchModel model) : t.action ≠ "switch-model" := by
  cases t with
  | switchModel model => exact absurd rfl (h model)
  | git action message base => cases action <;> simp [action, GitAction.name]
  | pullRequest p =>
    change p.action.name ≠ "switch-model"
    cases p.action <;> decide
  | _ => simp [action]

/-! ## Agents that stay where they are put -/

/-- The agent stands at the same provider. -/
def Agent.SameProvider (a : Agent σ) (x y : σ) : Prop := a.provider y = a.provider x

theorem Agent.closed_sameProvider (a : Agent σ) : Act.Closed (Act.Moves a.SameProvider) :=
  Act.closed_moves (fun _ => rfl) fun _ _ _ h h' => h'.trans h

/-- The agent goes to the provider that it is told, and stays there whatever it is asked and whatever the other
collaborators do. -/
structure Services.RemembersProvider (v : Services σ) (a : Agent σ) : Prop where
  agent : v.agent = some a
  setProvider : ∀ p x, ∃ y, a.setProvider p x = (.ok (), y) ∧ a.provider y = p
  chat : ∀ prompt, Act.Moves a.SameProvider String (a.chat prompt)
  others : ({ v with agent := none } : Services σ).All (Act.Moves a.SameProvider)

theorem Act.moves_retried {R : σ → σ → Prop} (htrans : ∀ x y z, R x y → R y z → R x z) {α : Type} {act : Act σ α}
    (h : Act.Moves R α act) (again : ℕ) : Act.Moves R α (act.retried again) := by
  induction again with
  | zero => exact h
  | succ again ih =>
    intro x
    rw [Act.retried, Act.bind_ok (Act.observe_apply act x)]
    cases (act x).1 with
    | ok y => exact h x
    | error e =>
      cases e with
      | incident i =>
        dsimp only
        split_ifs
        · exact htrans _ _ _ (h x) (ih _)
        · exact h x
      | _ => exact h x

/-- The conversation is found as it was left, and the model services do not change its provider. -/
structure Talk.IsLawful (t : Talk σ) : Prop where
  conversation_replace : ∀ c x, t.conversation (t.replace c x) = c
  generate : ∀ name messages model warmth,
    Act.Moves t.agent.SameProvider ModelReply ((t.services name).generate messages model warmth)

namespace Talk

variable {t : Talk σ}

theorem moves_update (h : t.IsLawful) {f : Conversation → Conversation} (hf : ∀ c, (f c).provider = c.provider) :
    Act.Moves t.agent.SameProvider Unit (t.update f) := by
  intro x
  change (t.conversation (t.replace (f (t.conversation x)) x)).provider = (t.conversation x).provider
  rw [h.conversation_replace, hf]

theorem provider_noteAsked (c : Conversation) : c.noteAsked.provider = c.provider := by
  unfold Conversation.noteAsked
  split_ifs <;> rfl

theorem moves_chat (h : t.IsLawful) (prompt : String) : Act.Moves t.agent.SameProvider String (t.chat prompt) := by
  have hclosed := t.agent.closed_sameProvider
  refine hclosed.bind (moves_update h provider_noteAsked) fun _ => hclosed.bind (fun _ => rfl) fun c => ?_
  refine hclosed.bind (fun x => ?_) fun reply => hclosed.bind (moves_update h fun _ => rfl) fun _ => fun _ => rfl
  rw [Act.reword_apply]
  exact Act.moves_retried (R := t.agent.SameProvider) (fun _ _ _ h h' => h'.trans h) (h.generate _ _ _ _) _ x

/-- The agent that holds a conversation stays at its provider. -/
theorem remembersProvider (h : t.IsLawful) {v : Services σ} (ha : v.agent = some t.agent)
    (hothers : ({ v with agent := none } : Services σ).All (Act.Moves t.agent.SameProvider)) :
    v.RemembersProvider t.agent where
  agent := ha
  setProvider _ _ := ⟨_, rfl, congrArg Conversation.provider (h.conversation_replace _ _)⟩
  chat := moves_chat h
  others := hothers

end Talk

namespace Execution

variable {v : Services σ} {a : Agent σ}

theorem action_fill (step : Step) (b : Bindings) : (step.fill b).action = step.action := by
  unfold Step.action Step.fill
  cases step.task <;> rfl

/-- A model that is chosen is the one that the outcome shows. -/
theorem provider_chooseModel (h : v.RemembersProvider a) (step spec : String) (x : σ) :
    a.provider (chooseModel v step spec x).2 =
      (choiceOf "switch-model" (chooseModel v step spec x).1).getD (a.provider x) := by
  obtain ⟨y, hset, hprovider⟩ := h.setProvider (.parse spec (a.provider x).name) x
  have hoffer := h.others.offerModel (Provider.parse spec (a.provider x).name).display y
  unfold chooseModel
  rw [h.agent]
  dsimp only
  rw [Act.bind_ok (Act.view_apply a.provider x), Act.bind_ok hset, Act.bind_ok (Act.change_apply _ y)]
  exact hoffer.trans hprovider

/-- The model of a step holds for its prompt only. -/
theorem provider_chatAs (h : v.RemembersProvider a) (previous other : Provider) (step prompt : String) (x : σ) :
    a.provider (chatAs v a previous other step prompt x).2 = previous := by
  obtain ⟨y, hset, -⟩ := h.setProvider other x
  unfold chatAs
  rw [Act.bind_ok hset, Act.bind_ok (Act.change_apply _ y), Act.bind_ok (Act.observe_apply _ _)]
  obtain ⟨z, hback, hprovider⟩ := h.setProvider previous
    ((a.chat prompt).reword (agentFault step) (v.offerModel other.display y)).2
  rw [Act.bind_ok hback, Act.ofExcept_apply]
  exact hprovider

theorem provider_aiPrompt (h : v.RemembersProvider a) (step prompt : String) (model : Option String) (x : σ) :
    a.provider (aiPrompt v step prompt model x).2 = a.provider x := by
  have hchat : a.provider ((a.chat prompt).reword (agentFault step) x).2 = a.provider x := by
    rw [Act.reword_apply]
    exact h.chat prompt x
  unfold aiPrompt
  rw [h.agent]
  dsimp only
  rw [Act.bind_ok (Act.view_apply a.provider x)]
  split_ifs
  · rw [Act.bind_apply]
    split <;> exact hchat
  · rw [Act.bind_apply]
    split <;> exact provider_chatAs h _ _ _ _ _

/-- No step but these two makes use of the agent, or offers a model. -/
theorem perform_of_other_agent (v : Services σ) (agent : Option (Agent σ)) (offerModel : String → σ → σ) (s : Session)
    {step : Step} (hswitch : ∀ model, step.task ≠ .switchModel model)
    (hprompt : ∀ prompt model, step.task ≠ .aiPrompt prompt model) :
    perform { v with agent, offerModel } s step = perform v s step := by
  unfold perform
  cases htask : step.task with
  | switchModel model => exact absurd htask (hswitch model)
  | aiPrompt prompt model => exact absurd htask (hprompt prompt model)
  | git action message base =>
    have hrun (commands : List (List String)) :
        runAll { v with agent, offerModel } step.id commands = runAll v step.id commands := by
      apply runAll_congr <;> rfl
    simp only [git, hrun]
  | _ => rfl

/-- A step leaves the agent at the provider that it chooses, and where it was if it chooses none. -/
theorem provider_perform (h : v.RemembersProvider a) (s : Session) (step : Step) (x : σ) :
    a.provider (perform v s step x).2 = (choiceOf step.action (perform v s step x).1).getD (a.provider x) := by
  by_cases hswitch : ∃ model, step.task = .switchModel model
  · obtain ⟨model, hswitch⟩ := hswitch
    have haction : step.action = "switch-model" := congrArg Task.action hswitch
    rw [haction, perform, hswitch]
    dsimp only [switchModel]
    split_ifs
    · rfl
    · exact provider_chooseModel h _ _ x
  · have hne := not_exists.mp hswitch
    have haction : step.action ≠ "switch-model" := Task.action_ne hne
    rw [choiceOf_of_action haction, Option.getD_none]
    by_cases hprompt : ∃ prompt model, step.task = .aiPrompt prompt model
    · obtain ⟨prompt, model, hprompt⟩ := hprompt
      rw [perform, hprompt]
      exact provider_aiPrompt h _ _ _ x
    · have hunasked := perform_all a.closed_sameProvider h.others s step x
      rw [perform_of_other_agent v none v.offerModel s hne (by simpa using hprompt)] at hunasked
      exact hunasked

/-- A prompt is sent under a provider, which is shown with the answer. -/
def askedUnder (a : Agent σ) (step prompt : String) (p : Provider) : Act σ Outcome := do
  let response ← (a.chat prompt).reword (agentFault step)
  return {
    output := [("prompt", .text prompt), ("response", .text response), ("model", .text p.display)]
    exports := [
      (step ++ "_response", .text response),
      (step ++ "_metadata", .obj [("model", .text p.display), ("prompt", .text prompt)])] }

/-- A prompt without a model of its own is sent to the provider at which the agent stands. -/
theorem aiPrompt_of_no_model (ha : v.agent = some a) (step prompt : String) {model : Option String}
    (hmodel : model.getD "" = "") (x : σ) :
    aiPrompt v step prompt model x = askedUnder a step prompt (a.provider x) x := by
  have hnone : overrideOf model (a.provider x) = none := by
    cases model with
    | none => rfl
    | some m =>
      obtain rfl : m = "" := hmodel
      rfl
  unfold aiPrompt
  rw [ha]
  dsimp only
  rw [Act.bind_ok (Act.view_apply a.provider x), hnone]
  simp only [Option.getD_none, if_true]
  rfl

end Execution

/-! ## Runs -/

/-- Before the events of a run the agent stands at the first provider and after them at the second; wherever a step
is begun in between, it stands at the one that was chosen last. -/
inductive Stands (v : Services σ) (a : Agent σ) : Provider → List (Event σ) → Provider → Prop where
  | nil (p : Provider) : Stands v a p [] p
  | began {s : Session} {step : Step} {x : σ} {events : List (Event σ)} {p : Provider}
      (h : Stands v a (((Event.began s step x).choice? v).getD (a.provider x)) events p) :
      Stands v a (a.provider x) (.began s step x :: events) p
  | saved {t : Session} {x : σ} {events : List (Event σ)} {p q : Provider} (h : Stands v a p events q) :
      Stands v a p (.saved t x :: events) q

namespace Stands

variable {v : Services σ} {a : Agent σ} {p q r : Provider} {before after : List (Event σ)}

theorem append (h : Stands v a p before q) (h' : Stands v a q after r) : Stands v a p (before ++ after) r := by
  induction h with
  | nil p => exact h'
  | began _ ih => exact .began (ih h')
  | saved _ ih => exact .saved (ih h')

theorem lastChoice_cons (v : Services σ) (event : Event σ) (events : List (Event σ)) (p : Provider) :
    (lastChoice v (event :: events)).getD p = (lastChoice v events).getD ((event.choice? v).getD p) := by
  unfold lastChoice
  rw [List.filterMap_cons]
  cases event.choice? v with
  | none => rfl
  | some p' => cases hlast : (events.filterMap (Event.choice? v)).getLast? <;> simp [List.getLast?_cons, hlast]

/-- The agent ends at the last choice. -/
theorem end_eq (h : Stands v a p before q) : q = (lastChoice v before).getD p := by
  induction h with
  | nil p => rfl
  | began _ ih => rw [lastChoice_cons, ← ih]
  | saved _ ih => rw [lastChoice_cons, ih]; rfl

/-- A step is begun where the agent stands at the last choice. -/
theorem provider_eq {s : Session} {step : Step} {x : σ}
    (h : Stands v a p (before ++ .began s step x :: after) q) : a.provider x = (lastChoice v before).getD p := by
  induction before generalizing p with
  | nil =>
    cases h
    rfl
  | cons event before ih =>
    rw [lastChoice_cons]
    cases h with
    | began h => exact ih h
    | saved h => exact ih h

end Stands

namespace Engine

variable {e : Engine σ} {a : Agent σ} {w : Workflow} {s t : Session} {step : Step} {x y : σ}

/-- The agent is where it was after a save. -/
structure RemembersProvider (e : Engine σ) (a : Agent σ) : Prop where
  services : e.services.RemembersProvider a
  save : ∀ s, Act.Moves a.SameProvider Unit (e.save s)

namespace RemembersProvider

theorem settleTrace (h : e.RemembersProvider a) (t : Session × Except Fault Session) (x : σ) :
    Stands e.services a (a.provider x) (e.settleTrace t x).1 (a.provider (e.settleTrace t x).2.2) := by
  have hsame := h.save t.1 x
  rcases settleTrace_cases e t x with ⟨y, hsave, htrace⟩ | ⟨f, y, hsave, htrace⟩
  · rw [hsave] at hsame
    rw [htrace, show a.provider y = a.provider x from hsame]
    exact .saved (.nil _)
  · rw [hsave] at hsame
    rw [htrace, show a.provider y = a.provider x from hsame]
    exact .nil _

theorem performed (h : e.RemembersProvider a) (s : Session) (step : Step) (x : σ) :
    a.provider (e.performed s step x).2 =
      ((Event.began s step x).choice? e.services).getD (a.provider x) := by
  have hperform := Execution.provider_perform h.services s (step.fill s.variables) x
  rw [Execution.action_fill] at hperform
  exact hperform

theorem stepTrace (h : e.RemembersProvider a) (w : Workflow) (s : Session) (step : Step) (x : σ) :
    Stands e.services a (a.provider x) (e.stepTrace w s step x).1 (a.provider (e.stepTrace w s step x).2.2) := by
  have hperformed := h.performed s step x
  rcases stepTrace_cases e w s step x with ⟨f, y, htrace, hy⟩ | ⟨stop, y, hsave, htrace⟩
  · have hsame : a.provider y = a.provider (e.performed s step x).2 := by
      rcases hy with rfl | ⟨t, hsave⟩
      · rfl
      · have hmoved := h.save t (e.performed s step x).2
        rwa [hsave] at hmoved
    rw [htrace]
    refine .began ?_
    rw [hsame, ← hperformed]
    exact .nil _
  · have hmoved := h.save (e.settled w s step stop (e.performed s step x).1).1 (e.performed s step x).2
    rw [hsave] at hmoved
    rw [htrace]
    refine .began (.saved ?_)
    rw [show a.provider y = a.provider (e.performed s step x).2 from hmoved, ← hperformed]
    exact .nil _

theorem trace (h : e.RemembersProvider a) (w : Workflow) (fuel : ℕ) (s : Session) (x : σ) :
    Stands e.services a (a.provider x) (e.trace w fuel s x).1 (a.provider (e.trace w fuel s x).2.2) := by
  induction fuel generalizing s x with
  | zero => exact .nil _
  | succ fuel ih =>
    unfold Engine.trace
    split_ifs
    · exact .nil _
    · exact h.settleTrace _ x
    · cases stepOf? w s with
      | none => exact h.settleTrace _ x
      | some step =>
        have hstep := h.stepTrace w s step x
        dsimp only
        generalize e.stepTrace w s step x = traced at hstep ⊢
        obtain ⟨events, r, y⟩ := traced
        cases r with
        | error f => exact hstep
        | ok t =>
          dsimp only
          split_ifs
          · exact hstep
          · exact hstep.append (ih t y)

theorem runTrace (h : e.RemembersProvider a) (w : Workflow) (s : Session) (x : σ) :
    Stands e.services a (a.provider x) (e.runTrace w s x).1 (a.provider (e.runTrace w s x).2.2) := by
  unfold Engine.runTrace
  split_ifs
  · exact .nil _
  · exact h.trace w _ _ x

end RemembersProvider

/-! ## The history of a session -/

/-- A step that does not succeed chooses nothing. -/
theorem choiceOf_of_judge_error {o : Outcome} {f : Fault} (hr : (e.performed s step x).1 = .ok o)
    (hjudge : e.judge w s step o = .error f) : chosen? step.action o.success (.obj o.output) = none := by
  by_cases hswitch : ∃ model, step.task = .switchModel model
  · obtain ⟨model, hswitch⟩ := hswitch
    have hflow : (step.fill s.variables).task.isFlow = false := by
      change (step.task.fill s.variables).isFlow = false
      rw [Task.isFlow_fill, hswitch]
      rfl
    have hnext := (Execution.plain_perform e.services s hflow x o hr).1
    -- A switch of the model leads nowhere, so it is not its target that fails.
    refine if_neg fun hboth => ?_
    rw [judge, if_pos hboth.2, target, hnext] at hjudge
    cases hjudge
  · exact chosen?_of_action (Task.action_ne (not_exists.mp hswitch)) _ _

/-- What a step comes to is recorded with the provider that it chose. -/
theorem choice?_settled (e : Engine σ) (w : Workflow) (s : Session) (step : Step) (stop : Bool) (x : σ) :
    (e.settled w s step stop (e.performed s step x).1).1.choice? =
      ((Event.began s step x).choice? e.services).or s.choice? := by
  suffices hrecord : ∃ record : StepRecord,
      (e.settled w s step stop (e.performed s step x).1).1.history = s.history ++ [record] ∧
        record.choice? = (Event.began s step x).choice? e.services by
    obtain ⟨record, hhistory, hchoice⟩ := hrecord
    rw [Session.choice?_of_history hhistory, hchoice]
  have hfailure (o : Option Outcome) (f : Fault) : ∃ record : StepRecord,
      (e.settledFailure w s step o f stop).1.history = s.history ++ [record] ∧ record.choice? = none := by
    have hnone (r : StepRecord) (hr : r.success = false) : r.choice? = none := if_neg (by simp [hr])
    cases stop <;> exact ⟨_, rfl, hnone _ rfl⟩
  change ∃ record : StepRecord, _ ∧ record.choice? = choiceOf step.action (e.performed s step x).1
  obtain ⟨f, hr, h⟩ | ⟨o, f, hr, hjudge, h⟩ | ⟨o, target, iterations, hr, hjudge, h⟩ :=
    settled_cases e w s step stop (e.performed s step x).1 <;> rw [h, hr]
  · exact hfailure none f
  · rw [choiceOf, choiceOf_of_judge_error hr hjudge]
    exact hfailure (some o) f
  · rw [choiceOf, (judge_eq_ok hjudge).1]
    rw [afterSuccess_eq]
    split_ifs
    · exact ⟨_, rfl, rfl⟩
    · exact ⟨_, history_moveTo _ _ _, rfl⟩

/-- What holds where a run begins, and from each step to the next, holds wherever a step is begun. -/
theorem forall_began_trace {P : Session → σ → Prop}
    (hnext : ∀ s step x stop y u, P s x → e.save (e.settled w s step stop (e.performed s step x).1).1
      (e.performed s step x).2 = (.ok (), y) → (e.settled w s step stop (e.performed s step x).1).2 = .ok u → P u y)
    (fuel : ℕ) (hs : P s x) :
    ∀ t step z, .began t step z ∈ (e.trace w fuel s x).1 → stepOf? w t = some step ∧ P t z := by
  induction fuel generalizing s x with
  | zero => exact fun _ _ _ hmem => absurd hmem List.not_mem_nil
  | succ fuel ih =>
    intro t step z hmem
    have hsettle (u : Session × Except Fault Session) (hmem : .began t step z ∈ (e.settleTrace u x).1) : False := by
      rcases settleTrace_cases e u x with ⟨y, -, htrace⟩ | ⟨f, y, -, htrace⟩ <;> rw [htrace] at hmem <;> simp at hmem
    unfold Engine.trace at hmem
    split_ifs at hmem
    · cases hmem
    · exact (hsettle _ hmem).elim
    · cases hstep : stepOf? w s with
      | none =>
        rw [hstep] at hmem
        exact (hsettle _ hmem).elim
      | some first =>
        have hfirst (rest : List (Event σ)) (hrest : .began t step z ∈ rest → stepOf? w t = some step ∧ P t z)
            (hmem : .began t step z ∈ Event.began s first x :: rest) : stepOf? w t = some step ∧ P t z := by
          rcases List.mem_cons.mp hmem with hmem | hmem
          · cases hmem
            exact ⟨hstep, hs⟩
          · exact hrest hmem
        rw [hstep] at hmem
        dsimp only at hmem
        rcases stepTrace_cases e w s first x with ⟨f, y, htrace, -⟩ | ⟨stop, y, hsave, htrace⟩
        · rw [htrace] at hmem
          exact hfirst [] (fun hmem => absurd hmem List.not_mem_nil) hmem
        · rw [htrace] at hmem
          cases hend : (e.settled w s first stop (e.performed s first x).1).2 with
          | error f =>
            rw [hend] at hmem
            exact hfirst _ (by simp) hmem
          | ok u =>
            rw [hend] at hmem
            dsimp only at hmem
            split_ifs at hmem
            · exact hfirst _ (by simp) hmem
            · refine hfirst _ (fun hrest => ih (hnext s first x stop y u hs hsave hend) t step z ?_) hmem
              simpa using hrest

/-- Every step that a run begins is one of its workflow. -/
theorem stepOf?_of_began {z : σ} (h : .began t step z ∈ (e.runTrace w s x).1) : stepOf? w t = some step := by
  unfold Engine.runTrace at h
  split_ifs at h
  · cases h
  · exact (forall_began_trace (P := fun _ _ => True) (fun _ _ _ _ _ _ _ _ _ => trivial) _ trivial t step z h).1

/-- In a run that begins with the agent at the choice of the history, every step begins with the agent there. -/
theorem own_choice_runTrace (h : e.RemembersProvider a) (w : Workflow) {p : Provider}
    (hs : a.provider x = s.choice?.getD p) (t : Session) (step : Step) (z : σ)
    (hmem : .began t step z ∈ (e.runTrace w s x).1) : a.provider z = t.choice?.getD p := by
  unfold Engine.runTrace at hmem
  split_ifs at hmem
  · cases hmem
  · refine (forall_began_trace (w := w) (P := fun s x => a.provider x = s.choice?.getD p) ?_ _ ?_ t step z hmem).2
    · intro s step x stop y u hs hsave hend
      have hsaved := h.save (e.settled w s step stop (e.performed s step x).1).1 (e.performed s step x).2
      rw [hsave] at hsaved
      obtain rfl := (settled_eq_ok hend).1
      rw [show a.provider y = _ from hsaved, h.performed, choice?_settled, hs]
      cases (Event.began s step x).choice? e.services <;> rfl
    · exact hs

theorem exists_trace_eq_began (e : Engine σ) {w : Workflow} (fuel : ℕ) (hdone : s.completed = false)
    (hgo : e.cancelled x = false) (hstep : stepOf? w s = some step) :
    ∃ events, (e.trace w (fuel + 1) s x).1 = .began s step x :: events := by
  rw [trace, hdone, if_neg Bool.false_ne_true, hgo, if_neg Bool.false_ne_true, hstep]
  dsimp only
  rcases stepTrace_cases e w s step x with ⟨f, y, htrace, -⟩ | ⟨stop, y, -, htrace⟩
  · rw [htrace]
    exact ⟨_, rfl⟩
  · rw [htrace]
    cases (e.settled w s step stop (e.performed s step x).1).2 with
    | error f => exact ⟨_, rfl⟩
    | ok u =>
      dsimp only
      split_ifs <;> exact ⟨_, rfl⟩

/-- A run that is not asked to stop begins with the step at which its session is. -/
theorem exists_runTrace_eq_began (e : Engine σ) {w : Workflow} (hdone : s.completed = false)
    (hgo : e.cancelled x = false) (hstep : stepOf? w s = some step) :
    ∃ events, (e.runTrace w s x).1 = .began { s with paused := false } step x :: events := by
  rw [runTrace, if_neg (by simp [hdone])]
  exact exists_trace_eq_began (s := { s with paused := false }) e _ hdone hgo hstep

end Engine

end Runbook
