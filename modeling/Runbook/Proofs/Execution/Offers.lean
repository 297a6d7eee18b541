import Runbook.Proofs.Agent.Model
import Runbook.Proofs.Execution.Notes
import Runbook.Proofs.Execution.Switches

/-! The models that steps put on offer, and those that they show with an answer. Each is written in such a way that a
step that is given it in place of its own model goes to the very same provider and model, from wherever it comes. -/

namespace Runbook

open Text

variable {σ : Type}

/-! ## The models of tasks -/

namespace Task

/-- The text by which a task names its model, empty if it names none. A prompt takes its model as it stands; a switch
drops the blanks around it. -/
def spec : Task → String
  | .switchModel model => trim (model.getD "")
  | .aiPrompt _ model => model.getD ""
  | _ => ""

/-- The provider that a task names, for an agent that stands at another one. -/
def named? (t : Task) (previous : Provider) : Option Provider :=
  if t.spec.isEmpty then none else some (.parse t.spec previous.name)

/-- The provider with which a task is done. -/
def provider (t : Task) (previous : Provider) : Provider := (t.named? previous).getD previous

variable {t : Task} {previous : Provider}

theorem switch?_eq_named? (model : Option String) (previous : Provider) :
    (switchModel model).switch? previous = (switchModel model).named? previous := rfl

theorem overrideOf_eq_named? (prompt : String) (model : Option String) (previous : Provider) :
    Execution.overrideOf model previous = (aiPrompt prompt model).named? previous := by
  cases model <;> rfl

/-- What a task names is a known provider with a model, if the agent stands at a known one. -/
theorem isNamed_of_named? {p : Provider} (hknown : previous.name ∈ Provider.known)
    (h : t.named? previous = some p) : p.IsNamed := by
  rw [named?] at h
  split_ifs at h with hspec
  obtain rfl := Option.some.inj h
  exact Provider.isNamed_parse (mt String.isEmpty_iff.mpr hspec) hknown

theorem spec_eq_empty_of_named? (h : t.named? previous = none) : t.spec = "" := by
  rw [named?] at h
  split_ifs at h with hspec
  exact String.isEmpty_iff.mp hspec

theorem trim_display_of_switch {model : Option String} {p : Provider} (hknown : previous.name ∈ Provider.known)
    (h : (switchModel model).named? previous = some p) : trim p.display = p.display := by
  rw [named?] at h
  split_ifs at h with hspec
  obtain rfl := Option.some.inj h
  exact Provider.trim_display_parse (mt String.isEmpty_iff.mpr hspec) (trim_trim _) hknown

theorem isNamed_provider (t : Task) (h : previous.IsNamed) : (t.provider previous).IsNamed := by
  rw [provider]
  cases hnamed : t.named? previous with
  | none => exact h
  | some p => exact isNamed_of_named? h.known hnamed

theorem isNamed_moves (t : Task) (h : previous.IsNamed) : (t.moves previous).IsNamed := by
  cases t with
  | switchModel model =>
    rw [moves, switch?_eq_named?]
    exact isNamed_provider (.switchModel model) h
  | _ => exact h

end Task

/-! ## Texts that are given to steps -/

namespace Execution

variable {v : Services σ} {a : Agent σ}

/-- A prompt is asked where the agent stands at the provider with which the task is done. -/
theorem exists_askedUnder (h : v.RemembersProvider a) (step prompt : String) (model : Option String) (x : σ) :
    ∃ y, a.provider y = (Task.aiPrompt prompt model).provider (a.provider x) ∧
      (aiPrompt v step prompt model x).1 =
        (askedUnder a step prompt ((Task.aiPrompt prompt model).provider (a.provider x)) y).1 := by
  rw [Task.provider, ← Task.overrideOf_eq_named?]
  unfold aiPrompt
  rw [h.agent]
  dsimp only
  rw [Act.bind_ok (Act.view_apply a.provider x)]
  generalize (overrideOf model (a.provider x)).getD (a.provider x) = p
  by_cases hsame : p = a.provider x
  · rw [if_pos hsame]
    exact ⟨x, hsame.symm, rfl⟩
  · -- The agent is sent there first, and stays there when the model is offered.
    rw [if_neg hsame]
    obtain ⟨y, hset, hprovider⟩ := h.setProvider p x
    have hoffer := h.others.offerModel p.display y
    obtain ⟨z, hback, -⟩ := h.setProvider (a.provider x)
      ((a.chat prompt).reword (agentFault step) (v.offerModel p.display y)).2
    have hchat : (chatAs v a (a.provider x) p step prompt x).1 =
        ((a.chat prompt).reword (agentFault step) (v.offerModel p.display y)).1 := by
      unfold chatAs
      rw [Act.bind_ok hset, Act.bind_ok (Act.change_apply _ y), Act.bind_ok (Act.observe_apply _ _), Act.bind_ok hback,
        Act.ofExcept_apply]
    refine ⟨v.offerModel p.display y, hoffer.trans hprovider, ?_⟩
    rw [askedUnder, Act.bind_apply, Act.bind_apply, hchat]
    cases ((a.chat prompt).reword (agentFault step) (v.offerModel p.display y)).1 <;> rfl

end Execution

/-- The text means the provider: it is read as that under every other one, a switch of the model that comes down to it
moves the agent there, and a prompt with it is asked there. -/
structure Provider.IsMeantBy (p : Provider) (text : String) : Prop where
  parse : ∀ fallback, Provider.parse text fallback = p
  switched : ∀ {σ : Type} {v : Services σ} {a : Agent σ}, v.RemembersProvider a → ∀ (s : Session) (step : Step)
    (model : Option String) (x : σ), step.task = .switchModel model → step.task.spec = text →
      a.provider (Execution.perform v s step x).2 = p
  asked : ∀ {σ : Type} {v : Services σ} {a : Agent σ}, v.RemembersProvider a → ∀ (s : Session) (step : Step)
    (prompt : String) (model : Option String) (x : σ), step.task = .aiPrompt prompt model → step.task.spec = text →
      ∃ y, a.provider y = p ∧ (Execution.perform v s step x).1 = (Execution.askedUnder a step.id prompt p y).1

namespace Provider

/-- What is written for a known provider with a model means that. -/
theorem IsNamed.isMeantBy {p : Provider} (h : p.IsNamed) : p.IsMeantBy p.display := by
  have hprovider {t : Task} (hspec : t.spec = p.display) (previous : Provider) : t.provider previous = p := by
    rw [Task.provider, Task.named?, hspec, if_neg (mt String.isEmpty_iff.mp p.display_ne_empty), parse_display h,
      Option.getD_some]
  refine ⟨parse_display h, ?_, ?_⟩
  · intro σ v a hagent s step model x htask hspec
    rw [Execution.provider_perform_eq_moves hagent, htask, Task.moves, Task.switch?_eq_named?, ← htask]
    exact hprovider hspec _
  · intro σ v a hagent s step prompt model x htask hspec
    have hasked := Execution.exists_askedUnder hagent step.id prompt model x
    rw [← htask, hprovider hspec] at hasked
    rwa [Execution.perform, htask]

end Provider

/-! ## Notes of what is offered -/

/-- The collaborators with notes of the models that are offered. -/
def Services.notingOffers (v : Services σ) : Services (σ × List String) :=
  { v.beside (List String) with offerModel := fun text p => (v.offerModel text p.1, p.2 ++ [text]) }

theorem Services.follows_notingOffers (v : Services σ) : v.notingOffers.Follows v :=
  { v.follows_beside (List String) with offerModel := fun _ _ => ⟨rfl, rfl⟩ }

namespace Execution

open Act

variable {v : Services σ} {a : Agent σ} {s : Session} {step : Step}

/-- The models that are offered in a step. -/
def offers (v : Services σ) (s : Session) (step : Step) (x : σ) : List String :=
  (perform v.notingOffers s step (x, [])).2.2

/-- A step that does not use the agent offers nothing. -/
theorem offers_eq_nil (hswitch : ∀ model, step.task ≠ .switchModel model)
    (hprompt : ∀ prompt model, step.task ≠ .aiPrompt prompt model) (x : σ) : offers v s step x = [] := by
  have hbeside : perform v.notingOffers s step = perform (v.beside (List String)) s step :=
    perform_of_other_agent (v.beside (List String)) _ _ s hswitch hprompt
  have hall : (v.beside (List String)).All NotesNothing := v.all_beside fun _ => notesNothing_beside
  have hnotes := perform_all closed_notesNothing hall s step (x, [])
  rw [offers, hbeside]
  exact hnotes

/-- The operation offers the model once and nothing else, unless it fails before that. -/
def OffersOnly (text : String) (α : Type) (act : Act (σ × List String) α) : Prop :=
  ∀ p, ((act p).2.2 = p.2 ∧ ∃ e, (act p).1 = .error e) ∨ (act p).2.2 = p.2 ++ [text]

theorem OffersOnly.bind {α β : Type} {text : String} {act : Act (σ × List String) α}
    {rest : α → Act (σ × List String) β} (h : OffersOnly text α act) (hrest : ∀ r, NotesNothing β (rest r)) :
    OffersOnly text β (act >>= rest) := by
  intro p
  have hnotes := h p
  rw [bind_apply]
  cases hresult : (act p).1 with
  | error e => exact hnotes.imp (fun hfailed => ⟨hfailed.1, e, rfl⟩) id
  | ok r =>
    have hkept : (rest r (act p).2).2.2 = (act p).2.2 := hrest r (act p).2
    rcases hnotes with ⟨-, e, he⟩ | hoffered
    · rw [hresult] at he
      cases he
    · exact .inr (hkept.trans hoffered)

/-- Once the agent has moved, the model is offered, and nothing else after that. -/
theorem offersOnly_move {α : Type} {move : Act (σ × List String) Unit} {rest : Act (σ × List String) α}
    (hmove : NotesNothing Unit move) (hrest : NotesNothing α rest) (text : String) :
    OffersOnly text α (do move; Act.change (v.notingOffers.offerModel text); rest) := by
  intro p
  have hmoved := hmove p
  rw [bind_apply]
  generalize move p = moved at hmoved ⊢
  obtain ⟨result, q⟩ := moved
  change q.2 = p.2 at hmoved
  cases result with
  | error e => exact .inl ⟨hmoved, e, rfl⟩
  | ok u =>
    rw [← hmoved]
    exact .inr (hrest (v.notingOffers.offerModel text q))

theorem agent_notingOffers (ha : v.agent = some a) :
    v.notingOffers.agent = some {
      provider := fun p => a.provider p.1
      setProvider := fun p => (a.setProvider p).beside (List String)
      chat := fun prompt => (a.chat prompt).beside (List String) } := by
  simp [Services.notingOffers, Services.beside, ha]

theorem offersOnly_chooseModel (ha : v.agent = some a) (step spec : String) (x : σ) :
    ((chooseModel v.notingOffers step spec (x, [])).2.2 = [] ∧
        ∃ e, (chooseModel v.notingOffers step spec (x, [])).1 = .error e) ∨
      (chooseModel v.notingOffers step spec (x, [])).2.2 = [(Provider.parse spec (a.provider x).name).display] := by
  have hreturn (o : Outcome) : NotesNothing (σ := σ) (ρ := List String) Outcome (pure o) := fun _ => rfl
  rw [chooseModel, agent_notingOffers ha]
  dsimp only
  rw [bind_ok (view_apply _ _)]
  exact offersOnly_move (notesNothing_beside (a.setProvider _)) (hreturn _) _ (x, [])

/-- A prompt at another provider offers that. -/
theorem offersOnly_aiPrompt (ha : v.agent = some a) (step prompt : String) (model : Option String) (x : σ) :
    ((aiPrompt v.notingOffers step prompt model (x, [])).2.2 = [] ∧
        ((overrideOf model (a.provider x)).getD (a.provider x) = a.provider x ∨
          ∃ e, (aiPrompt v.notingOffers step prompt model (x, [])).1 = .error e)) ∨
      ∃ p, overrideOf model (a.provider x) = some p ∧
        (aiPrompt v.notingOffers step prompt model (x, [])).2.2 = [p.display] := by
  have hreturn (o : Outcome) : NotesNothing (σ := σ) (ρ := List String) Outcome (pure o) := fun _ => rfl
  have hclosed : Closed (NotesNothing (σ := σ) (ρ := List String)) := closed_notesNothing
  have hchat : NotesNothing String (((a.chat prompt).beside (List String)).reword (agentFault step)) :=
    hclosed.reword (agentFault_cases step) (notesNothing_beside (a.chat prompt))
  rw [aiPrompt, agent_notingOffers ha]
  dsimp only
  rw [bind_ok (view_apply _ _)]
  split_ifs with hsame
  · exact .inl ⟨hclosed.bind hchat (fun _ => hreturn _) (x, []), .inl hsame⟩
  · cases hnamed : overrideOf model (a.provider x) with
    | none => exact absurd (by rw [hnamed]; rfl) hsame
    | some p =>
      have hback := hclosed.always hchat (notesNothing_beside (a.setProvider (a.provider x)))
      have hoffer := offersOnly_move (v := v) (notesNothing_beside (a.setProvider p)) hback p.display
      rcases hoffer.bind (fun _ => hreturn _) (x, []) with h | h
      · exact .inl ⟨h.1, .inr h.2⟩
      · exact .inr ⟨p, rfl, h⟩

/-- A step offers the model that its task names and nothing else, if it comes to that and the agent goes elsewhere for
it. -/
theorem offers_cases (ha : v.agent = some a) (s : Session) (step : Step) (x : σ) :
    (offers v s step x = [] ∧
        (step.task.provider (a.provider x) = a.provider x ∨ ∃ e, (perform v s step x).1 = .error e)) ∨
      ∃ p, step.task.named? (a.provider x) = some p ∧ offers v s step x = [p.display] := by
  rw [← (follows_perform v.follows_notingOffers s step (x, [])).1]
  by_cases hswitch : ∃ model, step.task = .switchModel model
  · obtain ⟨model, htask⟩ := hswitch
    rw [offers, perform, htask]
    dsimp only
    rw [switchModel, Task.named?, Task.spec]
    split_ifs with hblank
    · exact .inl ⟨rfl, .inr ⟨_, rfl⟩⟩
    · rcases offersOnly_chooseModel ha step.id (trim (model.getD "")) x with h | h
      · exact .inl ⟨h.1, .inr h.2⟩
      · exact .inr ⟨_, rfl, h⟩
  by_cases hprompt : ∃ prompt model, step.task = .aiPrompt prompt model
  · obtain ⟨prompt, model, htask⟩ := hprompt
    rw [offers, perform, htask, Task.provider, ← Task.overrideOf_eq_named?]
    exact offersOnly_aiPrompt ha step.id prompt model x
  · have hswitch := not_exists.mp hswitch
    have hprompt : ∀ prompt model, step.task ≠ .aiPrompt prompt model := by simpa using hprompt
    refine .inl ⟨offers_eq_nil hswitch hprompt x, .inl ?_⟩
    cases htask : step.task with
    | switchModel model => exact absurd htask (hswitch model)
    | aiPrompt prompt model => exact absurd htask (hprompt prompt model)
    | _ => rfl

end Execution

/-! ## What prompts show -/

/-- The outcome of a prompt shows under which text the model goes that was asked, and so does the variable that the step
sets. -/
structure Outcome.ShowsModel (o : Outcome) (step text : String) : Prop where
  output : (Value.obj o.output).get? "model" = some (.text text)
  exported : ∃ v, o.exports.get? (step ++ "_metadata") = some v ∧ v.get? "model" = some (.text text)

namespace Execution

open Act

variable {v : Services σ} {a : Agent σ} {s : Session} {step : Step}

theorem showsModel_of_prompt (ha : v.agent = some a) {prompt : String} {model : Option String}
    (htask : step.task = .aiPrompt prompt model) {x : σ} {o : Outcome} (ho : (perform v s step x).1 = .ok o) :
    o.ShowsModel step.id (step.task.provider (a.provider x)).display := by
  rw [perform, htask] at ho
  rw [htask, Task.provider, ← Task.overrideOf_eq_named?]
  dsimp only at ho
  rw [aiPrompt, ha] at ho
  dsimp only at ho
  rw [bind_ok (view_apply a.provider x)] at ho
  generalize (overrideOf model (a.provider x)).getD (a.provider x) = p at ho ⊢
  have hshows (response : String) : Outcome.ShowsModel {
      output := [("prompt", .text prompt), ("response", .text response), ("model", .text p.display)]
      exports := [
        (step.id ++ "_response", .text response),
        (step.id ++ "_metadata", .obj [("model", .text p.display), ("prompt", .text prompt)])] }
      step.id p.display :=
    ⟨rfl, .obj [("model", .text p.display), ("prompt", .text prompt)], by simp [Bindings.get?], rfl⟩
  refine (?_ : Ensures (fun o : Outcome => o.ShowsModel step.id p.display) _) x o ho
  split_ifs
  · exact ensures_bind fun response => ensures_return (hshows response)
  · exact ensures_bind fun response => ensures_return (hshows response)

/-- The texts under which models go in a step: what is offered is the model that the task names, in a form that means
it, and so is what a prompt shows of the model that answered. What a switch offers can be given to a switch again as it
stands, without blanks that this would drop. A step that goes to another model and succeeds has offered it. -/
structure NamesModels (v : Services σ) (a : Agent σ) (s : Session) (step : Step) (x : σ) : Prop where
  offered : ∀ text ∈ offers v s step x, ∃ p, step.task.named? (a.provider x) = some p ∧ p.IsMeantBy text
  trimmed : ∀ model, step.task = .switchModel model → ∀ text ∈ offers v s step x, trim text = text
  elsewhere : ∀ p o, step.task.named? (a.provider x) = some p → p ≠ a.provider x → (perform v s step x).1 = .ok o →
    p.display ∈ offers v s step x
  shown : ∀ prompt model o, step.task = .aiPrompt prompt model → (perform v s step x).1 = .ok o →
    step.task.spec ≠ "" ∨ (a.provider x).model ≠ "" →
      ∃ text, o.ShowsModel step.id text ∧ (step.task.provider (a.provider x)).IsMeantBy text

/-- Whatever the collaborators do, a step at a known provider names its models. -/
theorem namesModels (ha : v.agent = some a) (s : Session) (step : Step) {x : σ}
    (hknown : (a.provider x).name ∈ Provider.known) : NamesModels v a s step x := by
  have hcases := offers_cases ha s step x
  have honly {text : String} (htext : text ∈ offers v s step x) :
      ∃ p, step.task.named? (a.provider x) = some p ∧ text = p.display := by
    rcases hcases with ⟨hnone, -⟩ | ⟨p, hp, hone⟩
    · simp [hnone] at htext
    · exact ⟨p, hp, by simpa [hone] using htext⟩
  constructor
  · intro text htext
    obtain ⟨p, hp, rfl⟩ := honly htext
    exact ⟨p, hp, (Task.isNamed_of_named? hknown hp).isMeantBy⟩
  · intro model htask text htext
    obtain ⟨p, hp, rfl⟩ := honly htext
    exact Task.trim_display_of_switch hknown (htask ▸ hp)
  · intro p o hp hne ho
    rcases hcases with ⟨-, hsame | ⟨e, he⟩⟩ | ⟨q, hq, hone⟩
    · rw [Task.provider, hp] at hsame
      exact absurd hsame hne
    · rw [he] at ho
      cases ho
    · obtain rfl := Option.some.inj (hp.symm.trans hq)
      simp [hone]
  · intro prompt model o htask ho hmodel
    have hnamed : (step.task.provider (a.provider x)).IsNamed := by
      rw [Task.provider]
      cases hp : step.task.named? (a.provider x) with
      | none => exact ⟨hknown, hmodel.resolve_left (not_not.mpr (Task.spec_eq_empty_of_named? hp))⟩
      | some p => exact Task.isNamed_of_named? hknown hp
    exact ⟨_, showsModel_of_prompt ha htask ho, hnamed.isMeantBy⟩

end Execution

/-! ## Runs -/

/-- An agent that stands at a known provider with a model does so all along. -/
theorem Trail.isNamed_provider {a : Agent σ} {x y : σ} {steps : List (Begun σ)} (h : Trail a x steps y)
    (hx : (a.provider x).IsNamed) : (a.provider y).IsNamed := by
  induction h with
  | start => exact hx
  | step _ b hworld hagent ih =>
    rw [provider_done hagent, hworld]
    exact b.task.isNamed_moves ih
  | elsewhere _ hsame ih => exact hsame.symm ▸ ih

/-- Whatever text a provider is read from, what is written for it is read as the same one under every other; this is so
for the known providers with a model, and for no others. So whatever the collaborators do, the texts that a step offers
and shows mean the models for which they stand. And whatever steps follow, an agent that began at a provider that was
read from a text stands at such ones, so that this holds of each of them. -/
theorem Provider.printed_provider_means_itself :
    (∀ spec fallback : String, spec ≠ "" → fallback ∈ known → ∀ other,
      parse (parse spec fallback).display other = parse spec fallback) ∧
    (∀ p : Provider, p.IsNamed ↔ ∀ other, parse p.display other = p) ∧
    (∀ {σ : Type} (v : Services σ) (a : Agent σ) (s : Session) (step : Step) (x : σ), v.agent = some a →
      (a.provider x).name ∈ known →
        (Execution.perform v.notingOffers s step).Follows (Execution.perform v s step) ∧
          Execution.NamesModels v a s step x) ∧
    ∀ {σ : Type} (a : Agent σ) (x y : σ) (steps : List (Begun σ)), Trail a x steps y →
      (∃ spec fallback, spec ≠ "" ∧ fallback ∈ known ∧ a.provider x = parse spec fallback) →
        ∀ b ∈ steps, (a.provider b.world).IsNamed ∧
          Execution.NamesModels b.services a b.session (b.step.fill b.session.variables) b.world := by
  refine ⟨fun spec fallback hspec hknown other => parse_display (isNamed_parse hspec hknown) other,
    isNamed_iff_parse_display, ?_, ?_⟩
  · intro σ v a s step x ha hknown
    exact ⟨Execution.follows_perform v.follows_notingOffers s step, Execution.namesModels ha s step hknown⟩
  · rintro σ a x y steps htrail ⟨spec, fallback, hspec, hknown, hx⟩ b hb
    obtain ⟨before, after, hsteps⟩ := List.append_of_mem hb
    obtain ⟨hbefore, hagent⟩ := htrail.upTo before b after hsteps
    have hnamed : (a.provider b.world).IsNamed := hbefore.isNamed_provider (hx ▸ isNamed_parse hspec hknown)
    exact ⟨hnamed, Execution.namesModels hagent.agent _ _ hnamed.known⟩

namespace Begun

/-- What a switch to a model with a colon offers means that model, from wherever it is used. -/
theorem model_with_colon_means_itself :
    switching.step.task = .switchModel (some " lm_studio:{{model}} ") ∧
      Execution.offers switching.services .coding (switching.step.fill Session.coding.variables) switching.world =
        ["lm_studio:coder:7b"] ∧
      Provider.IsMeantBy ⟨"lm_studio", "coder:7b"⟩ "lm_studio:coder:7b" ∧
      Provider.parse "ollama:" "lm_studio" = ⟨"lm_studio", "ollama:"⟩ ∧
      Provider.parse "lm_studio:ollama:" "ollama" = ⟨"lm_studio", "ollama:"⟩ := by
  have hoffers : Execution.offers switching.services .coding (switching.step.fill Session.coding.variables)
      switching.world = ["lm_studio:coder:7b"] := by
    decide +kernel
  have hnamed : (switching.step.fill Session.coding.variables).task.named? switching.world =
      some ⟨"lm_studio", "coder:7b"⟩ := by
    decide +kernel
  have hparse : Provider.parse "ollama:" "lm_studio" = ⟨"lm_studio", "ollama:"⟩ := by decide +kernel
  obtain ⟨hprinted, -, -, hruns⟩ := Provider.printed_provider_means_itself
  have htrail : Trail .unreachable switching.world [switching] switching.done.2 :=
    Trail.start.step switching rfl remembersProvider_unreachable
  have hbegins : switching.world = Provider.parse "base-model" "ollama" := by decide +kernel
  obtain ⟨-, hmodels⟩ := hruns .unreachable _ _ _ htrail ⟨"base-model", "ollama", by decide, by decide, hbegins⟩
    switching List.mem_cons_self
  obtain ⟨p, hp, hmeant⟩ := hmodels.offered "lm_studio:coder:7b" (hoffers ▸ List.mem_cons_self)
  obtain rfl := Option.some.inj (hnamed.symm.trans hp)
  have hread := hprinted "ollama:" "lm_studio" (by decide) (by decide) "ollama"
  rw [hparse] at hread
  exact ⟨rfl, hoffers, hmeant, hparse, hread⟩

end Begun

end Runbook
