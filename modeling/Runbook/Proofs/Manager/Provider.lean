import Runbook.Proofs.Execution.Provider
import Runbook.Proofs.Manager.Interleaving

/-! Sessions that go on one after the other through one agent. The agent stands at the provider that was chosen last
in any of them, and that is where the prompts of all of them are sent. -/

namespace Runbook

open Repository

variable {γ : Type} {m : Manager γ} {a : Agent (World γ)} {p : Provider} {events : List (Event (World γ))}
  {x y z : World γ}

/-! ## Prompts -/

/-- The agent stands at a provider where a step is begun, and sends its prompt there if it has no model of its own. -/
structure SentTo (v : Services (World γ)) (a : Agent (World γ)) (t : Session) (step : Step) (z : World γ)
    (p : Provider) : Prop where
  provider_eq : a.provider z = p
  perform_eq : ∀ prompt model, (step.fill t.variables).task = .aiPrompt prompt model → model.getD "" = "" →
    Execution.perform v t (step.fill t.variables) z = Execution.askedUnder a step.id prompt p z

theorem sentTo_of_provider {v : Services (World γ)} (ha : v.agent = some a) {t : Session} {step : Step}
    (hprovider : a.provider z = p) : SentTo v a t step z p where
  provider_eq := hprovider
  perform_eq prompt model htask hmodel := by
    rw [Execution.perform, htask, ← hprovider]
    exact Execution.aiPrompt_of_no_model ha _ prompt hmodel z

/-! ## Agents of a manager -/

/-- The agent as it is seen by collaborators that see their own part of the world. -/
def Agent.onPartners (a : Agent γ) : Agent (World γ) where
  provider w := a.provider w.partners
  setProvider p := World.onPartners (a.setProvider p)
  chat prompt := World.onPartners (a.chat prompt)

theorem Services.RemembersProvider.onPartners {v : Services γ} {a : Agent γ} (h : v.RemembersProvider a) :
    v.onPartners.RemembersProvider a.onPartners where
  agent := by
    unfold Services.onPartners
    rw [h.agent]
    rfl
  setProvider p x := by
    obtain ⟨y, hset, hprovider⟩ := h.setProvider p x.partners
    refine ⟨{ x with partners := y }, ?_, hprovider⟩
    change World.onPartners (a.setProvider p) x = _
    rw [World.onPartners, Act.within_apply, hset]
  chat prompt x := h.chat prompt x.partners
  others := by
    have hothers := h.others
    refine ⟨fun r hr c dir t x => ?_, nofun, nofun, nofun, fun i hi d x => ?_, fun i hi repo x => ?_,
      fun i hi repo n x => ?_, fun model x => hothers.offerModel model x.partners, fun _ _ _ => rfl⟩
    · obtain ⟨r', hr', rfl⟩ := Option.map_eq_some_iff.mp hr
      exact hothers.execute r' hr' c dir t x.partners
    · obtain ⟨i', hi', rfl⟩ := Option.map_eq_some_iff.mp hi
      exact hothers.create i' hi' d x.partners
    · obtain ⟨i', hi', rfl⟩ := Option.map_eq_some_iff.mp hi
      exact hothers.latest i' hi' repo x.partners
    · obtain ⟨i', hi', rfl⟩ := Option.map_eq_some_iff.mp hi
      exact hothers.merge i' hi' repo n x.partners

namespace Manager

/-- The agent of the collaborators is among them, and nothing but their own doing moves it. -/
structure RemembersProvider (m : Manager γ) (a : Agent (World γ)) : Prop where
  services : m.services.RemembersProvider a
  partners : ∀ x y : World γ, y.partners = x.partners → a.SameProvider x y
  newId : Act.Moves a.SameProvider String m.newId

theorem partners_save (m : Manager γ) (s : Session) (x : World γ) : (m.save s x).2.partners = x.partners := by
  rcases save_steps m s x with ⟨f, -, happly⟩ | ⟨e, f, -, happly⟩ <;> rw [happly]

theorem RemembersProvider.engine (h : m.RemembersProvider a) (now : String) :
    (m.engine now).RemembersProvider a where
  services := h.services
  save s x := h.partners _ _ (m.partners_save s x)

/-- What comes before the run does nothing but look at the files, make a new id, save the session and take the
token. -/
theorem moves_opening {R : World γ → World γ → Prop} (hrefl : ∀ x, R x x) (htrans : ∀ x y z, R x y → R y z → R x z)
    (hsave : ∀ s, Act.Moves R Unit (m.save s)) (htoken : ∀ (x : World γ) token, R x { x with token })
    (hnew : Act.Moves R String m.newId) (q : Request) : Act.Moves R (Workflow × Session) (m.opening q) := by
  have hclosed := Act.closed_moves hrefl htrans
  have hlook {α : Type} {act : Act (World γ) α} (h : ∀ x, (act x).2 = x) : Act.Moves R α act := fun x => by
    rw [h x]
    exact hrefl x
  have hexcept {α : Type} (r : Except Fault α) : Act.Moves R α (Act.ofExcept r) := hlook fun x => by
    rw [Act.ofExcept_apply]
  have hstart (now : String) (w : Workflow) (given : Bindings) (asked : Option String) (token : Token) :
      Act.Moves R (Workflow × Session) (m.openStart now w given asked token) := by
    have hfresh (id : String) : Act.Moves R (Workflow × Session) (m.openFresh now w given id token) := by
      refine hclosed.bind (hlook fun x => ?_) fun _ => hclosed.bind (hsave _) fun _ =>
        hclosed.bind (fun x => htoken x token) fun _ => hrefl
      cases (initial w given id now).key.path <;> rfl
    have hopen := hclosed.bind (idOr_moves hrefl hnew asked) hfresh
    unfold openStart
    cases asked with
    | none => exact hopen
    | some i => exact hclosed.bind (hlook fun x => checkFree_world m now w _ x) fun _ => hopen
  cases q with
  | start now w given asked token => exact hstart now w given asked token
  | startNamed now name given asked token =>
    exact hclosed.bind (hlook fun _ => rfl) fun w => hstart now w given asked token
  | resume now key answer token =>
    refine hclosed.bind (hlook fun _ => rfl) fun d => hclosed.bind (hlook fun _ => rfl) fun w =>
      hclosed.bind (fun x => htoken x token) fun _ => ?_
    split_ifs
    · exact hrefl
    · exact hclosed.bind (hexcept _) fun t => hclosed.bind (hsave _) fun _ => hrefl

theorem RemembersProvider.opening (h : m.RemembersProvider a) (q : Request) :
    Act.Moves a.SameProvider (Workflow × Session) (m.opening q) :=
  moves_opening (R := a.SameProvider) (fun _ => rfl) (fun _ _ _ h h' => h'.trans h)
    (fun s x => h.partners _ _ (m.partners_save s x)) (fun x _ => h.partners x _ rfl) h.newId q

/-! ## Series of requests -/

/-- A request with the events of its run. -/
def requestTrace (m : Manager γ) (q : Request) (x : World γ) :
    List (Event (World γ)) × (Except Fault Session × World γ) :=
  match m.opening q x with
  | (.error f, y) => ([], (.error f, y))
  | (.ok (w, s), y) => (m.engine q.now).runTrace w s y

/-- The trace of a request ends as the request ends. -/
theorem perform_eq_requestTrace (m : Manager γ) (q : Request) (x : World γ) :
    q.call.perform m x = ((m.requestTrace q x).2.1.map some, (m.requestTrace q x).2.2) := by
  rw [perform_request, Act.bind_apply]
  unfold requestTrace
  rcases m.opening q x with ⟨f | ⟨w, s⟩, y⟩
  · rfl
  · dsimp only
    rw [Engine.runTrace_snd, Act.bind_apply]
    rcases (m.engine q.now).run w s y with ⟨f | t, z⟩ <;> rfl

/-- Requests that come one after the other, with the events of their runs. Each is asked to stop when it pleases. What
else happens between them leaves the agent where it is. -/
inductive Series (m : Manager γ) (a : Agent (World γ)) (x : World γ) : List (Event (World γ)) → World γ → Prop where
  | nil : Series m a x [] x
  | request {events : List (Event (World γ))} {y : World γ} (h : Series m a x events y)
      (cancelled : World γ → Bool) (q : Request) :
      Series m a x (events ++ (requestTrace { m with cancelled } q y).1) (q.call.perform { m with cancelled } y).2
  | elsewhere {events : List (Event (World γ))} {y z : World γ} (h : Series m a x events y)
      (hsame : a.SameProvider y z) : Series m a x events z

namespace RemembersProvider

theorem asked (h : m.RemembersProvider a) (cancelled : World γ → Bool) :
    RemembersProvider { m with cancelled } a := ⟨h.services, h.partners, h.newId⟩

theorem requestTrace (h : m.RemembersProvider a) (q : Request) (x : World γ) :
    Stands m.services a (a.provider x) (m.requestTrace q x).1 (a.provider (q.call.perform m x).2) := by
  have hsame := h.opening q x
  rw [perform_eq_requestTrace]
  unfold Manager.requestTrace
  rcases hopening : m.opening q x with ⟨f | ⟨w, s⟩, y⟩
  · rw [hopening] at hsame
    dsimp only
    rw [show a.provider y = a.provider x from hsame]
    exact .nil _
  · rw [hopening] at hsame
    dsimp only
    rw [show a.provider x = a.provider y from hsame.symm]
    exact (h.engine q.now).runTrace w s y

theorem series (h : m.RemembersProvider a) (hseries : m.Series a x events y) :
    Stands m.services a (a.provider x) events (a.provider y) := by
  induction hseries with
  | nil => exact .nil _
  | request _ cancelled q ih => exact ih.append ((h.asked cancelled).requestTrace q _)
  | elsewhere _ hsame ih => rwa [show a.provider _ = a.provider _ from hsame]

end RemembersProvider

/-- A prompt without a model of its own is sent to the provider that was chosen last in any of the sessions that went
on before, whichever that is, and to the default one if none was. So a run that begins with the agent at the choice of
its own session sends every prompt to that session's last choice. -/
theorem prompts_go_to_last_choice (h : m.RemembersProvider a) (hx : a.provider x = p)
    (hseries : m.Series a x events y) :
    (∀ before t step z after, events = before ++ .began t step z :: after →
      SentTo m.services a t step z ((lastChoice m.services before).getD p)) ∧
    ∀ (q : Request) cancelled w s z, m.opening q y = (.ok (w, s), z) → a.provider z = s.choice?.getD p →
      ∀ t step u, .began t step u ∈ (requestTrace { m with cancelled } q y).1 →
        SentTo m.services a t step u (t.choice?.getD p) := by
  refine ⟨fun before t step z after hevents => ?_, fun q cancelled w s z hopening hown t step u hmem => ?_⟩
  · have hstands := h.series hseries
    rw [hevents, hx] at hstands
    exact sentTo_of_provider h.services.agent hstands.provider_eq
  · have hengine := (h.asked cancelled).engine q.now
    rw [requestTrace, opening_cancelled, hopening] at hmem
    exact sentTo_of_provider h.services.agent (Engine.own_choice_runTrace hengine w hown t step u hmem)

/-! ## Two sessions, of which one chooses a provider -/

end Manager

namespace Provider

def base : Provider := ⟨"ollama", "base-model"⟩

def other : Provider := ⟨"ollama", "other"⟩

end Provider

/-- A conversation with models that say who they are. -/
def echoing : Talk Conversation where
  conversation := id
  replace c _ := c
  services _ := {
    generate := fun _ model _ => pure ⟨model.getD "", model.getD ""⟩
    models := pure []
    isAvailable := pure true }

namespace Workflow

/-- Switches the model. -/
def choosing : Workflow where
  name := "one"
  steps := [⟨"pick", none, .switchModel (some "ollama:other")⟩]

/-- Asks a prompt, of whatever model. -/
def prompting : Workflow where
  name := "two"
  steps := [⟨"ask", none, .aiPrompt "Hi" none⟩]

end Workflow

namespace Manager

/-- A manager whose sessions share the one conversation. -/
def talking : Manager Conversation where
  store := ⟨⟨true, ["state"]⟩⟩
  directories := []
  services := Services.onPartners {
    runner := none
    agent := some echoing.agent
    hosting := none
    offerModel := fun _ c => c
    fileExists := fun _ _ => pure false
    shellTimeout := .nan }
  maxIterations := 2
  newId := World.onPartners (pure "s")

/-- The agent at the default provider, and no session. -/
def unasked : World Conversation where
  files := {}
  partners := { provider := .base }

theorem remembersProvider_talking : talking.RemembersProvider echoing.agent.onPartners where
  services := Services.RemembersProvider.onPartners <|
    Talk.remembersProvider (t := echoing) ⟨fun _ _ => rfl, fun _ _ _ _ _ => rfl⟩ rfl
      ⟨nofun, nofun, nofun, nofun, nofun, nofun, nofun, fun _ _ => rfl, fun _ _ _ => rfl⟩
  partners _ _ h := congrArg Conversation.provider h
  newId _ := rfl

/-- Starts a session of a workflow. -/
def startOf (w : Workflow) : Request := .start "t" w [] none {}

/-- A session that can be written begins with its first step. -/
theorem exists_first_step {w : Workflow} {step : Step} {path : String} {x : World Conversation}
    (hpath : (initial w [] "s" "t").key.path = .ok path) (htext : ∃ text, fileText (initial w [] "s" "t") = .ok text)
    (hwrite : ∀ data, (talking.store.write path data x.files).1 = .ok ())
    (hstep : Engine.stepOf? w (initial w [] "s" "t") = some step) :
    ∃ y events, talking.opening (startOf w) x = (.ok (w, initial w [] "s" "t"), y) ∧ y.partners = x.partners ∧
      (talking.requestTrace (startOf w) x).1 = .began (initial w [] "s" "t") step y :: events := by
  obtain ⟨y, hsave, hopening⟩ : ∃ y, talking.save (initial w [] "s" "t") x = (.ok (), y) ∧
      talking.opening (startOf w) x = (.ok (w, initial w [] "s" "t"), { y with token := {} }) :=
    exists_opening_start (fun _ hnone => by cases hnone) rfl hpath htext hwrite
  obtain ⟨events, hevents⟩ := Engine.exists_runTrace_eq_began (s := initial w [] "s" "t") (x := { y with token := {} })
    (talking.engine "t") rfl rfl hstep
  refine ⟨_, events, hopening, (save_eq_ok hsave).2.2, ?_⟩
  rw [requestTrace, hopening]
  exact hevents

/-- The files of the session that chooses. -/
def filesOfChoice : Files := (talking.store.write "one/s.json" [] {}).2

/-- No session was saved but the one that chooses. -/
def HoldsChoice (x : World Conversation) : Prop := x.files = {} ∨ Files.Alike (fun _ => True) filesOfChoice x.files

theorem holdsChoice_write (data : List UInt8) {f : Files} (h : f = {} ∨ Files.Alike (fun _ => True) filesOfChoice f) :
    Files.Alike (fun _ => True) filesOfChoice (talking.store.write "one/s.json" data f).2 := by
  have hpath : (⟨"one", "s"⟩ : SessionKey).path = .ok "one/s.json" := rfl
  have hfirst : talking.store.write "one/s.json" [] {} = (.ok (), filesOfChoice) := rfl
  rcases h with rfl | h
  · exact (Store.write_alike (.refl _ _) trivial [] data).2
  · have hagain : Files.Alike (fun _ => True) (talking.store.write "one/s.json" [] filesOfChoice).2
        (talking.store.write "one/s.json" data f).2 := (Store.write_alike h trivial [] data).2
    rwa [Store.write_write (Store.isLasting_placeBelow hpath talking.store {}) hfirst] at hagain

theorem guards_talking : talking.Guards "t" (fun _ s => s.key = ⟨"one", "s"⟩) HoldsChoice where
  keeps w := {
    toPreserves := Engine.preserves_key _ _ _
    perform := fun s step x hx => by
      have hsame : Act.Moves World.SameStore Outcome ((talking.engine "t").performed s step) :=
        (talking.engine "t").performed_all World.closed_sameStore (World.moves_onPartners _) s step
      unfold HoldsChoice at hx ⊢
      rwa [(hsame x).files_eq]
    save := fun s x hkey hx => by
      have hkey' : s.key = ⟨"one", "s"⟩ := hkey
      have hfiles : ((talking.engine "t").save s x).2.files = (Repository.save talking.store s x.files).2 := by
        rcases save_steps talking s x with ⟨f, hsave, happly⟩ | ⟨e, f, hsave, happly⟩
        · rw [hsave, show (talking.engine "t").save s x = _ from happly]
        · rw [hsave, show (talking.engine "t").save s x = _ from happly]
      unfold HoldsChoice
      rw [hfiles, Repository.save_apply, hkey']
      cases fileText s with
      | error f => exact hx
      | ok text => exact .inr (holdsChoice_write _ hx) }
  token _ _ h := h

theorem write_prompting {x : World Conversation} (hx : HoldsChoice x) (data : List UInt8) :
    (talking.store.write "two/s.json" data x.files).1 = .ok () := by
  rcases hx with hx | hx
  · rw [hx]
    rfl
  · have hfirst : (talking.store.write "two/s.json" [] filesOfChoice).1.isOk = true := by decide +kernel
    rw [(Store.write_alike hx trivial [] data).1]
    cases hok : (talking.store.write "two/s.json" [] filesOfChoice).1 with
    | ok u => rfl
    | error f =>
      rw [hok] at hfirst
      cases hfirst

/-- The session that chooses has run when the other one is started. -/
theorem holdsChoice_of_start : HoldsChoice ((startOf .choosing).call.perform talking unasked).2 := by
  have hkey (id : String) (hid : (talking.idOr none unasked).1 = .ok id) :
      (initial .choosing [] id "t").key = ⟨"one", "s"⟩ := congrArg (SessionKey.mk "one") (Except.ok.inj hid).symm
  have hstart : HoldsChoice (talking.start "t" .choosing [] none {} unasked).2 :=
    (guards_talking.start (.inl rfl) hkey {} (.inl rfl)).1
  have hperform : (startOf .choosing).call.perform talking =
      (do return some (← talking.start "t" .choosing [] none {}).session) := rfl
  rw [hperform, Act.bind_apply]
  cases hresult : (talking.start "t" .choosing [] none {} unasked).1 <;> exact hstart

/-- Whatever the session holds and wherever the agent stands, the other provider is chosen. -/
theorem choice?_of_choosing {t : Session} {step : Step} (z : World Conversation)
    (h : Engine.stepOf? .choosing t = some step) :
    (Event.began t step z).choice? talking.services = some .other := by
  have hstep : step ∈ Workflow.choosing.steps := by
    unfold Engine.stepOf? at h
    split at h
    · split_ifs at h
      exact List.mem_of_find?_eq_some h
    · cases h
  obtain rfl := List.mem_singleton.mp hstep
  have hfill : Step.fill ⟨"pick", none, .switchModel (some "ollama:other")⟩ t.variables =
      ⟨"pick", none, .switchModel (some "ollama:other")⟩ := rfl
  have hperform : Execution.perform talking.services t ⟨"pick", none, .switchModel (some "ollama:other")⟩ z =
      Execution.chooseModel talking.services "pick" "ollama:other" z := rfl
  have hchoice : choiceOf "switch-model" (Execution.chooseModel talking.services "pick" "ollama:other" z).1 =
      some (.parse "ollama:other" z.partners.provider.name) := rfl
  have hparse : Provider.parse "ollama:other" z.partners.provider.name = .other := rfl
  simp only [Event.choice?]
  rw [hfill, hperform, ← hparse]
  exact hchoice

/-- One session chooses a provider, and another one comes to its prompt. -/
theorem exists_series :
    ∃ before t step z after y,
      talking.Series echoing.agent.onPartners unasked (before ++ .began t step z :: after) y ∧
        lastChoice talking.services before = some .other ∧ t.choice? = none ∧ t.name = "two" ∧
        (step.fill t.variables).task = .aiPrompt "Hi" none := by
  have hchoosing : ∃ text, fileText (initial .choosing [] "s" "t") = .ok text :=
    exists_fileText_of_pending rfl rfl rfl rfl
  have hprompting : ∃ text, fileText (initial .prompting [] "s" "t") = .ok text :=
    exists_fileText_of_pending rfl rfl rfl rfl
  obtain ⟨x, rest, hopening, -, hchosen⟩ := exists_first_step (x := unasked) rfl hchoosing (fun _ => rfl) rfl
  obtain ⟨y, after, -, -, hasked⟩ := exists_first_step rfl hprompting (write_prompting holdsChoice_of_start) rfl
  have hseries := ((Series.nil (m := talking) (a := echoing.agent.onPartners) (x := unasked)).request talking.cancelled
    (startOf .choosing)).request talking.cancelled (startOf .prompting)
  rw [hasked, List.nil_append] at hseries
  refine ⟨_, _, _, _, _, _, hseries, ?_, rfl, rfl, rfl⟩
  rw [requestTrace, hopening] at hchosen ⊢
  refine lastChoice_eq_of_forall (fun event hmem p hchoice => ?_) ⟨_, hchosen ▸ List.mem_cons_self, ?_⟩
  · cases event with
    | began t step z =>
      exact Option.some.inj (hchoice.symm.trans (choice?_of_choosing z (Engine.stepOf?_of_began hmem)))
    | saved t z => cases hchoice
  · exact choice?_of_choosing x rfl

/-- The prompt that comes after a choice goes to it; alone, it goes to the default provider. -/
theorem prompts_of_two_sessions :
    (∃ before t step z after y,
      talking.Series echoing.agent.onPartners unasked (before ++ .began t step z :: after) y ∧
        (step.fill t.variables).task = .aiPrompt "Hi" none ∧
        SentTo talking.services echoing.agent.onPartners t step z .other) ∧
      ∃ t step z, .began t step z ∈ (talking.requestTrace (startOf .prompting) unasked).1 ∧
        (step.fill t.variables).task = .aiPrompt "Hi" none ∧
        SentTo talking.services echoing.agent.onPartners t step z .base := by
  constructor
  · obtain ⟨before, t, step, z, after, y, hseries, hlast, -, -, htask⟩ := exists_series
    have hsent := (prompts_go_to_last_choice remembersProvider_talking rfl hseries).1 before t step z after rfl
    rw [hlast] at hsent
    exact ⟨before, t, step, z, after, y, hseries, htask, hsent⟩
  · have htext : ∃ text, fileText (initial .prompting [] "s" "t") = .ok text :=
      exists_fileText_of_pending rfl rfl rfl rfl
    obtain ⟨z, after, hopening, hpartners, hasked⟩ := exists_first_step (x := unasked) rfl htext (fun _ => rfl) rfl
    have hmem : .began (initial .prompting [] "s" "t") ⟨"ask", none, .aiPrompt "Hi" none⟩ z ∈
        (talking.requestTrace (startOf .prompting) unasked).1 := hasked ▸ List.mem_cons_self
    have hown : echoing.agent.onPartners.provider z = .base := congrArg Conversation.provider hpartners
    exact ⟨_, _, _, hmem, rfl, (prompts_go_to_last_choice remembersProvider_talking rfl .nil).2 (startOf .prompting)
      talking.cancelled _ _ _ hopening hown _ _ _ hmem⟩

/-- A prompt of a session that has chosen nothing is answered by the choice of another session and not by the default
provider. -/
theorem exists_prompt_that_goes_elsewhere :
    ∃ before t step z after y,
      talking.Series echoing.agent.onPartners unasked (before ++ .began t step z :: after) y ∧
        echoing.agent.onPartners.provider unasked = .base ∧
        (step.fill t.variables).task = .aiPrompt "Hi" none ∧ t.choice? = none ∧
        (∃ o, (Execution.perform talking.services t (step.fill t.variables) z).1 = .ok o ∧
          ("response", .text "other") ∈ o.output) ∧
        ¬SentTo talking.services echoing.agent.onPartners t step z (t.choice?.getD .base) := by
  obtain ⟨before, t, step, z, after, y, hseries, hlast, hnone, -, htask⟩ := exists_series
  have hprovider : echoing.agent.onPartners.provider z = .other := by
    rw [(remembersProvider_talking.series hseries).provider_eq, hlast]
    rfl
  refine ⟨before, t, step, z, after, y, hseries, rfl, htask, hnone, ?_, fun hsent => ?_⟩
  · have hsent : SentTo talking.services echoing.agent.onPartners t step z .other :=
      sentTo_of_provider remembersProvider_talking.services.agent hprovider
    have hchat : (echoing.agent.onPartners.chat "Hi" z).1 = .ok "other" := by
      have hreply : (echoing.chat "Hi" z.partners).1 = .ok (Reasoning.strip z.partners.noteAsked.provider.model) := rfl
      have hmodel : z.partners.provider = .other := hprovider
      have hplain : Reasoning.strip Provider.other.model = "other" := by decide +kernel
      rw [Talk.provider_noteAsked, hmodel, hplain] at hreply
      exact hreply
    rw [hsent.perform_eq "Hi" none htask rfl, Execution.askedUnder, Act.bind_apply, Act.reword_apply, hchat]
    exact ⟨_, rfl, by simp⟩
  · have hbase := hprovider.symm.trans hsent.provider_eq
    rw [hnone] at hbase
    exact absurd hbase (by decide)

end Manager

end Runbook
