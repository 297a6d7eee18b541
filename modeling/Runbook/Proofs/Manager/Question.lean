import Runbook.Proofs.Execution.Failing
import Runbook.Proofs.Manager.Containment
import Runbook.Proofs.Manager.Interruption
import Runbook.Proofs.Manager.Refusal
import Runbook.Proofs.Session.History
import Runbook.Proofs.Session.RoundTrip
import Runbook.Proofs.Workflow.Answer

/-! The question at which a session waits: the one that is shown is the one that the history records, and each of its
choices can be the answer. -/

namespace Runbook

/-! ## Outputs that ask nothing -/

namespace Value

variable {v : Value} {b : Bindings} {name : String}

/-- The value is null, or a map from other names. -/
def Lacks (v : Value) (name : String) : Prop := v = .null ∨ ∃ b : Bindings, v = .obj b ∧ name ∉ b.names

theorem Lacks.get?_eq_none (h : v.Lacks name) : v.get? name = none := by
  rcases h with rfl | ⟨b, rfl, hname⟩
  · rfl
  · exact (lookup?_obj b name).trans (Bindings.get?_eq_none_iff.mpr hname)

/-- What is read back has no other names than what was saved. -/
theorem Lacks.stored (h : v.Lacks name) : v.stored.Lacks name := by
  rcases h with rfl | ⟨b, rfl, hname⟩
  · exact .inl rfl
  · right
    cases hplain : (Value.obj b).plain with
    | error e => exact ⟨b, by rw [Value.stored, hplain], hname⟩
    | ok w =>
      refine ⟨b.stored, by rw [stored_of_plain hplain, reread_plainBindings hplain], fun hmem => ?_⟩
      rcases Bindings.mem_names_update hmem with hnil | hmap
      · exact List.not_mem_nil hnil
      · exact hname (by simpa [Bindings.names, Function.comp_def] using hmap)

end Value

/-! ## Questions as they are asked -/

namespace Step

/-- The question of a step, with these variables in its prompt. -/
def request (step : Step) (q : Question) (b : Bindings) : InputRequest :=
  ⟨step.id, { q with prompt := Template.fill q.prompt b }⟩

end Step

namespace InputRequest

/-- What the history records of a question. -/
def recorded (r : InputRequest) : Value := .obj (("waitingForInput", .bool true) :: r.toFields)

theorem get?_recorded (r : InputRequest) : r.recorded.get? "waitingForInput" = some (.bool true) := rfl

/-- What is recorded of a question with a finite timeout can be written. -/
theorem isPortable_recorded {r : InputRequest} (htimeout : ∀ t, r.question.timeoutMs = some t → t.isFinite = true) :
    r.recorded.IsPortable := by
  have htext (o : Option String) : (optionText o).IsPortable := by
    cases o with
    | none => exact .null
    | some s => exact .text s
  have hnumber : (optionNumber r.question.timeoutMs).IsPortable := by
    cases ht : r.question.timeoutMs with
    | none => exact .null
    | some t => exact .num (htimeout t ht)
  have hchoices : (Value.list (r.question.choices.map .text)).IsPortable := by
    refine .list fun v hv => ?_
    obtain ⟨c, -, rfl⟩ := List.mem_map.mp hv
    exact .text c
  refine .obj (by simp [Bindings.names, toFields]) ?_
  unfold toFields
  simp only [List.forall_mem_cons]
  exact ⟨.bool true, .text _, .text _, .text _, hchoices, htext _, htext _, hnumber, .text _, List.forall_mem_nil _⟩

end InputRequest

namespace Standing

variable {st : Standing} {r : InputRequest}

/-- A question is shown where the session waits. -/
theorem inputRequest_eq_some_iff :
    st.inputRequest = some r ↔
      ∃ step q, Engine.WaitsAt st.workflow st.session step q ∧ r = step.request q st.session.variables := by
  unfold inputRequest
  constructor
  · intro h
    split_ifs at h with hpaused
    split at h
    · rename_i step hstep
      cases htask : step.task with
      | interactive q =>
        simp only [Step.fill, htask, Task.fill] at h
        exact ⟨step, q, ⟨hstep, htask, hpaused⟩, (Option.some.inj h).symm⟩
      | _ => simp [Step.fill, htask, Task.fill] at h
    · cases h
  · rintro ⟨step, q, ⟨hstep, htask, hpaused⟩, rfl⟩
    simp only [hpaused, if_true, hstep, Step.fill, htask, Task.fill, Step.request]

theorem inputRequest_eq_none (h : ∀ step q, ¬Engine.WaitsAt st.workflow st.session step q) :
    st.inputRequest = none := by
  refine Option.eq_none_iff_forall_ne_some.mpr fun r hr => ?_
  obtain ⟨step, q, hwaits, -⟩ := inputRequest_eq_some_iff.mp hr
  exact h step q hwaits

end Standing

/-! ## What the history records of a question -/

/-- The timeouts of all questions are finite. -/
def Workflow.HasFiniteTimeouts (w : Workflow) : Prop :=
  ∀ step ∈ w.steps, ∀ q, step.task = .interactive q → ∀ t, q.timeoutMs = some t → t.isFinite = true

/-- A record asks nothing, or it is of the question of its step as it is asked with these variables. -/
def StepRecord.AsksWith (w : Workflow) (b : Bindings) (r : StepRecord) : Prop :=
  r.output.Lacks "waitingForInput" ∨
    ∃ step q, w.getStep? r.stepId = some step ∧ r.stepId ≠ "" ∧ step.task = .interactive q ∧
      r.output = (step.request q b).recorded

namespace Session

variable {w : Workflow} {s t : Session} {r : StepRecord}

/-- The variables are values of JSON with finite numbers. -/
def HasJsonVariables (s : Session) : Prop := s.variables.names.Nodup ∧ ∀ e ∈ s.variables, e.2.IsJson

/-- The last record of the history is of a question. -/
def IsAsking (s : Session) : Prop := ∃ r ∈ s.history.getLast?, r.output.get? "waitingForInput" = some (.bool true)

/-- The last record of the history is of the question that is asked with the variables of the session, if it is of
a question. Whether the session is paused does not matter: one that is stopped before it asks again shows the
question that it asked before. -/
def AsksAsRecorded (w : Workflow) (s : Session) : Prop := ∀ r ∈ s.history.getLast?, r.AsksWith w s.variables

theorem AsksAsRecorded.congr (h : s.AsksAsRecorded w) (hhistory : t.history = s.history)
    (hvariables : t.variables = s.variables) : t.AsksAsRecorded w := by
  unfold AsksAsRecorded
  rw [hhistory, hvariables]
  exact h

theorem asksAsRecorded_of_last (hhistory : t.history = s.history ++ [r]) (h : r.AsksWith w t.variables) :
    t.AsksAsRecorded w := by
  intro last hlast
  rw [hhistory, List.getLast?_concat] at hlast
  obtain rfl := Option.some.inj hlast
  exact h

/-- What is read back is asked as it was recorded, if the variables are read back. -/
theorem AsksAsRecorded.stored (hw : w.HasFiniteTimeouts) (hjson : s.IsAsking → s.HasJsonVariables)
    (h : s.AsksAsRecorded w) : s.stored.AsksAsRecorded w := by
  intro last hlast
  have hhistory : s.stored.history.getLast? = s.history.getLast?.map StepRecord.stored := List.getLast?_map
  rw [hhistory] at hlast
  obtain ⟨r, hr, rfl⟩ := Option.map_eq_some_iff.mp hlast
  rcases h r hr with hlacks | ⟨step, q, hget, hid, htask, houtput⟩
  · exact .inl hlacks.stored
  · -- The prompt was filled before the save, so the variables have to be the same after it.
    obtain ⟨hnames, hvalues⟩ := hjson ⟨r, hr, houtput ▸ InputRequest.get?_recorded _⟩
    refine .inr ⟨step, q, hget, hid, htask, ?_⟩
    have hvariables : s.stored.variables = s.variables := Bindings.stored_eq hnames hvalues
    have htimeout := hw step (List.mem_of_find?_eq_some hget) q htask
    change r.output.stored = _
    rw [houtput, hvariables]
    exact (InputRequest.isPortable_recorded htimeout).isJson.stored_eq

end Session

namespace Engine

open Execution Session

variable {σ : Type} {e : Engine σ} {w : Workflow} {s t : Session} {step : Step} {x : σ} {o : Outcome}

theorem performed_question {q : Question} (htask : step.task = .interactive q)
    (hdone : (e.performed s step x).1 = .ok o) :
    o = { output := ("waitingForInput", .bool true) :: (step.request q s.variables).toFields,
          request := some (step.request q s.variables) } := by
  have hfill : (step.fill s.variables).task = .interactive { q with prompt := Template.fill q.prompt s.variables } := by
    rw [Step.fill, htask, Task.fill]
  exact perform_interactive e.services hfill x o hdone

/-- Only questions are recorded as such. -/
theorem performed_lacks (htask : ∀ q, step.task ≠ .interactive q) (hdone : (e.performed s step x).1 = .ok o) :
    (Value.obj o.output).Lacks "waitingForInput" := by
  refine .inr ⟨o.output, rfl, ?_⟩
  cases h : step.task with
  | interactive q => exact absurd h (htask q)
  | conditional check onTrue onFalse =>
    have hfill : (step.fill s.variables).task = .conditional check onTrue onFalse := by rw [Step.fill, h, Task.fill]
    obtain ⟨holds, target, -, rfl⟩ := perform_conditional e.services hfill x o hdone
    simp [Bindings.names]
  | loop target condition maxIterations =>
    have hfill : (step.fill s.variables).task = .loop target condition maxIterations := by rw [Step.fill, h, Task.fill]
    obtain ⟨again, rfl⟩ := perform_loop e.services hfill x o hdone
    simp [Bindings.names]
  | _ =>
    have hflow : (step.fill s.variables).task.isFlow = false := by
      rw [Step.fill, Task.isFlow_fill, h]
      rfl
    exact (plain_perform e.services s hflow x o hdone).2.2

/-- The step of a question does not fail. -/
theorem not_unsuccessful_question {q : Question} (htask : step.task = .interactive q) :
    ¬e.Unsuccessful w s step (some o) := by
  intro h
  obtain ⟨⟨x, hdone⟩, f, hjudge⟩ := h o rfl
  rw [performed_question htask hdone] at hjudge
  cases hjudge

theorem asksAsRecorded_afterFailure {o : Option Outcome} (ho : e.Unsuccessful w s step o) (message : String) :
    (e.afterFailure s step o message).AsksAsRecorded w := by
  refine asksAsRecorded_of_last rfl (.inl ?_)
  cases o with
  | none => exact .inl rfl
  | some o =>
    -- An outcome that was refused is not of a question, since asking always succeeds.
    obtain ⟨⟨x, hdone⟩, -⟩ := ho o rfl
    exact performed_lacks (fun q htask => not_unsuccessful_question htask ho) hdone

theorem asksAsRecorded_moveTo (h : s.AsksAsRecorded w) (target : Option String) (now : String) :
    (s.moveTo target now).AsksAsRecorded w := by
  cases target <;> exact h.congr rfl rfl

theorem asksAsRecorded_afterSuccess (hstep : stepOf? w s = some step) (hdone : (e.performed s step x).1 = .ok o)
    (next : Option String) (iterations : ℤ) : (e.afterSuccess s step o next iterations).AsksAsRecorded w := by
  have hrecorded : (e.successRecord step o).AsksWith w (s.variables.update o.exports) := by
    by_cases hquestion : ∃ q, step.task = .interactive q
    · obtain ⟨q, htask⟩ := hquestion
      have ho := performed_question htask hdone
      refine .inr ⟨step, q, (stepOf?_eq_some hstep).2, id_ne_empty hstep, htask, ?_⟩
      rw [ho]
      rfl
    · exact .inl (performed_lacks (fun q htask => hquestion ⟨q, htask⟩) hdone)
  have hstays : (e.succeeded s step o iterations).AsksAsRecorded w := asksAsRecorded_of_last rfl hrecorded
  rw [afterSuccess_eq]
  split_ifs
  · exact hstays.congr rfl rfl
  · exact asksAsRecorded_moveTo hstays next e.now

theorem asksAsRecorded_turn (h : s.AsksAsRecorded w) (hturn : Turn e w s t) : t.AsksAsRecorded w := by
  cases hturn with
  | stopped => exact h.congr rfl rfl
  | lost hlost => exact h.congr rfl rfl
  | finished hstep hdone hsuccess htarget => exact asksAsRecorded_afterSuccess hstep hdone _ _
  | interrupted hstep ho => exact (asksAsRecorded_afterFailure ho _).congr rfl rfl
  | broken hstep ho => exact (asksAsRecorded_afterFailure ho _).congr rfl rfl

/-- What is asked stays as it was recorded, whatever the engine does with a session. -/
theorem preserves_asksAsRecorded (e : Engine σ) (w : Workflow) : e.Preserves w (·.AsksAsRecorded w) where
  turn _ _ h _ _ _ hturn := asksAsRecorded_turn h hturn
  answered s a t _ _ ha := by
    obtain ⟨step, q, value, shown, -, -, -, rfl⟩ := answered_eq_ok ha
    have hanswer : (Value.obj [("answer", shown), ("variable", .text (Step.answerVariable step.id q))]).Lacks
        "waitingForInput" := .inr ⟨_, rfl, by simp [Bindings.names]⟩
    exact (asksAsRecorded_moveTo (asksAsRecorded_of_last rfl (.inl hanswer)) _ _).congr rfl rfl
  resumed _ h _ := h.congr rfl rfl

end Engine

namespace Standing

/-- The question that is shown of a paused session is the one that its history records last for its step, and no
question is shown of a session that waits at none. -/
structure ShowsAsRecorded (st : Standing) : Prop where
  shown : ∀ r ∈ st.session.history.getLast?, st.session.paused = true → st.session.currentStep = some r.stepId →
    r.output.get? "waitingForInput" = some (.bool true) →
    ∃ request, st.inputRequest = some request ∧ r.output = request.recorded
  absent : (∀ step q, ¬Engine.WaitsAt st.workflow st.session step q) → st.inputRequest = none

theorem showsAsRecorded {st : Standing} (h : st.session.AsksAsRecorded st.workflow) : st.ShowsAsRecorded where
  shown r hr hpaused hcurrent hasks := by
    rcases h r hr with hlacks | ⟨step, q, hget, hid, htask, houtput⟩
    · cases hasks.symm.trans hlacks.get?_eq_none
    · have hwaits : Engine.WaitsAt st.workflow st.session step q :=
        ⟨Engine.stepOf?_of_current hcurrent hid hget, htask, hpaused⟩
      exact ⟨_, inputRequest_eq_some_iff.mpr ⟨step, q, hwaits, rfl⟩, houtput⟩
  absent := inputRequest_eq_none

end Standing

namespace Manager

open Repository

variable {γ : Type} {m : Manager γ} {w : Workflow} {id : String} {x : World γ}

theorem invariant_asksAsRecorded (m : Manager γ) (hw : w.HasFiniteTimeouts) (id : String) :
    m.InvariantWhere w id (fun s => s.IsAsking → s.HasJsonVariables) (·.AsksAsRecorded w) where
  initial _ _ := nofun
  preserves now cancelled := Engine.preserves_asksAsRecorded ({ m with cancelled }.engine now) w
  stored _ _ hjson h _ := h.stored hw hjson

/-- Where an operation leaves a session paused at a question, the question that is shown is the one that the history
records last, also after the session is read back; where it waits for no answer none is shown. -/
theorem question_shown_is_question_recorded (hw : w.HasFiniteTimeouts) (halone : m.LeavesAlone ⟨w.name, id⟩)
    (h : m.Reached w id x) {r : Except Fault Standing × World γ} (hop : m.Operation w id x r)
    (hjson : ∀ s ∈ r.2.saves, s.key = ⟨w.name, id⟩ → s.IsAsking → s.HasJsonVariables) :
    (∀ st, r.1 = .ok st → st.ShowsAsRecorded) ∧
      ∀ y, World.Untouched m.store ⟨w.name, id⟩ r.2 y → ∀ now s,
        Repository.load m.store y.files now ⟨w.name, id⟩ = .ok s → (Standing.mk w s).ShowsAsRecorded := by
  have hP := invariant_asksAsRecorded m hw id
  obtain ⟨hholds, hend⟩ := hop.endsAt hP halone (h.holds_where hP halone) hjson
  refine ⟨fun st hst => ?_, fun y hsame now s hload => ?_⟩
  · obtain ⟨hworkflow, -, hs⟩ := hend st hst
    exact Standing.showsAsRecorded (hworkflow ▸ hs)
  · exact Standing.showsAsRecorded (load_holds (hholds.untouched hsame) rfl hload).2

end Manager

def Workflow.askByName : Step where
  id := "ask"
  task := .interactive { prompt := "Shall {{who}} go on?" }

/-- A question that names a variable. -/
def Workflow.greeting : Workflow where
  name := "demo"
  «variables» := [("who", .text "you")]
  steps := [askByName]

namespace Manager

open Repository Workflow

/-- A session of it before the question, and at the question. -/
def greeted : Session := initial greeting [] "s" "t"

def askedByName : Session :=
  (bare.engine "t").afterSuccess greeted askByName
    (Execution.interactive "ask" (askByName.request { prompt := "Shall {{who}} go on?" } greeted.variables).question)
    none 0

theorem isPortable_greeted : greeted.IsPortable ∧ askedByName.IsPortable := by
  have hvariables : greeted.variables.IsPortable := by
    refine ⟨by decide, fun b hb => ?_⟩
    obtain rfl := List.mem_singleton.mp hb
    exact .text "you"
  refine ⟨⟨hvariables, nofun, nofun⟩, hvariables, fun r hr => ?_, nofun⟩
  obtain rfl := List.mem_singleton.mp hr
  refine InputRequest.isPortable_recorded fun t ht => ?_
  cases ht

theorem run_greeted {x y : World Unit} (hgo : x.token.cancelled = false)
    (hsave : bare.save askedByName x = (.ok (), y)) :
    (bare.engine "t").run greeting greeted x = (.ok askedByName, y) := by
  have hdone : ((bare.engine "t").performed greeted askByName x) =
      (.ok (Execution.interactive "ask"
        (askByName.request { prompt := "Shall {{who}} go on?" } greeted.variables).question), x) := rfl
  have hstep : (bare.engine "t").runStep greeting greeted askByName x = (.ok askedByName, y) := by
    rw [Engine.runStep_apply, hdone]
    change (bare.engine "t").settle (askedByName, .ok askedByName) x = _
    have hengine : (bare.engine "t").save = bare.save := rfl
    rw [Engine.settle_apply, hengine, hsave]
  rw [Engine.run_eq_runStep rfl rfl hgo rfl, hstep]
  intro t ht
  rw [hstep] at ht
  obtain rfl := Except.ok.inj ht
  rfl

/-- A session that was started is paused at its question, and shows it. -/
theorem greeting_shows_what_is_recorded :
    ∃ y, bare.start "t" greeting [] (some "s") {} .empty = (.ok ⟨greeting, askedByName⟩, y) ∧
      askedByName.paused = true ∧ askedByName.IsAsking ∧ (Standing.mk greeting askedByName).ShowsAsRecorded := by
  have hshort : Json.IsShort 0 := by decide
  have htext := ((fileText_of_isPortable isPortable_greeted.1).resolve_right fun h => h.1 hshort).2
  have hnext := ((fileText_of_isPortable isPortable_greeted.2).resolve_right fun h => h.1 hshort).2
  have hwrite (data : List UInt8) : (bare.store.write "demo/s.json" data {}).1 = .ok () := rfl
  obtain ⟨z, hfirst⟩ := exists_save_of_write (m := bare) (s := greeted) (x := .empty) rfl htext hwrite
  have hlast : bare.IsLast greeted { z with token := {} } := (IsLast.of_save hfirst).of_sameStore ⟨rfl, rfl⟩
  obtain ⟨y, hsecond, -⟩ := hlast.exists_save (t := askedByName) rfl hnext
  have hfree (i : String) (hi : some "s" = some i) :
      (bare.checkFree "t" greeting ⟨"demo", i⟩ .empty).1 = .ok () := by
    obtain rfl := Option.some.inj hi
    rfl
  have hid : bare.idOr (some "s") .empty = (.ok "s", .empty) := rfl
  have hstart : bare.start "t" greeting [] (some "s") {} .empty = (.ok ⟨greeting, askedByName⟩, y) := by
    rw [start_of_free hfree (congrArg Prod.fst hid), hid, launch_of_saved hfirst, ← greeted, run_greeted rfl hsecond]
    rfl
  have hop : bare.Operation greeting "s" .empty (.ok ⟨greeting, askedByName⟩, y) :=
    hstart ▸ .start "t" [] (some "s") {} bare.cancelled rfl
  have hjson : ∀ s ∈ y.saves, s.key = ⟨"demo", "s"⟩ → s.IsAsking → s.HasJsonVariables := by
    have hsaves : y.saves = [askedByName, greeted] := by
      rw [(save_eq_ok hsecond).2.1, (save_eq_ok hfirst).2.1]
      rfl
    intro s hs _ _
    rw [hsaves] at hs
    rcases List.mem_pair.mp hs with rfl | rfl
    · exact ⟨isPortable_greeted.2.isJson.names, isPortable_greeted.2.isJson.variables_⟩
    · exact ⟨isPortable_greeted.1.isJson.names, isPortable_greeted.1.isJson.variables_⟩
  have hfinite : greeting.HasFiniteTimeouts := by
    intro step hstep q htask t ht
    obtain rfl := List.mem_singleton.mp hstep
    cases htask
    cases ht
  have hfresh : bare.Reached greeting "s" .empty := .fresh nofun rfl
  have hshows := question_shown_is_question_recorded hfinite (leavesAlone_bare _) hfresh hop hjson
  exact ⟨y, hstart, rfl, ⟨_, rfl, rfl⟩, hshows.1 _ rfl⟩

end Manager

/-! ## Choices as answers -/

namespace Engine

variable {σ : Type} {e : Engine σ} {w : Workflow} {s : Session} {step : Step} {q : Question} {a value : Value}

theorem answered_of_waitsAt (h : WaitsAt w s step q) (a : Value) :
    e.answered w s a = (q.accept step.id a).map fun value =>
      e.afterAnswer w s step (Step.answerVariable step.id q) value
        (if q.inputType = .password then .text maskedAnswer else value) := by
  obtain ⟨hstep, htask, hpaused⟩ := h
  unfold answered
  rw [hstep]
  dsimp only
  rw [htask, hpaused]
  dsimp only
  cases q.accept step.id a <;> rfl

/-- What is accepted is bound to the variable of the question. -/
theorem exists_answered_of_accepted (h : WaitsAt w s step q) (hvalue : q.accept step.id a = .ok value) :
    ∃ t, e.answered w s a = .ok t ∧ t.variables.get? (Step.answerVariable step.id q) = some value := by
  rw [answered_of_waitsAt h, hvalue]
  refine ⟨_, rfl, ?_⟩
  unfold afterAnswer
  cases w.nextStepId? step.id <;> exact Bindings.get?_set _ _ _

end Engine

/-- Each choice that is offered, without blanks around it, can be the answer and is stored as it is. An empty one is
stored if there is no default, which it would be taken for. -/
theorem offered_choice_is_stored {σ : Type} (e : Engine σ) {st : Standing} {r : InputRequest}
    (h : st.inputRequest = some r) (htype : r.question.inputType = .choice)
    (hpattern : r.question.validationPattern.getD "" = "") {choice : String} (hchoice : choice ∈ r.question.choices)
    (htrim : Text.trim choice = choice) :
    (choice ≠ "" ∨ r.question.defaultValue = none → ∃ t,
      e.answered st.workflow st.session (.text choice) = .ok t ∧
        t.variables.get? (Step.answerVariable r.stepId r.question) = some (.text choice)) ∧
      ∀ default, choice = "" → r.question.defaultValue = some default →
        e.answered st.workflow st.session (.text choice) = e.answered st.workflow st.session (.text default) := by
  obtain ⟨step, q, hwaits, rfl⟩ := Standing.inputRequest_eq_some_iff.mp h
  constructor
  · intro hdefault
    have hself : q.orDefault (.text choice) = .text choice := by
      by_cases hempty : choice = ""
      · subst hempty
        have hnone : q.defaultValue = none := hdefault.resolve_left fun h => h rfl
        have hblank : Question.isEmptyAnswer (.text "") = true := rfl
        rw [Question.orDefault_of_empty hblank, hnone]
        rfl
      · refine Question.orDefault_of_not_empty (Bool.eq_false_iff.mpr fun hblank => hempty ?_)
        rw [← htrim]
        exact Text.trim_of_isBlankText hblank
    have haccept : q.accept step.id (.text choice) = .ok (.text choice) :=
      Question.accept_choice htype hpattern hchoice htrim hself
    obtain ⟨t, ht, hbound⟩ := Engine.exists_answered_of_accepted (e := e) hwaits haccept
    exact ⟨t, ht, hbound⟩
  · rintro default rfl hdefault
    have hblank : Question.isEmptyAnswer (.text "") = true := rfl
    have hsame : q.accept step.id (.text "") = q.accept step.id (.text default) :=
      Question.accept_of_empty hblank hdefault
    rw [Engine.answered_of_waitsAt hwaits, Engine.answered_of_waitsAt hwaits, hsame]

/-- A choice with a default, one of the choices being empty. -/
def Workflow.picking : Workflow where
  name := "demo"
  steps := [⟨"pick", none, .interactive {
    prompt := "Which?"
    inputType := .choice
    choices := ["", "a", "b"]
    defaultValue := some "a" }⟩]

def Workflow.pickingDocument : Value := .obj [
  ("name", .text "demo"),
  ("steps", .list [
    .obj [("id", .text "pick"), ("action", .text "interactive"), ("prompt", .text "Which?"),
      ("inputType", .text "choice"), ("choices", .list [.text "", .text "a", .text "b"]),
      ("defaultValue", .text "a")]])]

/-- A session of it that waits for the answer. -/
def Standing.picking : Standing where
  workflow := .picking
  session := { Repository.initial .picking [] "s" "t" with paused := true }

theorem picked_choice_is_stored :
    ∃ t, (Manager.bare.engine "t").answered .picking Standing.picking.session (.text "b") = .ok t ∧
      t.variables.get? "pick_input" = some (.text "b") := by
  have hpicking : Standing.picking.inputRequest = some ⟨"pick", _⟩ := rfl
  have hstored := offered_choice_is_stored (Manager.bare.engine "t") hpicking rfl rfl
    (show "b" ∈ ["", "a", "b"] by decide) (by decide)
  exact hstored.1 (.inl (by decide))

/-- The empty choice is taken for the default. -/
theorem empty_choice_is_not_stored :
    Workflow.build Workflow.pickingDocument = .ok .picking ∧
      ∃ r, Standing.picking.inputRequest = some r ∧ r.question.inputType = .choice ∧
        r.question.validationPattern = none ∧ "" ∈ r.question.choices ∧
        ∃ t, (Manager.bare.engine "t").answered .picking Standing.picking.session (.text "") = .ok t ∧
          t.variables.get? "pick_input" = some (.text "a") ∧ t.variables.get? "pick_input" ≠ some (.text "") := by
  refine ⟨rfl, _, rfl, rfl, rfl, by decide, _, rfl, rfl, fun hempty => ?_⟩
  have hdefault : some (Value.text "a") = some (.text "") := hempty
  simp at hdefault

end Runbook
