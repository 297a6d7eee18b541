import Runbook.Proofs.Execution.Turn

/-! What happens in a run, in order: steps are begun and sessions are saved. A run that stops dead leaves the
beginning of its timeline behind. -/

namespace Runbook

/-- A step of a session is begun in a world, or a session was saved, which left a world. -/
inductive Event (σ : Type) where
  | began (s : Session) (step : Step) (x : σ)
  | saved (s : Session) (x : σ)

namespace Engine

variable {σ : Type} {e : Engine σ} {w : Workflow} {s t : Session} {step : Step} {x y : σ}

/-! ## Runs with their events -/

/-- A session is saved, and how the run ends then. -/
def settleTrace (e : Engine σ) (t : Session × Except Fault Session) (x : σ) :
    List (Event σ) × (Except Fault Session × σ) :=
  match e.save t.1 x with
  | (.ok (), y) => ([.saved t.1 y], (t.2, y))
  | (.error f, y) => ([], (.error f, y))

/-- A step is begun, and what becomes of it is saved unless the run ends at once. -/
def stepTrace (e : Engine σ) (w : Workflow) (s : Session) (step : Step) (x : σ) :
    List (Event σ) × (Except Fault Session × σ) :=
  let (r, y) := e.performed s step x
  let (events, ending) :=
    match r with
    | .error f =>
      if isAbrupt f then ([], (.error f, y)) else e.settleTrace (e.settled w s step (e.cancelled y) r) y
    | .ok _ => e.settleTrace (e.settled w s step (e.cancelled y) r) y
  (.began s step x :: events, ending)

/-- A run with its events. -/
def trace (e : Engine σ) (w : Workflow) : ℕ → Session → σ → List (Event σ) × (Except Fault Session × σ)
  | 0, s, x => ([], (.ok s, x))
  | fuel + 1, s, x =>
    if s.completed then ([], (.ok s, x))
    else if e.cancelled x then e.settleTrace (e.stopping s) x
    else
      match stepOf? w s with
      | none => e.settleTrace (e.failing s (unknownStep w s)) x
      | some step =>
        match e.stepTrace w s step x with
        | (events, (.error f, y)) => (events, (.error f, y))
        | (events, (.ok t, y)) =>
          if t.paused then (events, (.ok t, y))
          else
            let (rest, ending) := trace e w fuel t y
            (events ++ rest, ending)

/-- A whole run with its events. -/
def runTrace (e : Engine σ) (w : Workflow) (s : Session) (x : σ) :
    List (Event σ) × (Except Fault Session × σ) :=
  if s.completed then ([], (.ok s, x))
  else e.trace w (e.stepBound w s + 1) { s with paused := false } x

theorem settleTrace_snd (e : Engine σ) (t : Session × Except Fault Session) (x : σ) :
    (e.settleTrace t x).2 = e.settle t x := by
  rw [settle_apply]
  unfold settleTrace
  obtain ⟨r, y⟩ := e.save t.1 x
  cases r <;> rfl

theorem stepTrace_snd (e : Engine σ) (w : Workflow) (s : Session) (step : Step) (x : σ) :
    (e.stepTrace w s step x).2 = e.runStep w s step x := by
  rw [runStep_apply]
  unfold stepTrace
  obtain ⟨r, y⟩ := e.performed s step x
  cases r with
  | error f =>
    dsimp only
    split_ifs
    · rfl
    · exact settleTrace_snd _ _ _
  | ok o => exact settleTrace_snd _ _ _

/-- The trace of a run ends as the run ends. -/
theorem trace_snd (e : Engine σ) (w : Workflow) (fuel : ℕ) (s : Session) (x : σ) :
    (e.trace w fuel s x).2 = e.runFrom w fuel s x := by
  induction fuel generalizing s x with
  | zero => rfl
  | succ fuel ih =>
    rw [runFrom_succ]
    unfold trace
    split_ifs
    · rfl
    · exact settleTrace_snd _ _ _
    · cases hstep : stepOf? w s with
      | none => exact settleTrace_snd _ _ _
      | some step =>
        dsimp only
        rw [← stepTrace_snd]
        obtain ⟨events, r, y⟩ := e.stepTrace w s step x
        cases r with
        | error f => rfl
        | ok t =>
          dsimp only
          split_ifs
          · rfl
          · exact ih t y

theorem runTrace_snd (e : Engine σ) (w : Workflow) (s : Session) (x : σ) :
    (e.runTrace w s x).2 = e.run w s x := by
  unfold runTrace run
  split_ifs
  · rfl
  · exact trace_snd _ _ _ _ _

/-! ## Timelines -/

/-- Where a run is after some of its events: between two steps, with a step in flight, or at its end. The
session is the one that was saved last. -/
inductive Phase where
  | resting (d : Session)
  | flying (d : Session) (step : Step)
  | over (d : Session)

namespace Phase

def session : Phase → Session
  | .resting d => d
  | .flying d _ => d
  | .over d => d

/-- The steps that the history shows, and the one in flight. -/
def shown : Phase → List String
  | .resting d => d.history.map (·.stepId)
  | .flying d step => d.history.map (·.stepId) ++ [step.id]
  | .over d => d.history.map (·.stepId)

/-- The phase after an event. -/
def next (ph : Phase) (event : Event σ) : Phase :=
  match ph, event with
  | .resting _, .began d step _ => .flying d step
  | .flying .., .saved t _ => .resting t
  | .resting _, .saved t _ => .over t
  | ph, _ => ph

def after (ph : Phase) (events : List (Event σ)) : Phase := events.foldl next ph

end Phase

/-- The events of a run that goes on from a phase, and its end. No step is begun but the one at which the session
is that was saved last, and its record is saved before anything else happens. All the while the store holds the
session that was saved last. -/
inductive Timeline (e : Engine σ) (w : Workflow) (holds : Session → σ → Prop) :
    Phase → List (Event σ) → Except Fault Session × σ → Prop where
  | ended {ph : Phase} {r : Except Fault Session} {y : σ} (hheld : holds ph.session y)
      (hresult : ∀ t, r = .ok t → t = ph.session) : Timeline e w holds ph [] (r, y)
  | began {d : Session} {step : Step} {x : σ} {events : List (Event σ)} {ending : Except Fault Session × σ}
      (hstep : stepOf? w d = some step) (hheld : holds d x) (hperformed : holds d (e.performed d step x).2)
      (hrest : Timeline e w holds (.flying d step) events ending) :
      Timeline e w holds (.resting d) (.began d step x :: events) ending
  | recorded {d t : Session} {step : Step} {r : StepRecord} {y : σ} {events : List (Event σ)}
      {ending : Except Fault Session × σ} (hid : r.stepId = step.id) (hhistory : t.history = d.history ++ [r])
      (hheld : holds t y) (hrest : Timeline e w holds (.resting t) events ending) :
      Timeline e w holds (.flying d step) (.saved t y :: events) ending
  | stopped {d t : Session} {y : σ} {events : List (Event σ)} {ending : Except Fault Session × σ}
      (hhistory : t.history = d.history) (hheld : holds t y)
      (hrest : Timeline e w holds (.over t) events ending) :
      Timeline e w holds (.resting d) (.saved t y :: events) ending

/-- The store holds a session of the key once it is saved, whatever the steps do and the saves that fail. -/
structure Durable (e : Engine σ) (key : SessionKey) (holds : Session → σ → Prop) : Prop where
  perform : ∀ d s step x, holds d x → holds d (e.performed s step x).2
  saved : ∀ t x y, t.key = key → e.save t x = (.ok (), y) → holds t y
  unsaved : ∀ d t x f y, holds d x → e.save t x = (.error f, y) → holds d y

variable {holds : Session → σ → Prop} {key : SessionKey}

theorem Timeline.rest (hs : holds s x) : Timeline e w holds (.resting s) [] (.ok s, x) :=
  .ended hs fun _ ht => (Except.ok.inj ht).symm

theorem history_moveTo (s : Session) (target : Option String) (now : String) :
    (s.moveTo target now).history = s.history := by
  cases target <;> rfl

theorem history_afterSuccess (e : Engine σ) (s : Session) (step : Step) (o : Outcome) (target : Option String)
    (iterations : ℤ) : ∃ record, record.stepId = step.id ∧
      (e.afterSuccess s step o target iterations).history = s.history ++ [record] := by
  rw [afterSuccess_eq]
  split_ifs
  · exact ⟨_, rfl, rfl⟩
  · exact ⟨_, rfl, history_moveTo _ _ _⟩

theorem history_afterAnswer (e : Engine σ) (w : Workflow) (s : Session) (step : Step) (name : String)
    (value shown : Value) : ∃ record, record.stepId = step.id ∧
      (e.afterAnswer w s step name value shown).history = s.history ++ [record] := by
  refine ⟨_, ?_, history_moveTo _ _ _⟩
  rfl

/-- What becomes of a step is a session with one record more, of that step. -/
theorem history_settled (e : Engine σ) (w : Workflow) (s : Session) (step : Step) (stop : Bool)
    (r : Except Fault Outcome) :
    ∃ record, record.stepId = step.id ∧
      (e.settled w s step stop r).1.history = s.history ++ [record] := by
  have hfailure (o : Option Outcome) (f : Fault) : ∃ record, record.stepId = step.id ∧
      (e.settledFailure w s step o f stop).1.history = s.history ++ [record] := by
    cases stop <;> exact ⟨_, rfl, rfl⟩
  obtain ⟨f, -, h⟩ | ⟨o, f, -, -, h⟩ | ⟨o, target, iterations, -, -, h⟩ := settled_cases e w s step stop r <;> rw [h]
  · exact hfailure none f
  · exact hfailure (some o) f
  · exact history_afterSuccess e s step o target iterations

/-- Either the session was saved and the trace ends with it, or nothing was saved. -/
theorem settleTrace_cases (e : Engine σ) (t : Session × Except Fault Session) (x : σ) :
    (∃ y, e.save t.1 x = (.ok (), y) ∧ e.settleTrace t x = ([.saved t.1 y], (t.2, y))) ∨
      ∃ f y, e.save t.1 x = (.error f, y) ∧ e.settleTrace t x = ([], (.error f, y)) := by
  unfold settleTrace
  obtain ⟨r, y⟩ := e.save t.1 x
  cases r with
  | ok u => exact .inl ⟨y, rfl, rfl⟩
  | error f => exact .inr ⟨f, y, rfl, rfl⟩

/-- A step that was begun is the last event, since it ended the run at once or could not be saved, or it is
followed by the save of what became of it. -/
theorem stepTrace_cases (e : Engine σ) (w : Workflow) (s : Session) (step : Step) (x : σ) :
    (∃ f y, e.stepTrace w s step x = ([.began s step x], (.error f, y)) ∧
      (y = (e.performed s step x).2 ∨ ∃ t, e.save t (e.performed s step x).2 = (.error f, y))) ∨
      ∃ stop y, let t := e.settled w s step stop (e.performed s step x).1
        e.save t.1 (e.performed s step x).2 = (.ok (), y) ∧
          e.stepTrace w s step x = ([.began s step x, .saved t.1 y], (t.2, y)) := by
  unfold stepTrace
  generalize e.performed s step x = performed
  obtain ⟨r, z⟩ := performed
  dsimp only
  have hsettle : (∃ f y, (Event.began s step x :: (e.settleTrace (e.settled w s step (e.cancelled z) r) z).1,
        (e.settleTrace (e.settled w s step (e.cancelled z) r) z).2) = ([.began s step x], (.error f, y)) ∧
          (y = z ∨ ∃ t, e.save t z = (.error f, y))) ∨
      ∃ stop y, e.save (e.settled w s step stop r).1 z = (.ok (), y) ∧
        (Event.began s step x :: (e.settleTrace (e.settled w s step (e.cancelled z) r) z).1,
          (e.settleTrace (e.settled w s step (e.cancelled z) r) z).2) =
        ([.began s step x, .saved (e.settled w s step stop r).1 y], ((e.settled w s step stop r).2, y)) := by
    rcases settleTrace_cases e (e.settled w s step (e.cancelled z) r) z with
      ⟨y, hsave, htrace⟩ | ⟨f, y, hsave, htrace⟩
    · exact .inr ⟨e.cancelled z, y, hsave, by rw [htrace]⟩
    · exact .inl ⟨f, y, by rw [htrace], .inr ⟨_, hsave⟩⟩
  cases r with
  | error f =>
    dsimp only
    split_ifs
    · exact .inl ⟨f, z, rfl, .inl rfl⟩
    · exact hsettle
  | ok o => exact hsettle

/-- A session that is saved without a record more ends the run. -/
theorem timeline_settleTrace (h : e.Durable key holds) {r : Except Fault Session} (hkey : t.key = key)
    (hhistory : t.history = s.history) (hresult : ∀ u, r = .ok u → u = t) (hs : holds s x) :
    Timeline e w holds (.resting s) (e.settleTrace (t, r) x).1 (e.settleTrace (t, r) x).2 := by
  rcases settleTrace_cases e (t, r) x with ⟨y, hsave, htrace⟩ | ⟨f, y, hsave, htrace⟩
  · rw [htrace]
    have hy := h.saved t x y hkey hsave
    exact .stopped hhistory hy (.ended hy hresult)
  · rw [htrace]
    exact .ended (h.unsaved s t x f y hs hsave) nofun

/-- The events of a run are a timeline from its session on. -/
theorem timeline_trace (h : e.Durable key holds) (w : Workflow) (fuel : ℕ) (hkey : s.key = key) (hs : holds s x) :
    Timeline e w holds (.resting s) (e.trace w fuel s x).1 (e.trace w fuel s x).2 := by
  induction fuel generalizing s x with
  | zero => exact .rest hs
  | succ fuel ih =>
    unfold trace
    split_ifs
    · exact .rest hs
    · exact timeline_settleTrace h hkey rfl (fun _ ht => (Except.ok.inj ht).symm) hs
    · cases hstep : stepOf? w s with
      | none => exact timeline_settleTrace h hkey rfl (fun _ ht => nomatch ht) hs
      | some step =>
        dsimp only
        have hperformed := h.perform s s step x hs
        rcases stepTrace_cases e w s step x with ⟨f, y, htrace, hy⟩ | ⟨stop, y, hsave, htrace⟩
        · rw [htrace]
          refine .began hstep hs hperformed (.ended ?_ nofun)
          rcases hy with rfl | ⟨t, hsave⟩
          · exact hperformed
          · exact h.unsaved s t _ f y hperformed hsave
        · obtain ⟨record, hid, hhistory⟩ := history_settled e w s step stop (e.performed s step x).1
          have hturn := key_of_turn (turn_settled (e := e) hstep stop x)
          have hy := h.saved _ _ y (hturn.trans hkey) hsave
          rw [htrace]
          cases hend : (e.settled w s step stop (e.performed s step x).1).2 with
          | error f => exact .began hstep hs hperformed (.recorded hid hhistory hy (.ended hy nofun))
          | ok t =>
            have hsaved := (settled_eq_ok hend).1
            rw [← hsaved] at hturn hhistory hy ⊢
            dsimp only
            split_ifs
            · exact .began hstep hs hperformed (.recorded hid hhistory hy (.rest hy))
            · exact .began hstep hs hperformed (.recorded hid hhistory hy (ih (hturn.trans hkey) hy))

theorem timeline_runTrace (h : e.Durable key holds) (w : Workflow) (hkey : s.key = key)
    (hpaused : s.paused = false) (hs : holds s x) :
    Timeline e w holds (.resting s) (e.runTrace w s x).1 (e.runTrace w s x).2 := by
  have hself : { s with paused := false } = s := by rw [← hpaused]
  unfold runTrace
  rw [hself]
  split_ifs
  · exact .rest hs
  · exact timeline_trace h w _ hkey hs

/-! ## Points of a timeline -/

/-- The session that was saved last. -/
def lastSaved (d : Session) : List (Event σ) → Session
  | [] => d
  | .began .. :: events => lastSaved d events
  | .saved t _ :: events => lastSaved t events

/-- The steps that were begun, in order. -/
def begun : List (Event σ) → List Step
  | [] => []
  | .began _ step _ :: events => step :: begun events
  | .saved .. :: events => begun events

/-- The worlds of an event: a step that was begun is done at some time. -/
def worlds (e : Engine σ) : Event σ → List σ
  | .began s step x => [x, (e.performed s step x).2]
  | .saved _ y => [y]

namespace Timeline

variable {ph : Phase} {p q : List (Event σ)} {ending : Except Fault Session × σ}

/-- What follows on a part of a timeline is a timeline from the phase after it. -/
theorem after (h : Timeline e w holds ph (p ++ q) ending) :
    Timeline e w holds (ph.after p) q ending ∧ (ph.after p).session = lastSaved ph.session p ∧
      (ph.after p).shown = ph.shown ++ (begun p).map (·.id) := by
  induction p generalizing ph with
  | nil => exact ⟨h, rfl, (List.append_nil _).symm⟩
  | cons event p ih =>
    cases h with
    | began hstep hheld hperformed hrest =>
      obtain ⟨hafter, hlast, hshown⟩ := ih hrest
      refine ⟨hafter, hlast, hshown.trans ?_⟩
      simp [Phase.shown, begun]
    | recorded hid hhistory hheld hrest =>
      obtain ⟨hafter, hlast, hshown⟩ := ih hrest
      refine ⟨hafter, hlast, hshown.trans ?_⟩
      simp [Phase.shown, begun, hhistory, hid]
    | stopped hhistory hheld hrest =>
      obtain ⟨hafter, hlast, hshown⟩ := ih hrest
      refine ⟨hafter, hlast, hshown.trans ?_⟩
      simp [Phase.shown, begun, hhistory]

end Timeline

/-- What a run shows of its steps at whatever point it stops dead. It began with a session that the store held. -/
structure CrashSafe (e : Engine σ) (w : Workflow) (holds : Session → σ → Prop) (d : Session)
    (events : List (Event σ)) (ending : Except Fault Session × σ) : Prop where
  /-- A step is begun in the session that was saved last, whose history shows all steps that were begun before.
  The next event, if any, is the save of its record. -/
  began : ∀ p s step x q, events = p ++ .began s step x :: q →
    s = lastSaved d p ∧ stepOf? w s = some step ∧
      s.history.map (·.stepId) = d.history.map (·.stepId) ++ (begun p).map (·.id) ∧
      (q = [] ∨ ∃ t y r rest, q = .saved t y :: rest ∧ r.stepId = step.id ∧ t.history = s.history ++ [r])
  /-- A session that is saved has at most one record more than the one before, and shows all steps that were
  begun. -/
  saved : ∀ p t y q, events = p ++ .saved t y :: q →
    (t.history = (lastSaved d p).history ∨ ∃ r, t.history = (lastSaved d p).history ++ [r]) ∧
      t.history.map (·.stepId) = d.history.map (·.stepId) ++ (begun p).map (·.id)
  /-- Wherever the run stops, the store holds the session that was saved last. -/
  held : ∀ p event q, events = p ++ event :: q → ∀ z ∈ worlds e event, holds (lastSaved d (p ++ [event])) z
  /-- It does so in the end, and a run that ends well ends with that session. -/
  ended : holds (lastSaved d events) ending.2 ∧ ∀ t, ending.1 = .ok t → t = lastSaved d events

theorem lastSaved_append (d : Session) (p q : List (Event σ)) :
    lastSaved d (p ++ q) = lastSaved (lastSaved d p) q := by
  induction p generalizing d with
  | nil => rfl
  | cons event p ih => cases event <;> exact ih _

theorem Timeline.crashSafe {d : Session} {events : List (Event σ)} {ending : Except Fault Session × σ}
    (h : Timeline e w holds (.resting d) events ending) : CrashSafe e w holds d events ending where
  began p s step x q hevents := by
    subst hevents
    obtain ⟨hafter, hlast, hshown⟩ := h.after
    generalize (Phase.resting d).after p = ph at hafter hlast hshown
    cases hafter with
    | began hstep _ _ hrest =>
      refine ⟨hlast, hstep, hshown, ?_⟩
      cases hrest with
      | ended => exact .inl rfl
      | @recorded _ t _ r y rest _ hid hhistory _ _ => exact .inr ⟨t, y, r, rest, rfl, hid, hhistory⟩
  saved p t y q hevents := by
    subst hevents
    obtain ⟨hafter, hlast, hshown⟩ := h.after
    generalize (Phase.resting d).after p = ph at hafter hlast hshown
    change _ ∧ _ = (Phase.resting d).shown ++ _
    rw [← hshown]
    cases hafter with
    | @recorded d' _ step r _ _ _ hid hhistory _ _ =>
      refine ⟨.inr ⟨r, hhistory.trans (congrArg (·.history ++ [r]) hlast)⟩, ?_⟩
      simp [Phase.shown, hhistory, hid]
    | stopped hhistory _ _ =>
      refine ⟨.inl (hhistory.trans (congrArg Session.history hlast)), ?_⟩
      simp [Phase.shown, hhistory]
  held p event q hevents z hz := by
    subst hevents
    obtain ⟨hafter, hlast, -⟩ := h.after
    rw [lastSaved_append]
    generalize (Phase.resting d).after p = ph at hafter hlast
    cases hafter with
    | began hstep hheld hperformed _ =>
      rw [← show _ = lastSaved d p from hlast]
      rcases List.mem_pair.mp hz with rfl | rfl
      · exact hheld
      · exact hperformed
    | recorded _ _ hheld _ =>
      obtain rfl := List.mem_singleton.mp hz
      exact hheld
    | stopped _ hheld _ =>
      obtain rfl := List.mem_singleton.mp hz
      exact hheld
  ended := by
    rw [← List.append_nil events] at h
    obtain ⟨hafter, hlast, -⟩ := h.after
    change _ = lastSaved d events at hlast
    generalize (Phase.resting d).after events = ph at hafter hlast
    rw [← hlast]
    cases hafter with
    | ended hheld hresult => exact ⟨hheld, hresult⟩

/-- A run from a session that the store holds is safe wherever it stops. -/
theorem crashSafe_runTrace (h : e.Durable key holds) (w : Workflow) (hkey : s.key = key)
    (hpaused : s.paused = false) (hs : holds s x) :
    CrashSafe e w holds s (e.runTrace w s x).1 (e.runTrace w s x).2 :=
  (timeline_runTrace h w hkey hpaused hs).crashSafe

/-! ## The first step -/

theorem begun_settleTrace (e : Engine σ) (t : Session × Except Fault Session) (x : σ) :
    begun (e.settleTrace t x).1 = [] := by
  rcases settleTrace_cases e t x with ⟨y, -, htrace⟩ | ⟨f, y, -, htrace⟩ <;> rw [htrace] <;> rfl

theorem head?_begun_trace (e : Engine σ) (w : Workflow) (fuel : ℕ) (hdone : s.completed = false) (x : σ) :
    (begun (e.trace w (fuel + 1) s x).1).head? = if e.cancelled x then none else stepOf? w s := by
  have hfirst (step : Step) (events : List (Event σ)) :
      (begun (Event.began s step x :: events)).head? = some step := rfl
  unfold trace
  rw [if_neg (by simp [hdone])]
  split_ifs
  · rw [begun_settleTrace]
    rfl
  · cases hstep : stepOf? w s with
    | none =>
      dsimp only
      rw [begun_settleTrace]
      rfl
    | some step =>
      dsimp only
      rcases stepTrace_cases e w s step x with ⟨f, y, htrace, -⟩ | ⟨stop, y, -, htrace⟩
      · rw [htrace]
        exact hfirst step _
      · rw [htrace]
        cases (e.settled w s step stop (e.performed s step x).1).2 with
        | error f => exact hfirst step _
        | ok t =>
          dsimp only
          split_ifs <;> exact hfirst step _

/-- A run that is not asked to stop begins with the step at which its session is. -/
theorem head?_begun_runTrace (e : Engine σ) (w : Workflow) (hdone : s.completed = false) (x : σ) :
    (begun (e.runTrace w s x).1).head? = if e.cancelled x then none else stepOf? w s := by
  unfold runTrace
  rw [if_neg (by simp [hdone])]
  exact @head?_begun_trace σ { s with paused := false } e w _ hdone x

end Engine

end Runbook
