import Runbook.Proofs.Execution.Perform
import Runbook.Proofs.Session.Document

/-! The history of a session as a walk of its workflow: where each record leads, and how often the walk goes
backward. -/

namespace Runbook

namespace Workflow

variable (w : Workflow)

/-! ## Reading the history -/

/-- The step to which a record of a conditional or loop step redirects. -/
def redirect? (r : StepRecord) : Option String :=
  match (w.getStep? r.stepId).map Step.task with
  | some (.conditional ..) => (r.output.get? "nextStep").bind Value.asText?
  | some (.loop ..) =>
    match r.output.get? "shouldLoop" with
    | some (.bool true) => (r.output.get? "targetStep").bind Value.asText?
    | _ => none
  | _ => none

/-- Whether a record shows that an interactive step asked its question. -/
def isAsking (r : StepRecord) : Bool :=
  match (w.getStep? r.stepId).map Step.task with
  | some (.interactive _) =>
    match r.output.get? "waitingForInput" with
    | some (.bool true) => true
    | _ => false
  | _ => false

/-- The step after a record: the same one after a failure or a question, else the one to which it redirects,
else the next one of the workflow. -/
def pointerAfter (r : StepRecord) : Option String :=
  if !r.success || w.isAsking r then some r.stepId
  else
    match w.redirect? r with
    | some id => some id
    | none => w.nextStepId? r.stepId

/-- The step after a history. -/
def pointer (history : List StepRecord) : Option String :=
  match history.getLast? with
  | some r => w.pointerAfter r
  | none => w.steps.head?.map (·.id)

/-- Whether a redirection from a step goes to the step itself or to one before it. -/
def goesBack (id : String) (redirection : Option String) : Bool :=
  match redirection.bind w.indexOf? with
  | some i => (w.indexOf? id).any (i ≤ ·)
  | none => false

/-- Whether a record is of a jump backward. -/
def isBackward (r : StepRecord) : Bool := r.success && w.goesBack r.stepId (w.redirect? r)

end Workflow

/-- The history is a walk of the workflow that ends at the current step, and the count of jumps is that of
the history. -/
structure Session.IsWalk (w : Workflow) (s : Session) : Prop where
  walk : ∀ before r after, s.history = before ++ r :: after → w.pointer before = some r.stepId
  current : s.currentStep = w.pointer s.history
  iterations : s.iterations = s.history.countP w.isBackward

namespace Workflow

/-- What a step that succeeds writes, with the redirection that this shows and whether it is a question. -/
inductive Writes : Task → Value → Option String → Bool → Prop where
  | conditional (check onTrue : String) (onFalse target : Option String) (holds : Bool) :
      Writes (.conditional check onTrue onFalse)
        (.obj [("condition", .text check), ("result", .bool holds), ("nextStep", optionText target)])
        target false
  | loop (target condition : String) (maxIterations : Option ℤ) (again : Bool) (n : ℤ) :
      Writes (.loop target condition maxIterations)
        (.obj [("condition", .text condition), ("shouldLoop", .bool again), ("targetStep", .text target),
          ("iteration", .int n)])
        (if again then some target else none) false
  | question (q : Question) (fields : Bindings) (h : ("waitingForInput" :: fields.names).Nodup) :
      Writes (.interactive q) (.obj (("waitingForInput", .bool true) :: fields)) none true
  | answer (q : Question) (shown : Value) (name : String) :
      Writes (.interactive q) (.obj [("answer", shown), ("variable", .text name)]) none false
  | plain {t : Task} (h : t.isFlow = false) (v : Value) : Writes t v none false

/-- The record of a success is written as its step writes it. -/
def Legible (w : Workflow) (r : StepRecord) : Prop :=
  r.success = true → ∀ step, w.getStep? r.stepId = some step →
    ∃ redirection asks, Writes step.task r.output redirection asks

/-- A map from different names is read back as one of the same names, if it is written at all. -/
theorem exists_stored_obj {b : Bindings} (h : b.names.Nodup) :
    (Value.obj b).stored = .obj b ∨ (Value.obj b).stored = .obj (b.map fun e => (e.1, e.2.stored)) := by
  cases hplain : (Value.obj b).plain with
  | error e => exact .inl (by rw [Value.stored, hplain])
  | ok v =>
    right
    rw [Value.stored_of_plain hplain, reread_plainBindings hplain, Bindings.stored,
      Bindings.update_nil_of_nodup]
    simpa [Bindings.names, Function.comp_def] using h

theorem stored_obj_of_stored_eq {b : Bindings} (h : b.names.Nodup) (hsame : ∀ e ∈ b, e.2.stored = e.2) :
    (Value.obj b).stored = .obj b := by
  rcases exists_stored_obj h with heq | heq
  · exact heq
  · rw [heq]
    congr 1
    rw [List.map_congr_left fun e he => congrArg (Prod.mk e.1) (hsame e he)]
    exact List.map_id b

theorem stored_optionText (o : Option String) : (optionText o).stored = optionText o := by
  cases o <;> rfl

variable {w : Workflow} {r : StepRecord} {step : Step} {t : Task} {v : Value} {redirection : Option String}
  {asks : Bool}

/-- What is read back shows the same. -/
theorem Writes.stored (h : Writes t v redirection asks) : Writes t v.stored redirection asks := by
  cases h with
  | conditional check onTrue onFalse target holds =>
    rw [stored_obj_of_stored_eq (by simp [Bindings.names])]
    · exact .conditional check onTrue onFalse redirection holds
    · simp only [List.forall_mem_cons]
      exact ⟨rfl, rfl, stored_optionText redirection, List.forall_mem_nil _⟩
  | loop target condition maxIterations again n =>
    rw [stored_obj_of_stored_eq (by simp [Bindings.names])]
    · exact .loop target condition maxIterations again n
    · simp only [List.forall_mem_cons]
      exact ⟨rfl, rfl, rfl, rfl, List.forall_mem_nil _⟩
  | question q fields h =>
    rcases @exists_stored_obj (("waitingForInput", .bool true) :: fields) h with heq | heq
    · rw [heq]
      exact .question q fields h
    · rw [heq, List.map_cons]
      refine .question q _ ?_
      simpa [Bindings.names, Function.comp_def] using h
  | answer q shown name =>
    rcases @exists_stored_obj [("answer", shown), ("variable", .text name)] (by simp [Bindings.names]) with
      heq | heq
    · rw [heq]
      exact .answer q shown name
    · rw [heq]
      exact .answer q shown.stored name
  | plain h v => exact .plain h _

theorem isAsking_of_writes (hstep : w.getStep? r.stepId = some step)
    (h : Writes step.task r.output redirection asks) : w.isAsking r = asks := by
  unfold isAsking
  rw [hstep, Option.map_some]
  generalize step.task = t at h
  generalize r.output = v at h
  cases h with
  | plain h v => cases t <;> first | rfl | cases h
  | _ => rfl

theorem redirect?_of_writes (hstep : w.getStep? r.stepId = some step)
    (h : Writes step.task r.output redirection asks) : w.redirect? r = redirection := by
  unfold redirect?
  rw [hstep, Option.map_some]
  generalize step.task = t at h
  generalize r.output = v at h
  cases h with
  | conditional check onTrue onFalse target holds => cases redirection <;> rfl
  | loop target condition maxIterations again n => cases again <;> rfl
  | plain h v => cases t <;> first | rfl | cases h
  | _ => rfl

theorem Legible.stored (h : w.Legible r) : w.Legible r.stored := by
  intro hsuccess step hstep
  obtain ⟨redirection, asks, hwrites⟩ := h hsuccess step hstep
  exact ⟨redirection, asks, hwrites.stored⟩

theorem reads_stored (h : w.Legible r) (hsuccess : r.success = true) :
    w.isAsking r.stored = w.isAsking r ∧ w.redirect? r.stored = w.redirect? r := by
  cases hstep : w.getStep? r.stepId with
  | none =>
    have hstored : w.getStep? r.stored.stepId = none := hstep
    unfold isAsking redirect?
    rw [hstep, hstored]
    exact ⟨rfl, rfl⟩
  | some step =>
    obtain ⟨redirection, asks, hwrites⟩ := h hsuccess step hstep
    have hstored : w.getStep? r.stored.stepId = some step := hstep
    exact ⟨(isAsking_of_writes hstored hwrites.stored).trans (isAsking_of_writes hstep hwrites).symm,
      (redirect?_of_writes hstored hwrites.stored).trans (redirect?_of_writes hstep hwrites).symm⟩

/-- A record that is read back leads to the same step. -/
theorem pointerAfter_stored (h : w.Legible r) : w.pointerAfter r.stored = w.pointerAfter r := by
  have hsame : r.stored.success = r.success := rfl
  unfold pointerAfter
  cases hsuccess : r.success with
  | false => simp [hsuccess, StepRecord.stored]
  | true =>
    obtain ⟨hasks, hredirects⟩ := reads_stored h hsuccess
    rw [hsame, hsuccess, hasks, hredirects]
    rfl

theorem isBackward_stored (h : w.Legible r) : w.isBackward r.stored = w.isBackward r := by
  have hsame : r.stored.success = r.success := rfl
  unfold isBackward
  cases hsuccess : r.success with
  | false => rw [hsame, hsuccess, Bool.false_and, Bool.false_and]
  | true =>
    rw [hsame, hsuccess, (reads_stored h hsuccess).2]
    rfl

theorem pointer_append (w : Workflow) (history : List StepRecord) (r : StepRecord) :
    w.pointer (history ++ [r]) = w.pointerAfter r := by
  simp [pointer]

theorem pointer_stored {history : List StepRecord} (h : ∀ r ∈ history, w.Legible r) :
    w.pointer (history.map StepRecord.stored) = w.pointer history := by
  unfold pointer
  rw [List.getLast?_map]
  cases hlast : history.getLast? with
  | none => rfl
  | some r => exact pointerAfter_stored (h r (List.mem_of_getLast? hlast))

end Workflow

namespace Session

variable {w : Workflow} {s t : Session} {r : StepRecord}

theorem IsWalk.congr (h : s.IsWalk w) (hhistory : t.history = s.history)
    (hcurrent : t.currentStep = s.currentStep) (hiterations : t.iterations = s.iterations) : t.IsWalk w where
  walk := hhistory ▸ h.walk
  current := by rw [hcurrent, hhistory, h.current]
  iterations := by rw [hiterations, hhistory, h.iterations]

/-- A record of the current step is the next step of the walk. -/
theorem IsWalk.append (h : s.IsWalk w) (hstep : s.currentStep = some r.stepId)
    (hhistory : t.history = s.history ++ [r]) (hcurrent : t.currentStep = w.pointerAfter r)
    (hiterations : t.iterations = s.iterations + if w.isBackward r then 1 else 0) : t.IsWalk w where
  walk before q after heq := by
    rw [hhistory] at heq
    rcases List.eq_nil_or_concat after with rfl | ⟨front, last, rfl⟩
    · obtain ⟨rfl, hq⟩ := List.append_inj' heq rfl
      rw [← h.current, hstep, List.singleton_inj.mp hq]
    · rw [List.concat_eq_append, ← List.cons_append, ← List.append_assoc] at heq
      exact h.walk before q front (List.append_inj' heq rfl).1
  current := by rw [hcurrent, hhistory, Workflow.pointer_append]
  iterations := by
    rw [hiterations, hhistory, h.iterations, List.countP_append, List.countP_singleton]
    split_ifs <;> simp

/-- A walk is still one when it is read back. -/
theorem IsWalk.stored (h : s.IsWalk w) (hlegible : ∀ r ∈ s.history, w.Legible r) : s.stored.IsWalk w where
  walk before r after heq := by
    obtain ⟨before, rest, hbefore, rfl, hrest⟩ := List.map_eq_append_iff.mp heq
    obtain ⟨r, after, rfl, rfl, rfl⟩ := List.map_eq_cons_iff.mp hrest
    rw [Workflow.pointer_stored fun q hq => hlegible q (hbefore ▸ List.mem_append_left _ hq)]
    exact h.walk before r after hbefore
  current := h.current.trans (Workflow.pointer_stored hlegible).symm
  iterations := by
    have hcount : (s.history.map StepRecord.stored).countP w.isBackward = s.history.countP w.isBackward := by
      rw [List.countP_map]
      exact List.countP_congr fun r hr => by rw [Function.comp, Workflow.isBackward_stored (hlegible r hr)]
    exact h.iterations.trans (congrArg Nat.cast hcount).symm

/-- A walk of which every record is written as its step writes it. -/
structure IsLegibleWalk (w : Workflow) (s : Session) : Prop extends s.IsWalk w where
  legible : ∀ r ∈ s.history, w.Legible r

theorem IsLegibleWalk.congr (h : s.IsLegibleWalk w) (hhistory : t.history = s.history)
    (hcurrent : t.currentStep = s.currentStep) (hiterations : t.iterations = s.iterations) :
    t.IsLegibleWalk w :=
  ⟨h.toIsWalk.congr hhistory hcurrent hiterations, hhistory ▸ h.legible⟩

theorem IsLegibleWalk.append (h : s.IsLegibleWalk w) (hstep : s.currentStep = some r.stepId)
    (hlegible : w.Legible r) (hhistory : t.history = s.history ++ [r])
    (hcurrent : t.currentStep = w.pointerAfter r)
    (hiterations : t.iterations = s.iterations + if w.isBackward r then 1 else 0) : t.IsLegibleWalk w where
  toIsWalk := h.toIsWalk.append hstep hhistory hcurrent hiterations
  legible q hq := by
    rw [hhistory] at hq
    rcases List.mem_append.mp hq with hq | hq
    · exact h.legible q hq
    · rw [List.mem_singleton.mp hq]
      exact hlegible

theorem IsLegibleWalk.stored (h : s.IsLegibleWalk w) : s.stored.IsLegibleWalk w where
  toIsWalk := h.toIsWalk.stored h.legible
  legible q hq := by
    obtain ⟨r, hr, rfl⟩ := List.mem_map.mp hq
    exact (h.legible r hr).stored

end Session

end Runbook
