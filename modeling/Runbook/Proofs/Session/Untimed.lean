import Runbook.Proofs.Session.Document

/-! Sessions without their times. Whether a session can be written depends on its variables, its outputs, its
last failure and its count of jumps alone. -/

namespace Runbook

/-! ## What can be written -/

namespace Json

theorem isSome_printEach? (l : Layout) (d : ℕ) (vs : List Value) :
    (printEach? l d vs).isSome = vs.all fun v => (print? l d v).isSome := by
  induction vs with
  | nil =>
    rw [printEach?]
    rfl
  | cons v vs ih =>
    rw [printEach?, List.all_cons, ← ih]
    cases print? l d v <;> cases printEach? l d vs <;> rfl

theorem isSome_print?_list (l : Layout) (d : ℕ) (vs : List Value) :
    (print? l d (.list vs)).isSome = vs.all fun v => (print? l (d + 1) v).isSome := by
  rw [← isSome_printEach?, print?, printItems?]
  cases printEach? l (d + 1) vs with
  | none => rfl
  | some ts => cases ts <;> rfl

theorem isSome_printMembers? (l : Layout) (d : ℕ) (b : Bindings) :
    (printMembers? l d (b.map fun e => (.text e.1, e.2))).isSome =
      b.all fun e => (print? l d e.2).isSome := by
  induction b with
  | nil =>
    rw [List.map_nil, printMembers?]
    rfl
  | cons e b ih =>
    rw [List.map_cons, printMembers?, List.all_cons, ← ih]
    cases print? l d e.2 <;> cases printMembers? l d (b.map fun e => (.text e.1, e.2)) <;> rfl

/-- A map from texts can be written if each of its values can. -/
theorem isSome_print?_obj (l : Layout) (d : ℕ) (b : Bindings) :
    (print? l d (.obj b)).isSome = b.all fun e => (print? l (d + 1) e.2).isSome := by
  rw [← isSome_printMembers?, Value.obj, print?]
  cases printMembers? l (d + 1) (b.map fun e => (.text e.1, e.2)) with
  | none => rfl
  | some ts => cases ts <;> rfl

theorem isSome_print?_optionText (l : Layout) (d : ℕ) (o : Option String) :
    (print? l d (optionText o)).isSome = true := by
  cases o with
  | none =>
    rw [optionText, print?]
    rfl
  | some t =>
    rw [optionText, print?]
    rfl

end Json

open Json

namespace StepRecord

def untimed (r : StepRecord) : StepRecord := { r with timestamp := "" }

theorem toValue_eq (r : StepRecord) :
    r.toValue = r.output.plain.map fun output => .obj [
      ("stepId", .text r.stepId), ("action", .text r.action), ("success", .bool r.success),
      ("output", output), ("error", optionText r.error), ("timestamp", .text r.timestamp)] := by
  unfold toValue
  cases r.output.plain <;> rfl

/-- Whether the document of a record can be written is a matter of its output. -/
theorem isSome_print?_document (l : Layout) (d : ℕ) (r : StepRecord) (output : Value) :
    (print? l d (.obj [
      ("stepId", .text r.stepId), ("action", .text r.action), ("success", .bool r.success),
      ("output", output), ("error", optionText r.error), ("timestamp", .text r.timestamp)])).isSome =
      (print? l (d + 1) output).isSome := by
  rw [isSome_print?_obj]
  simp [isSome_print?_optionText, print?]

/-- Whether outputs can be written, as far as they are JSON values at all. -/
def outputsPrint (l : Layout) (d : ℕ) : List Value → Except Fault Bool
  | [] => .ok true
  | v :: vs => do
    let v ← v.plain
    let rest ← outputsPrint l d vs
    return (print? l d v).isSome && rest

/-- Whether a history can be written is a matter of its outputs. -/
theorem isSome_print?_history (l : Layout) (d : ℕ) (rs : List StepRecord) :
    (rs.mapM toValue).map (fun vs => vs.all fun v => (print? l d v).isSome) =
      outputsPrint l (d + 1) (rs.map (·.output)) := by
  induction rs with
  | nil => rfl
  | cons r rs ih =>
    rw [List.mapM_cons, List.map_cons, outputsPrint, ← ih, toValue_eq]
    cases r.output.plain with
    | error e => rfl
    | ok output =>
      cases rs.mapM toValue with
      | error e => rfl
      | ok vs =>
        change Except.ok (List.all (_ :: vs) _) = Except.ok _
        rw [List.all_cons, isSome_print?_document]

end StepRecord

namespace Session

/-- Whether a session can be written, with the fault if its values are no JSON values. -/
def prints (s : Session) : Except Fault Bool := do
  let vars ← Value.plainBindings s.variables
  let history ← StepRecord.outputsPrint indented 3 (s.history.map (·.output))
  let lastError ← errorValue s.lastError
  return (print? indented 1 vars).isSome && (history && ((print? indented 1 (.int s.iterations)).isSome &&
    (print? indented 1 lastError).isSome))

theorem isSome_pretty?_toValue (s : Session) :
    s.toValue.map (fun doc => (pretty? doc).isSome) = s.prints := by
  unfold toValue prints
  rw [← StepRecord.isSome_print?_history]
  cases Value.plainBindings s.variables with
  | error e => rfl
  | ok vars =>
    cases s.history.mapM StepRecord.toValue with
    | error e => rfl
    | ok history =>
      cases errorValue s.lastError with
      | error e => rfl
      | ok lastError =>
        have htext (t : String) : (print? indented 1 (.text t)).isSome = true := by rw [print?]; rfl
        have hbool (b : Bool) : (print? indented 1 (.bool b)).isSome = true := by rw [print?]; rfl
        change Except.ok _ = Except.ok _
        simp only [pretty?, isSome_print?_obj, List.all_cons, List.all_nil, isSome_print?_list, htext, hbool,
          isSome_print?_optionText, Bool.and_true, Bool.true_and]

end Session

namespace Repository

/-- Whether a session can be written, and the fault if not, is a matter of its values. -/
theorem fileText_map (s : Session) :
    (fileText s).map (fun _ => ()) =
      match s.prints with
      | .ok true => .ok ()
      | .ok false => .error (.ofKind .refusedValue (Json.Fail.message "" .hugeInteger))
      | .error e => .error e := by
  rw [← Session.isSome_pretty?_toValue]
  unfold fileText
  cases s.toValue with
  | error e => rfl
  | ok doc =>
    simp only [bind, Except.bind, Except.map]
    cases pretty? doc <;> rfl

theorem fileText_congr {s t : Session} (hvars : t.variables = s.variables)
    (hhistory : t.history.map (·.output) = s.history.map (·.output)) (hlast : t.lastError = s.lastError)
    (hiterations : t.iterations = s.iterations) :
    (fileText t).map (fun _ => ()) = (fileText s).map fun _ => () := by
  have hprints : t.prints = s.prints := by
    unfold Session.prints
    rw [hvars, hhistory, hlast, hiterations]
  rw [fileText_map, fileText_map, hprints]

theorem exists_fileText {s t : Session} (h : (fileText t).map (fun _ => ()) = (fileText s).map fun _ => ())
    (hs : ∃ text, fileText s = .ok text) : ∃ text, fileText t = .ok text := by
  obtain ⟨text, htext⟩ := hs
  rw [htext] at h
  cases ht : fileText t with
  | ok text' => exact ⟨text', rfl⟩
  | error e =>
    rw [ht] at h
    cases h

/-- Sessions that can be written alike are both written, or neither for the same reason. -/
theorem fileText_cases {s t : Session} (h : (fileText t).map (fun _ => ()) = (fileText s).map fun _ => ()) :
    (∃ f, fileText s = .error f ∧ fileText t = .error f) ∨
      (∃ text, fileText s = .ok text) ∧ ∃ text, fileText t = .ok text := by
  cases hs : fileText s with
  | error f =>
    cases ht : fileText t with
    | error g =>
      rw [hs, ht] at h
      obtain rfl := Except.error.inj h
      exact .inl ⟨g, rfl, rfl⟩
    | ok text =>
      rw [hs, ht] at h
      cases h
  | ok text => exact .inr ⟨⟨text, rfl⟩, exists_fileText h ⟨text, hs⟩⟩

/-- A session that has not begun can be written if its variables can. -/
theorem exists_fileText_of_variables {s : Session} {vars : Value} (hvars : Value.plainBindings s.variables = .ok vars)
    (hprint : (print? indented 1 vars).isSome = true) (hhistory : s.history = []) (hiterations : s.iterations = 0)
    (hlast : s.lastError = none) : ∃ text, fileText s = .ok text := by
  have hzero : integer? 0 = some "0" := by decide
  have hprints : s.prints = .ok true := by
    unfold Session.prints
    rw [hvars, hhistory, hiterations, hlast]
    simp [StepRecord.outputsPrint, Session.errorValue, print?, hprint, hzero, bind, Except.bind, pure, Except.pure]
  have htext := fileText_map s
  rw [hprints] at htext
  cases h : fileText s with
  | ok text => exact ⟨text, rfl⟩
  | error e =>
    rw [h] at htext
    cases htext

/-- A session that has not begun can be written if it has no variables. -/
theorem exists_fileText_of_pending {s : Session} (hvars : s.variables = []) (hhistory : s.history = [])
    (hiterations : s.iterations = 0) (hlast : s.lastError = none) : ∃ text, fileText s = .ok text := by
  have hempty : Value.plainBindings s.variables = .ok (.map []) := by
    simp [hvars, Value.plainBindings, Value.obj, Value.plain, Value.plainEntries, Except.map]
  exact exists_fileText_of_variables hempty (by simp [print?, printMembers?]) hhistory hiterations hlast

end Repository

/-! ## Times -/

namespace Session

/-- A session as it is without its times. -/
def untimed (s : Session) : Session :=
  { s with history := s.history.map StepRecord.untimed, createdAt := "", updatedAt := "" }

variable {s t : Session}

/-- The sessions are the same, times apart. -/
structure SameButTimes (s t : Session) : Prop where
  name_eq : t.name = s.name
  id_eq : t.id = s.id
  currentStep_eq : t.currentStep = s.currentStep
  variables_eq : t.variables = s.variables
  history_eq : t.history.map StepRecord.untimed = s.history.map StepRecord.untimed
  iterations_eq : t.iterations = s.iterations
  paused_eq : t.paused = s.paused
  completed_eq : t.completed = s.completed
  failed_eq : t.failed = s.failed
  lastError_eq : t.lastError = s.lastError

theorem untimed_eq_iff : t.untimed = s.untimed ↔ SameButTimes s t := by
  cases s
  cases t
  unfold untimed
  refine ⟨fun h => ?_, fun ⟨h₁, h₂, h₃, h₄, h₅, h₆, h₇, h₈, h₉, h₁₀⟩ => ?_⟩
  · obtain ⟨h₁, h₂, h₃, h₄, h₅, h₆, h₇, h₈, h₉, h₁₀, -, -⟩ := Session.mk.inj h
    exact ⟨h₁, h₂, h₃, h₄, h₅, h₆, h₇, h₈, h₉, h₁₀⟩
  · dsimp only at *
    rw [h₁, h₂, h₃, h₄, h₅, h₆, h₇, h₈, h₉, h₁₀]

namespace SameButTimes

theorem refl (s : Session) : SameButTimes s s := ⟨rfl, rfl, rfl, rfl, rfl, rfl, rfl, rfl, rfl, rfl⟩

theorem outputs_eq (h : SameButTimes s t) : t.history.map (·.output) = s.history.map (·.output) := by
  simpa [StepRecord.untimed, Function.comp_def] using congrArg (List.map (·.output)) h.history_eq

theorem length_history (h : SameButTimes s t) : t.history.length = s.history.length := by
  simpa using congrArg List.length h.outputs_eq

theorem key_eq (h : SameButTimes s t) : t.key = s.key := by
  unfold key
  rw [h.name_eq, h.id_eq]

/-- Whether the values of a session are those of JSON is no matter of times. -/
theorem isJson (h : SameButTimes s t) (hs : s.IsJson) : t.IsJson where
  names := h.variables_eq ▸ hs.names
  variables_ := h.variables_eq ▸ hs.variables_
  outputs r hr := by
    have hmem : r.output ∈ t.history.map (·.output) := List.mem_map_of_mem hr
    rw [h.outputs_eq] at hmem
    obtain ⟨r', hr', heq⟩ := List.mem_map.mp hmem
    exact heq ▸ hs.outputs r' hr'

/-- Nor is it whether the session can be written. -/
theorem fileText_eq (h : SameButTimes s t) :
    (Repository.fileText t).map (fun _ => ()) = (Repository.fileText s).map fun _ => () :=
  Repository.fileText_congr h.variables_eq h.outputs_eq h.lastError_eq h.iterations_eq

theorem fileText_cases (h : SameButTimes s t) :
    (∃ f, Repository.fileText s = .error f ∧ Repository.fileText t = .error f) ∨
      (∃ text, Repository.fileText s = .ok text) ∧ ∃ text, Repository.fileText t = .ok text :=
  Repository.fileText_cases h.fileText_eq

end SameButTimes

end Session

end Runbook
