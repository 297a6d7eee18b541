import Runbook.Proofs.Execution.Reads
import Runbook.Proofs.Session.Untimed

/-! Sessions that differ in the text of one variable at most. Templates without its name, conditions that look up no
name equal to it up to case, and the writing of the session show nothing of it. -/

namespace Runbook

/-! ## Bindings -/

namespace Bindings

/-- The same name with the same value, or with two texts if it is the one that may differ. -/
structure SameEntry (v : String) (e e' : String × Value) : Prop where
  name_eq : e'.1 = e.1
  value : e'.2 = e.2 ∨ e.1 = v ∧ (∃ p, e.2 = .text p) ∧ ∃ q, e'.2 = .text q

/-- The same names in the same order, with the same values but for the texts of one name. -/
def SameBut (v : String) (b c : Bindings) : Prop := List.Forall₂ (SameEntry v) b c

theorem SameEntry.refl (v : String) (e : String × Value) : SameEntry v e e := ⟨rfl, .inl rfl⟩

namespace SameBut

variable {v : String} {b c more more' : Bindings}

theorem refl (v : String) (b : Bindings) : SameBut v b b :=
  List.forall₂_same.mpr fun e _ => SameEntry.refl v e

/-- A search by names that passes over the one that may differ finds the same. -/
theorem find?_eq (h : SameBut v b c) {p : String → Bool} (hp : p v = false) :
    (c.find? fun e => p e.1).map (·.2) = (b.find? fun e => p e.1).map (·.2) := by
  induction h with
  | nil => rfl
  | @cons e e' b c he _ ih =>
    rw [List.find?_cons, List.find?_cons, he.name_eq]
    cases hpe : p e.1 with
    | false => exact ih
    | true =>
      rcases he.value with heq | ⟨hv, -⟩
      · exact congrArg some heq
      · rw [hv, hp] at hpe
        cases hpe

theorem get?_eq (h : SameBut v b c) {name : String} (hne : name ≠ v) : c.get? name = b.get? name :=
  h.find?_eq (p := (· == name)) (beq_eq_false_iff_ne.mpr hne.symm)

theorem set (h : SameBut v b c) {e e' : String × Value} (he : SameEntry v e e') :
    SameBut v (b.set e.1 e.2) (c.set e'.1 e'.2) := by
  rw [he.name_eq]
  induction h with
  | nil => exact .cons ⟨rfl, he.value⟩ .nil
  | @cons d d' b c hd htail ih =>
    unfold Bindings.set
    rw [hd.name_eq]
    split_ifs with hname
    · exact .cons ⟨rfl, hname ▸ he.value⟩ htail
    · exact .cons ⟨rfl, hd.value⟩ ih

theorem update (h : SameBut v b c) (hmore : SameBut v more more') : SameBut v (b.update more) (c.update more') := by
  induction hmore generalizing b c with
  | nil => exact h
  | cons he _ ih => exact ih (h.set he)

theorem stored (h : SameBut v b c) : SameBut v b.stored c.stored := by
  refine update (refl v []) ?_
  rw [SameBut, List.forall₂_map_left_iff, List.forall₂_map_right_iff]
  refine h.imp fun e e' he => ⟨he.name_eq, ?_⟩
  rcases he.value with heq | ⟨hv, ⟨p, hp⟩, q, hq⟩
  · exact .inl (congrArg Value.stored heq)
  · refine .inr ⟨hv, ⟨p, ?_⟩, q, ?_⟩
    · rw [hp, (Value.IsJson.text p).stored_eq]
    · rw [hq, (Value.IsJson.text q).stored_eq]

end SameBut

end Bindings

/-! ## Templates and conditions -/

section

variable {v : String} {b c : Bindings}

theorem Template.fill_eq (h : b.SameBut v c) {template : String} (hv : v ∉ placeholders template) :
    fill template c = fill template b :=
  fill_congr fun n hn => by rw [h.get?_eq fun heq => hv (heq ▸ hn)]

/-- A task of which no text has a placeholder for the variable is filled alike. -/
theorem Task.fill_eq (h : b.SameBut v c) {task : Task} (hv : ∀ t ∈ task.templates, v ∉ Template.placeholders t) :
    task.fill c = task.fill b :=
  fill_congr fun t ht => Template.fill_eq h (hv t ht)

namespace Condition

theorem lookup?_eq (h : b.SameBut v c) {name : String} (hv : Unicode.toLower name ≠ Unicode.toLower v) :
    lookup? c name = lookup? b name := by
  unfold lookup?
  rw [h.get?_eq fun heq => hv (congrArg Unicode.toLower heq)]
  cases b.get? name with
  | some x => rfl
  | none =>
    exact h.find?_eq (p := (Unicode.toLower · == Unicode.toLower name)) (beq_eq_false_iff_ne.mpr hv.symm)

theorem holds_eq (h : b.SameBut v c) {condition : Condition}
    (hv : ∀ n ∈ condition.names, Unicode.toLower n ≠ Unicode.toLower v) : condition.holds c = condition.holds b := by
  have hlookup (n : String) (hn : n ∈ condition.names) := lookup?_eq h (hv n hn)
  cases condition with
  | constant t => rfl
  | approved => simp only [holds, hlookup "approved" (by simp [names])]
  | fileExists =>
    simp only [holds, hlookup "fileExists" (by simp [names]), hlookup "exists" (by simp [names])]
  | bar test name arg => simp only [holds, hlookup name (by simp [names])]
  | compare op left right =>
    simp only [holds, operand, hlookup left (by simp [names]), hlookup right (by simp [names])]
  | bare name => simp only [holds, hlookup name (by simp [names])]

theorem evaluate_eq (h : b.SameBut v c) {text : String}
    (hv : ∀ n ∈ (read text).names, Unicode.toLower n ≠ Unicode.toLower v) : evaluate text c = evaluate text b :=
  holds_eq h hv

end Condition

end

/-! ## Sessions -/

namespace Json

theorem isSome_print?_map (l : Layout) (d : ℕ) (es : List (Value × Value)) :
    (print? l d (.map es)).isSome = (printMembers? l (d + 1) es).isSome := by
  rw [print?]
  cases printMembers? l (d + 1) es with
  | none => rfl
  | some ms => cases ms <;> rfl

theorem isSome_printMembers?_cons (l : Layout) (d : ℕ) (name : String) (w : Value) (es : List (Value × Value)) :
    (printMembers? l d ((.text name, w) :: es)).isSome =
      ((print? l d w).isSome && (printMembers? l d es).isSome) := by
  rw [printMembers?, keyText?]
  cases print? l d w <;> cases printMembers? l d es <;> rfl

end Json

namespace StepRecord

theorem outputsPrint_cons (l : Json.Layout) (d : ℕ) (x : Value) (xs : List Value) :
    outputsPrint l d (x :: xs) =
      (x.plain.map fun w => (Json.print? l d w).isSome) >>= fun p =>
        (outputsPrint l d xs).map (p && ·) := by
  rw [outputsPrint]
  cases x.plain with
  | error f => rfl
  | ok w => cases outputsPrint l d xs <;> rfl

end StepRecord

namespace Bindings

variable {v : String} {b c : Bindings}

/-- A value can be written, with the fault if it is no JSON value; all texts can. -/
theorem SameEntry.prints_eq {e e' : String × Value} (h : SameEntry v e e') (l : Json.Layout) (d : ℕ) :
    e'.2.plain.map (fun w => (Json.print? l d w).isSome) = e.2.plain.map fun w => (Json.print? l d w).isSome := by
  rcases h.value with heq | ⟨-, ⟨p, hp⟩, q, hq⟩
  · rw [heq]
  · rw [hp, hq, (Value.IsJson.text p).plain_and_reread.1, (Value.IsJson.text q).plain_and_reread.1]
    simp only [Except.map, Json.print?, Option.isSome_some]

/-- Whether the members of a map can be written is a matter of their values. -/
theorem members_eq (b : Bindings) (l : Json.Layout) (d : ℕ) :
    (Value.plainEntries (b.map fun e => (.text e.1, e.2))).map (fun ws => (Json.printMembers? l d ws).isSome) =
      StepRecord.outputsPrint l d (b.map (·.2)) := by
  induction b with
  | nil => simp [Value.plainEntries, Json.printMembers?, StepRecord.outputsPrint, Except.map]
  | cons e b ih =>
    rw [List.map_cons, List.map_cons, StepRecord.outputsPrint_cons, ← ih, Value.plainEntries, Value.plainKey]
    cases e.2.plain with
    | error f => rfl
    | ok w =>
      cases Value.plainEntries (b.map fun e => (.text e.1, e.2)) with
      | error f => rfl
      | ok ws => exact congrArg Except.ok (Json.isSome_printMembers?_cons l d e.1 w ws)

/-- Bindings can be written alike, with the fault if their values are no JSON values. -/
theorem SameBut.prints_eq (h : SameBut v b c) (l : Json.Layout) (d : ℕ) :
    (Value.plainBindings c).map (fun w => (Json.print? l d w).isSome) =
      (Value.plainBindings b).map fun w => (Json.print? l d w).isSome := by
  have hwhole (b : Bindings) : (Value.plainBindings b).map (fun w => (Json.print? l d w).isSome) =
      StepRecord.outputsPrint l (d + 1) (b.map (·.2)) := by
    rw [← members_eq, Value.plainBindings, Value.obj, Value.plain]
    cases Value.plainEntries (b.map fun e => (.text e.1, e.2)) with
    | error f => rfl
    | ok ws => exact congrArg Except.ok (Json.isSome_print?_map l d ws)
  rw [hwhole, hwhole]
  induction h with
  | nil => rfl
  | cons he _ ih =>
    rw [List.map_cons, List.map_cons, StepRecord.outputsPrint_cons, StepRecord.outputsPrint_cons, he.prints_eq, ih]

end Bindings

namespace Session

/-- The sessions are the same but for the text of one variable. -/
structure SameBut (v : String) (s t : Session) : Prop where
  name_eq : t.name = s.name
  id_eq : t.id = s.id
  currentStep_eq : t.currentStep = s.currentStep
  variables_ : s.variables.SameBut v t.variables
  history_eq : t.history = s.history
  iterations_eq : t.iterations = s.iterations
  paused_eq : t.paused = s.paused
  completed_eq : t.completed = s.completed
  failed_eq : t.failed = s.failed
  lastError_eq : t.lastError = s.lastError
  createdAt_eq : t.createdAt = s.createdAt
  updatedAt_eq : t.updatedAt = s.updatedAt

namespace SameBut

variable {v : String} {s t : Session}

theorem refl (v : String) (s : Session) : SameBut v s s :=
  ⟨rfl, rfl, rfl, .refl v _, rfl, rfl, rfl, rfl, rfl, rfl, rfl, rfl⟩

theorem key_eq (h : SameBut v s t) : t.key = s.key := by
  unfold key
  rw [h.name_eq, h.id_eq]

theorem status_eq (h : SameBut v s t) : t.status = s.status := by
  unfold status
  rw [h.completed_eq, h.failed_eq, h.paused_eq, h.history_eq]

/-- They are the same but for it after they were saved and read back. -/
theorem stored (h : SameBut v s t) : SameBut v s.stored t.stored :=
  { h with
    variables_ := h.variables_.stored
    history_eq := congrArg (List.map StepRecord.stored) h.history_eq
    lastError_eq := congrArg (Option.map Bindings.stored) h.lastError_eq }

/-- Both can be written, or neither for the same reason. -/
theorem fileText_eq (h : SameBut v s t) :
    (Repository.fileText t).map (fun _ => ()) = (Repository.fileText s).map fun _ => () := by
  have hvars := h.variables_.prints_eq Json.indented 1
  have hprints : t.prints = s.prints := by
    unfold prints
    rw [h.history_eq, h.lastError_eq, h.iterations_eq]
    cases hs : Value.plainBindings s.variables <;> cases ht : Value.plainBindings t.variables
    all_goals
      rw [hs, ht] at hvars
    · obtain rfl := Except.error.inj hvars
      rfl
    · cases hvars
    · cases hvars
    · simp only [bind, Except.bind, Except.ok.inj hvars]
  rw [Repository.fileText_map, Repository.fileText_map, hprints]

end SameBut

end Session

end Runbook
