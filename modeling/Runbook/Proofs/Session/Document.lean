import Runbook.Proofs.Each
import Runbook.Proofs.Json.RoundTrip
import Runbook.Proofs.Text.Utf8
import Runbook.Proofs.Value.Bindings
import Runbook.Session.Repository

/-! What a session is after it was saved and read back: the values of its variables and its history are
those of JSON, and all else is as it was. -/

namespace Runbook

open Json

/-! ## Values -/

namespace Value

/-- What a value is after it was saved and read back. -/
def stored (v : Value) : Value :=
  match v.plain with
  | .ok w => reread w
  | .error _ => v

theorem stored_of_plain {v w : Value} (h : v.plain = .ok w) : v.stored = reread w := by
  rw [stored, h]

end Value

namespace Bindings

def stored (b : Bindings) : Bindings := update [] (b.map fun e => (e.1, e.2.stored))

theorem nodup_names_stored (b : Bindings) : b.stored.names.Nodup :=
  @nodup_names_update [] List.nodup_nil _

end Bindings

theorem insertMember_obj (b : Bindings) (k : String) (v : Value) :
    insertMember (b.map fun e => (.text e.1, e.2)) k v = (b.set k v).map fun e => (.text e.1, e.2) := by
  induction b with
  | nil => rfl
  | cons e rest ih =>
    obtain ⟨name, w⟩ := e
    by_cases h : name = k
    · simp [insertMember, Value.keyIs, Bindings.set, h]
    · simp [insertMember, Value.keyIs, Bindings.set, h, ih]

theorem rereadOnto_obj (done b : Bindings) :
    rereadOnto (done.map fun e => (.text e.1, e.2)) (b.map fun e => (.text e.1, e.2)) =
      (done.update (b.map fun e => (e.1, reread e.2))).map fun e => (.text e.1, e.2) := by
  induction b generalizing done with
  | nil => rfl
  | cons e rest ih =>
    simp only [List.map_cons, rereadOnto, keyText?, Option.getD_some]
    rw [insertMember_obj, ih]
    rfl

/-- A map from texts remains one; the last value of a name counts. -/
theorem reread_obj (b : Bindings) :
    reread (.obj b) = .obj (Bindings.update [] (b.map fun e => (e.1, reread e.2))) := by
  have h := rereadOnto_obj [] b
  rw [List.map_nil] at h
  rw [Value.obj, reread, h]
  rfl

theorem reread_obj_of_nodup {b : Bindings} (h : b.names.Nodup) :
    reread (.obj b) = .obj (b.map fun e => (e.1, reread e.2)) := by
  rw [reread_obj, Bindings.update_nil_of_nodup]
  simpa [Bindings.names, Function.comp_def] using h

theorem plainEntries_obj {b : Bindings} {ws : List (Value × Value)}
    (h : Value.plainEntries (b.map fun e => (.text e.1, e.2)) = .ok ws) :
    ∃ c : Bindings, ws = c.map (fun e => (.text e.1, e.2)) ∧
      c.map (fun e => (e.1, reread e.2)) = b.map fun e => (e.1, e.2.stored) := by
  induction b generalizing ws with
  | nil =>
    rw [List.map_nil, Value.plainEntries] at h
    obtain rfl := Except.ok.inj h
    exact ⟨[], rfl, rfl⟩
  | cons e rest ih =>
    obtain ⟨name, v⟩ := e
    rw [List.map_cons, Value.plainEntries, Value.plainKey] at h
    cases hv : v.plain with
    | error f => simp [hv] at h
    | ok w =>
      cases hrest : Value.plainEntries (rest.map fun e => (.text e.1, e.2)) with
      | error f => simp [hv, hrest, Except.map] at h
      | ok us =>
        obtain ⟨c, rfl, hc⟩ := ih hrest
        simp only [hv, hrest, Except.map, Except.ok.injEq] at h
        subst h
        refine ⟨(name, w) :: c, rfl, ?_⟩
        rw [List.map_cons, List.map_cons, hc, Value.stored_of_plain hv]

/-- Bindings that were saved are read as bindings of the same names. -/
theorem reread_plainBindings {b : Bindings} {w : Value} (h : Value.plainBindings b = .ok w) :
    reread w = .obj b.stored := by
  rw [Value.plainBindings, Value.obj, Value.plain] at h
  generalize hws : Value.plainEntries _ = r at h
  cases r with
  | error f => simp [Except.map] at h
  | ok ws =>
    obtain ⟨c, rfl, hc⟩ := plainEntries_obj hws
    simp only [Except.map, Except.ok.injEq] at h
    subst h
    change reread (.obj c) = _
    rw [reread_obj, hc, Bindings.stored]

theorem entries_obj (b : Bindings) : Schema.entries (b.map fun e => (.text e.1, e.2)) = .ok b := by
  induction b with
  | nil => rfl
  | cons e rest ih =>
    rw [List.map_cons, Schema.entries, ih]
    rfl

theorem bindings_obj {b : Bindings} (h : b.names.Nodup) : Schema.bindings (.obj b) = .ok b := by
  have hentries : Schema.bindings (.obj b) = (Checked.ok b).map (Bindings.update []) :=
    congrArg (Checked.map (Bindings.update [])) (entries_obj b)
  rw [hentries, Checked.map, Bindings.update_nil_of_nodup h]

/-! ## Records of the history -/

namespace StepRecord

def stored (r : StepRecord) : StepRecord := { r with output := r.output.stored }

/-- The document of a record that was saved and read back. -/
def storedValue (r : StepRecord) : Value := .obj [
  ("stepId", .text r.stepId), ("action", .text r.action), ("success", .bool r.success),
  ("output", r.output.stored), ("error", optionText r.error), ("timestamp", .text r.timestamp)]

theorem reread_optionText (o : Option String) : reread (optionText o) = optionText o := by
  cases o <;> rfl

theorem reread_toValue {r : StepRecord} {w : Value} (h : r.toValue = .ok w) :
    reread w = r.storedValue := by
  unfold toValue at h
  cases hout : r.output.plain with
  | error f => rw [hout] at h; cases h
  | ok out =>
    rw [hout] at h
    obtain rfl := Except.ok.inj h
    rw [reread_obj_of_nodup (by simp [Bindings.names])]
    simp only [List.map_cons, List.map_nil, reread, reread_optionText, storedValue,
      Value.stored_of_plain hout]

theorem ofValue_storedValue (now : String) (r : StepRecord) :
    ofValue now r.storedValue = .ok r.stored := by
  obtain ⟨id, action, success, output, error, timestamp⟩ := r
  cases error <;> rfl

theorem reread_history {rs : List StepRecord} {ws : List Value} (h : rs.mapM toValue = .ok ws) :
    rereadEach ws = rs.map storedValue := by
  have hall := mapM_eq_ok_iff.mp h
  clear h
  induction hall with
  | nil => rfl
  | cons hr hrest ih =>
    rw [rereadEach, reread_toValue hr, ih]
    rfl

theorem items_storedValue (now : String) (rs : List StepRecord) (place : ℕ) :
    Schema.items (ofValue now) place (rs.map storedValue) = .ok (rs.map stored) := by
  induction rs generalizing place with
  | nil => rfl
  | cons r rs ih =>
    rw [List.map_cons, Schema.items, ofValue_storedValue, ih]
    rfl

theorem list_storedValue (now : String) (rs : List StepRecord) :
    Schema.list (ofValue now) (.list (rs.map storedValue)) = .ok (rs.map stored) :=
  items_storedValue now rs 0

end StepRecord

/-! ## Sessions -/

namespace Session

/-- What a session is after it was saved and read back. -/
def stored (s : Session) : Session :=
  { s with
    «variables» := s.variables.stored
    history := s.history.map StepRecord.stored
    lastError := s.lastError.map Bindings.stored }

/-- The document of a session that was saved and read back. -/
def storedValue (s : Session) : Value := .obj [
  ("name", .text s.name), ("sessionId", .text s.id), ("currentStep", optionText s.currentStep),
  ("variables", .obj s.variables.stored), ("history", .list (s.history.map StepRecord.storedValue)),
  ("iterationCount", .int s.iterations), ("paused", .bool s.paused), ("completed", .bool s.completed),
  ("failed", .bool s.failed), ("lastError", (s.lastError.map fun b => Value.obj b.stored).getD .null),
  ("createdAt", .text s.createdAt), ("updatedAt", .text s.updatedAt)]

theorem reread_errorValue {e : Option Bindings} {w : Value} (h : errorValue e = .ok w) :
    reread w = (e.map fun b => Value.obj b.stored).getD .null := by
  cases e with
  | none =>
    obtain rfl := Except.ok.inj h
    rfl
  | some b => exact reread_plainBindings h

theorem reread_toValue {s : Session} {w : Value} (h : s.toValue = .ok w) :
    reread w = s.storedValue := by
  unfold toValue at h
  cases hvars : Value.plainBindings s.variables with
  | error f => rw [hvars] at h; cases h
  | ok vars =>
    cases hhist : s.history.mapM StepRecord.toValue with
    | error f => rw [hvars, hhist] at h; cases h
    | ok hist =>
      cases hlast : errorValue s.lastError with
      | error f => rw [hvars, hhist, hlast] at h; cases h
      | ok last =>
        rw [hvars, hhist, hlast] at h
        obtain rfl := Except.ok.inj h
        rw [reread_obj_of_nodup (by simp [Bindings.names])]
        simp only [List.map_cons, List.map_nil, reread, StepRecord.reread_optionText,
          reread_errorValue hlast, reread_plainBindings hvars, StepRecord.reread_history hhist,
          storedValue]

theorem ofValue_storedValue (now : String) (s : Session) : ofValue now s.storedValue = .ok s.stored := by
  obtain ⟨name, id, step, vars, hist, iterations, paused, completed, failed, last, created, updated⟩ := s
  set v := storedValue ⟨name, id, step, vars, hist, iterations, paused, completed, failed, last, created,
    updated⟩
  have hstep : Schema.required v ["currentStep", "current_step"] (Schema.optional Schema.text) =
      .ok step := by
    cases step <;> rfl
  have hvars : Schema.withDefault v ["variables"] Schema.bindings [] = .ok vars.stored :=
    congrArg (Checked.below (.name "variables")) (bindings_obj vars.nodup_names_stored)
  have hhist : Schema.withDefault v ["history"] (Schema.list (StepRecord.ofValue now)) [] =
      .ok (hist.map StepRecord.stored) :=
    congrArg (Checked.below (.name "history")) (StepRecord.list_storedValue now hist)
  have hlast : Schema.maybe v ["lastError", "last_error"] Schema.bindings =
      .ok (last.map Bindings.stored) := by
    cases last with
    | none => rfl
    | some b =>
      exact congrArg (fun r => Checked.below (.name "lastError") (r.map some)) (bindings_obj b.nodup_names_stored)
  have hread : ofValue now v =
      (((((((((((((Checked.ok name).map Session.mk).ap (.ok id)).ap
        (Schema.required v ["currentStep", "current_step"] (Schema.optional Schema.text))).ap
        (Schema.withDefault v ["variables"] Schema.bindings [])).ap
        (Schema.withDefault v ["history"] (Schema.list (StepRecord.ofValue now)) [])).ap
        (.ok iterations)).ap (.ok paused)).ap (.ok completed)).ap (.ok failed)).ap
        (Schema.maybe v ["lastError", "last_error"] Schema.bindings)).ap (.ok created)).ap
        (.ok updated)) := rfl
  rw [hread, hstep, hvars, hhist, hlast]
  rfl

end Session

/-! ## Values that are read back as they are -/

namespace Value

/-- A value of JSON with finite numbers; the names in a map are different. -/
inductive IsJson : Value → Prop where
  | null : IsJson .null
  | bool (b : Bool) : IsJson (.bool b)
  | int (n : ℤ) : IsJson (.int n)
  | num {x : Binary64} (hx : x.isFinite = true) : IsJson (.num x)
  | text (s : String) : IsJson (.text s)
  | list {xs : List Value} (hxs : ∀ x ∈ xs, IsJson x) : IsJson (.list xs)
  | obj {b : Bindings} (hnames : b.names.Nodup) (hb : ∀ e ∈ b, IsJson e.2) : IsJson (.obj b)

theorem plainList_eq {xs : List Value} (h : ∀ x ∈ xs, x.plain = .ok x) : plainList xs = .ok xs := by
  induction xs with
  | nil => rw [plainList]
  | cons x xs ih =>
    rw [plainList, h x List.mem_cons_self, ih fun y hy => h y (List.mem_cons_of_mem x hy)]
    rfl

theorem plainEntries_eq {b : Bindings} (h : ∀ e ∈ b, e.2.plain = .ok e.2) :
    plainEntries (b.map fun e => (.text e.1, e.2)) = .ok (b.map fun e => (.text e.1, e.2)) := by
  induction b with
  | nil => rw [List.map_nil, plainEntries]
  | cons e b ih =>
    rw [List.map_cons, plainEntries, plainKey, h e List.mem_cons_self,
      ih fun y hy => h y (List.mem_cons_of_mem e hy)]
    rfl

theorem rereadEach_eq {xs : List Value} (h : ∀ x ∈ xs, reread x = x) : rereadEach xs = xs := by
  induction xs with
  | nil => rw [rereadEach]
  | cons x xs ih => rw [rereadEach, h x List.mem_cons_self, ih fun y hy => h y (List.mem_cons_of_mem x hy)]

/-- A value of JSON is written as it is and read back as it was. -/
theorem IsJson.plain_and_reread {v : Value} (h : v.IsJson) : v.plain = .ok v ∧ reread v = v := by
  induction h with
  | null => exact ⟨by rw [plain], by rw [reread] <;> exact nofun⟩
  | bool b => exact ⟨by rw [plain], by rw [reread] <;> exact nofun⟩
  | int n => exact ⟨by rw [plain], by rw [reread] <;> exact nofun⟩
  | num hx => exact ⟨by rw [plain, if_pos hx], by rw [reread] <;> exact nofun⟩
  | text s => exact ⟨by rw [plain], by rw [reread] <;> exact nofun⟩
  | @list xs hxs ih =>
    refine ⟨?_, ?_⟩
    · rw [plain, plainList_eq fun x hx => (ih x hx).1]
      rfl
    · rw [reread, rereadEach_eq fun x hx => (ih x hx).2]
  | @obj b hnames hb ih =>
    refine ⟨?_, ?_⟩
    · rw [Value.obj, plain, plainEntries_eq fun e he => (ih e he).1]
      rfl
    · have hmap : (b.map fun e => (e.1, reread e.2)) = b :=
        (List.map_congr_left fun e he => by rw [(ih e he).2]; rfl).trans (List.map_id b)
      rw [reread_obj_of_nodup hnames, hmap]

theorem IsJson.stored_eq {v : Value} (h : v.IsJson) : v.stored = v := by
  obtain ⟨hplain, hreread⟩ := h.plain_and_reread
  rw [stored_of_plain hplain, hreread]

end Value

/-- Bindings of such values are read back as they were saved. -/
theorem Bindings.stored_eq {b : Bindings} (hnames : b.names.Nodup) (hb : ∀ e ∈ b, e.2.IsJson) : b.stored = b := by
  have hmap : b.map (fun e => (e.1, e.2.stored)) = b :=
    (List.map_congr_left fun e he => by rw [(hb e he).stored_eq]; rfl).trans (List.map_id _)
  rw [Bindings.stored, hmap, Bindings.update_nil_of_nodup hnames]

namespace Session

/-- The variables and the outputs in the history are values of JSON with finite numbers. -/
structure IsJson (s : Session) : Prop where
  names : s.variables.names.Nodup
  variables_ : ∀ e ∈ s.variables, e.2.IsJson
  outputs : ∀ r ∈ s.history, r.output.IsJson

/-- A session of such values is read back as it was saved if its last failure is. -/
theorem IsJson.stored_eq_of_lastError {s : Session} (h : s.IsJson)
    (hlast : s.lastError.map Bindings.stored = s.lastError) : s.stored = s := by
  have hhistory : s.history.map StepRecord.stored = s.history :=
    (List.map_congr_left fun r hr => by rw [StepRecord.stored, (h.outputs r hr).stored_eq]; rfl).trans (List.map_id _)
  rw [stored, Bindings.stored_eq h.names h.variables_, hhistory, hlast]

/-- So is one that did not fail. -/
theorem IsJson.stored_eq {s : Session} (h : s.IsJson) (hlast : s.lastError = none) : s.stored = s :=
  h.stored_eq_of_lastError (by rw [hlast]; rfl)

end Session

namespace Repository

/-- A session is read back from its file as it was saved. -/
theorem decode_fileText {s : Session} {text : String} (h : fileText s = .ok text) (now : String) :
    decode now (Text.Utf8.encode text) = .ok s.stored := by
  unfold fileText at h
  obtain ⟨doc, hdoc, hprint⟩ := bind_eq_ok_iff.mp h
  cases htext : pretty? doc with
  | none => rw [htext] at hprint; cases hprint
  | some t =>
    rw [htext] at hprint
    obtain rfl := Except.ok.inj hprint
    unfold decode
    simp only [Text.Utf8.decode_encode, parse_pretty? htext, Session.reread_toValue hdoc,
      Session.ofValue_storedValue]

end Repository

end Runbook
