import Runbook.Proofs.Session.Repository
import Runbook.Proofs.Session.Untimed

/-! Saving and loading are inverse: a session whose values are those of JSON is loaded as it was saved, in every
field. No such session is refused for what it holds, its count of jumps apart. -/

namespace Runbook

open Json

/-! ## Values that can be written -/

/-- An integer that has no more digits than can be written. -/
def Json.IsShort (n : ℤ) : Prop := (Text.natText n.natAbs).length ≤ Decimal.maxIntDigits

instance (n : ℤ) : Decidable (Json.IsShort n) :=
  inferInstanceAs (Decidable ((Text.natText n.natAbs).length ≤ Decimal.maxIntDigits))

theorem Json.isSome_integer?_iff {n : ℤ} : (integer? n).isSome = true ↔ IsShort n := by
  unfold integer? IsShort
  split_ifs with hlong
  · simp [hlong]
  · simpa using hlong

namespace Value

/-- A value of JSON that can be written: its numbers are finite, its integers are short and the names in its maps
are different. -/
inductive IsPortable : Value → Prop where
  | null : IsPortable .null
  | bool (b : Bool) : IsPortable (.bool b)
  | int {n : ℤ} (hn : IsShort n) : IsPortable (.int n)
  | num {x : Binary64} (hx : x.isFinite = true) : IsPortable (.num x)
  | text (s : String) : IsPortable (.text s)
  | list {xs : List Value} (hxs : ∀ x ∈ xs, IsPortable x) : IsPortable (.list xs)
  | obj {b : Bindings} (hnames : b.names.Nodup) (hb : ∀ e ∈ b, IsPortable e.2) : IsPortable (.obj b)

theorem IsPortable.isJson {v : Value} (h : v.IsPortable) : v.IsJson := by
  induction h with
  | null => exact .null
  | bool b => exact .bool b
  | int hn => exact .int _
  | num hx => exact .num hx
  | text s => exact .text s
  | list hxs ih => exact .list ih
  | obj hnames hb ih => exact .obj hnames ih

theorem IsPortable.isSome_print? {v : Value} (h : v.IsPortable) (l : Layout) (d : ℕ) :
    (print? l d v).isSome = true := by
  induction h generalizing d with
  | null => rw [print?]; rfl
  | bool b => rw [print?]; rfl
  | int hn =>
    rw [print?]
    exact isSome_integer?_iff.mpr hn
  | num hx => rw [print?]; rfl
  | text s => rw [print?]; rfl
  | list hxs ih =>
    rw [isSome_print?_list, List.all_eq_true]
    exact fun x hx => ih x hx (d + 1)
  | obj hnames hb ih =>
    rw [isSome_print?_obj, List.all_eq_true]
    exact fun e he => ih e he (d + 1)

end Value

/-- Names for values of JSON that can be written. -/
structure Bindings.IsPortable (b : Bindings) : Prop where
  names : b.names.Nodup
  values : ∀ e ∈ b, e.2.IsPortable

namespace Bindings.IsPortable

variable {b : Bindings}

theorem stored_eq (h : b.IsPortable) : b.stored = b :=
  Bindings.stored_eq h.names fun e he => (h.values e he).isJson

theorem plainBindings_eq (h : b.IsPortable) : Value.plainBindings b = .ok (.obj b) :=
  (Value.IsJson.obj h.names fun e he => (h.values e he).isJson).plain_and_reread.1

theorem isSome_print? (h : b.IsPortable) (l : Layout) (d : ℕ) : (print? l d (.obj b)).isSome = true :=
  (Value.IsPortable.obj h.names h.values).isSome_print? l d

end Bindings.IsPortable

theorem StepRecord.outputsPrint_eq {vs : List Value} (h : ∀ v ∈ vs, v.IsPortable) (l : Layout) (d : ℕ) :
    outputsPrint l d vs = .ok true := by
  induction vs with
  | nil => rfl
  | cons v vs ih =>
    have hv := h v List.mem_cons_self
    rw [outputsPrint, hv.isJson.plain_and_reread.1, ih fun u hu => h u (List.mem_cons_of_mem v hu)]
    simp only [bind, Except.bind, pure, Except.pure, hv.isSome_print? l d, Bool.and_true]

/-! ## Sessions -/

namespace Session

variable {s : Session}

/-- The variables, the outputs in the history and the last failure are values of JSON that can be written. -/
structure IsPortable (s : Session) : Prop where
  variables_ : s.variables.IsPortable
  outputs : ∀ r ∈ s.history, r.output.IsPortable
  lastError : ∀ b ∈ s.lastError, b.IsPortable

theorem IsPortable.isJson (h : s.IsPortable) : s.IsJson where
  names := h.variables_.names
  variables_ e he := (h.variables_.values e he).isJson
  outputs r hr := (h.outputs r hr).isJson

theorem IsPortable.stored_eq (h : s.IsPortable) : s.stored = s := by
  refine h.isJson.stored_eq_of_lastError ?_
  cases hlast : s.lastError with
  | none => rfl
  | some b => exact congrArg some (h.lastError b hlast).stored_eq

/-- Such a session can be written if its count of jumps is short. -/
theorem IsPortable.prints_eq (h : s.IsPortable) : s.prints = .ok (integer? s.iterations).isSome := by
  have houtputs : StepRecord.outputsPrint indented 3 (s.history.map (·.output)) = .ok true := by
    refine StepRecord.outputsPrint_eq (fun v hv => ?_) indented 3
    obtain ⟨r, hr, rfl⟩ := List.mem_map.mp hv
    exact h.outputs r hr
  have hlast : ∃ v, errorValue s.lastError = .ok v ∧ (print? indented 1 v).isSome = true := by
    cases hlast : s.lastError with
    | none => exact ⟨.null, rfl, Value.IsPortable.null.isSome_print? indented 1⟩
    | some b =>
      have hb := h.lastError b hlast
      exact ⟨.obj b, hb.plainBindings_eq, hb.isSome_print? indented 1⟩
  obtain ⟨v, hv, hprint⟩ := hlast
  have hcount : print? indented 1 (.int s.iterations) = integer? s.iterations := by rw [print?]
  unfold prints
  rw [h.variables_.plainBindings_eq, houtputs, hv, hcount]
  simp only [bind, Except.bind, pure, Except.pure, h.variables_.isSome_print? indented 1, hprint, Bool.true_and,
    Bool.and_true]

end Session

namespace Repository

variable {s : Session}

/-- The fault of a session that holds an integer of too many digits. -/
def hugeInteger : Fault := .ofKind .refusedValue (Json.Fail.message "" .hugeInteger)

theorem fileText_of_isPortable (h : s.IsPortable) :
    (IsShort s.iterations ∧ ∃ text, fileText s = .ok text) ∨
      ¬IsShort s.iterations ∧ fileText s = .error hugeInteger := by
  have hmap := fileText_map s
  rw [h.prints_eq] at hmap
  by_cases hshort : IsShort s.iterations
  · rw [isSome_integer?_iff.mpr hshort] at hmap
    cases htext : fileText s with
    | ok text => exact .inl ⟨hshort, text, rfl⟩
    | error e =>
      rw [htext] at hmap
      cases hmap
  · rw [Bool.eq_false_iff.mpr fun hsome => hshort (isSome_integer?_iff.mp hsome)] at hmap
    cases htext : fileText s with
    | ok text =>
      rw [htext] at hmap
      cases hmap
    | error e =>
      rw [htext] at hmap
      exact .inr ⟨hshort, congrArg Except.error (Except.error.inj hmap)⟩

end Repository

end Runbook
