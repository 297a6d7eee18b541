import Runbook.Proofs.Session.Document

/-! What was saved and read back is the same after it is saved and read back again: it has values of JSON only. -/

namespace Runbook

open Json

theorem Except.exists_of_map_eq_ok {ε α β : Type} {r : Except ε α} {f : α → β} {b : β} (h : r.map f = .ok b) :
    ∃ a, r = .ok a ∧ f a = b := by
  cases r with
  | error e => cases h
  | ok a => exact ⟨a, rfl, Except.ok.inj h⟩

namespace Bindings

variable {P : Value → Prop} {b : Bindings}

theorem forall_set (hb : ∀ e ∈ b, P e.2) (name : String) {v : Value} (hv : P v) : ∀ e ∈ b.set name v, P e.2 := by
  induction b with
  | nil => simpa [set] using hv
  | cons e b ih =>
    obtain ⟨hhead, hrest⟩ := List.forall_mem_cons.mp hb
    unfold set
    split_ifs
    · exact List.forall_mem_cons.mpr ⟨hv, hrest⟩
    · exact List.forall_mem_cons.mpr ⟨hhead, ih hrest⟩

theorem forall_update {more : Bindings} (hb : ∀ e ∈ b, P e.2) (hmore : ∀ e ∈ more, P e.2) :
    ∀ e ∈ b.update more, P e.2 := by
  induction more generalizing b with
  | nil => exact hb
  | cons e more ih =>
    obtain ⟨hhead, hrest⟩ := List.forall_mem_cons.mp hmore
    rw [update_cons]
    exact ih (forall_set hb e.1 hhead) hrest

end Bindings

namespace Value

mutual

theorem isJson_reread : (v : Value) → ∀ w, v.plain = .ok w → (reread w).IsJson
  | .null, w, h => by
    rw [plain] at h
    obtain rfl := Except.ok.inj h
    exact .null
  | .bool b, w, h => by
    rw [plain] at h
    obtain rfl := Except.ok.inj h
    exact .bool b
  | .int n, w, h => by
    rw [plain] at h
    obtain rfl := Except.ok.inj h
    exact .int n
  | .num x, w, h => by
    rw [plain] at h
    obtain rfl := Except.ok.inj h
    split_ifs with hx
    · exact .num hx
    · exact .null
  | .text s, w, h => by
    rw [plain] at h
    obtain rfl := Except.ok.inj h
    exact .text s
  | .bytes bs, w, h => by
    rw [plain] at h
    obtain ⟨s, -, rfl⟩ := Except.exists_of_map_eq_ok h
    exact .text s
  | .date d, w, h => by
    rw [plain] at h
    obtain rfl := Except.ok.inj h
    exact .text _
  | .moment m, w, h => by
    rw [plain] at h
    obtain rfl := Except.ok.inj h
    exact .text _
  | .list xs, w, h => by
    rw [plain] at h
    obtain ⟨ws, hws, rfl⟩ := Except.exists_of_map_eq_ok h
    exact .list (isJson_rereadEach xs ws hws)
  | .tuple xs, w, h => by
    rw [plain] at h
    obtain ⟨ws, hws, rfl⟩ := Except.exists_of_map_eq_ok h
    exact .list (isJson_rereadEach xs ws hws)
  | .set xs, w, h => by
    rw [plain] at h
    obtain ⟨ws, hws, rfl⟩ := Except.exists_of_map_eq_ok h
    exact .list (isJson_rereadEach xs ws hws)
  | .map es, w, h => by
    rw [plain] at h
    obtain ⟨ws, hws, rfl⟩ := Except.exists_of_map_eq_ok h
    obtain ⟨c, rfl, hc⟩ := isJson_rereadEntries es ws hws
    change (reread (.obj c)).IsJson
    rw [reread_obj]
    refine .obj (@Bindings.nodup_names_update [] List.nodup_nil _) ?_
    refine Bindings.forall_update (List.forall_mem_nil _) fun e he => ?_
    obtain ⟨member, hmember, rfl⟩ := List.mem_map.mp he
    exact hc member hmember

theorem isJson_rereadEach : (vs : List Value) → ∀ ws, plainList vs = .ok ws → ∀ x ∈ rereadEach ws, x.IsJson
  | [], ws, h => by
    rw [plainList] at h
    obtain rfl := Except.ok.inj h
    exact List.forall_mem_nil _
  | v :: vs, ws, h => by
    rw [plainList] at h
    split at h
    · cases h
    · rename_i w hw
      obtain ⟨us, hus, rfl⟩ := Except.exists_of_map_eq_ok h
      exact List.forall_mem_cons.mpr ⟨isJson_reread v w hw, isJson_rereadEach vs us hus⟩

theorem isJson_rereadEntries : (es : List (Value × Value)) → ∀ ws, plainEntries es = .ok ws →
    ∃ c : Bindings, ws = c.map (fun e => (.text e.1, e.2)) ∧ ∀ e ∈ c, (reread e.2).IsJson
  | [], ws, h => by
    rw [plainEntries] at h
    obtain rfl := Except.ok.inj h
    exact ⟨[], rfl, List.forall_mem_nil _⟩
  | (k, v) :: es, ws, h => by
    rw [plainEntries] at h
    split at h
    · cases h
    · cases h
    · rename_i name w _ hw
      obtain ⟨us, hus, rfl⟩ := Except.exists_of_map_eq_ok h
      obtain ⟨c, rfl, hc⟩ := isJson_rereadEntries es us hus
      exact ⟨(name, w) :: c, rfl, List.forall_mem_cons.mpr ⟨isJson_reread v w hw, hc⟩⟩

end

/-- A second time nothing changes. -/
theorem stored_stored (v : Value) : v.stored.stored = v.stored := by
  cases h : v.plain with
  | error e =>
    have hself : v.stored = v := by rw [stored, h]
    rw [hself, hself]
  | ok w =>
    rw [stored_of_plain h]
    exact (isJson_reread v w h).stored_eq

end Value

theorem StepRecord.stored_stored (r : StepRecord) : r.stored.stored = r.stored := by
  rw [StepRecord.stored, StepRecord.stored, Value.stored_stored]

/-- A history that was saved and read back stays as it is when it is saved again. -/
theorem Session.history_stored_stored (s : Session) : s.stored.stored.history = s.stored.history := by
  change (s.history.map StepRecord.stored).map StepRecord.stored = _
  rw [List.map_map]
  exact List.map_congr_left fun r _ => r.stored_stored

end Runbook
