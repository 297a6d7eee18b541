import Mathlib.Data.List.Nodup
import Runbook.Value.Basic

/-! Named values: binding a new name appends it, binding a known one keeps its place. -/

namespace Runbook.Bindings

def names (b : Bindings) : List String := b.map (·.1)

theorem get?_cons (k name : String) (v : Value) (b : Bindings) :
    get? ((k, v) :: b) name = if k = name then some v else b.get? name := by
  unfold get?
  rw [List.find?_cons]
  cases h : k == name with
  | true => rw [if_pos (beq_iff_eq.mp h), Option.map_some]
  | false => rw [if_neg (by simpa using h)]

theorem get?_eq_none_iff {b : Bindings} {name : String} : b.get? name = none ↔ name ∉ b.names := by
  simp only [get?, Option.map_eq_none_iff, List.find?_eq_none, beq_iff_eq, names, List.mem_map, not_exists, not_and]

theorem mem_of_get? {b : Bindings} {name : String} {v : Value} (h : b.get? name = some v) : ∃ e ∈ b, e.2 = v := by
  obtain ⟨e, hfind, rfl⟩ := Option.map_eq_some_iff.mp h
  exact ⟨e, List.mem_of_find?_eq_some hfind, rfl⟩

theorem set_of_notMem {b : Bindings} {name : String} (h : name ∉ b.names) (v : Value) :
    b.set name v = b ++ [(name, v)] := by
  induction b with
  | nil => rfl
  | cons e rest ih =>
    obtain ⟨hne, hrest⟩ := List.ne_and_not_mem_of_not_mem_cons h
    rw [set, if_neg (Ne.symm hne), ih hrest]
    rfl

theorem update_cons (b : Bindings) (name : String) (v : Value) (more : Bindings) :
    b.update ((name, v) :: more) = (b.set name v).update more := rfl

theorem update_of_nodup (b more : Bindings) (h : (b.names ++ more.names).Nodup) :
    b.update more = b ++ more := by
  induction more generalizing b with
  | nil => exact (List.append_nil b).symm
  | cons e more ih =>
    obtain ⟨k, v⟩ := e
    have hnew : k ∉ b.names := fun hmem =>
      List.disjoint_of_nodup_append h hmem List.mem_cons_self
    rw [update_cons, set_of_notMem hnew, ih, List.append_assoc]
    · rfl
    · simpa [names] using h

theorem names_set (b : Bindings) (name : String) (v : Value) :
    (b.set name v).names = if name ∈ b.names then b.names else b.names ++ [name] := by
  induction b with
  | nil => simp [set, names]
  | cons e rest ih =>
    obtain ⟨k, w⟩ := e
    unfold set
    by_cases hk : k = name
    · simp [hk, names]
    · have hset : names ((k, w) :: set rest name v) = k :: names (set rest name v) := rfl
      have hrest : names ((k, w) :: rest) = k :: names rest := rfl
      rw [if_neg hk, hset, ih, hrest]
      simp only [List.mem_cons, Ne.symm hk, false_or]
      split_ifs <;> rfl

theorem nodup_names_set {b : Bindings} (h : b.names.Nodup) (name : String) (v : Value) :
    (b.set name v).names.Nodup := by
  rw [names_set]
  split_ifs with hmem
  · exact h
  · rw [← List.concat_eq_append]
    exact h.concat hmem

theorem get?_set (b : Bindings) (name : String) (v : Value) : (b.set name v).get? name = some v := by
  induction b with
  | nil => simp [set, get?]
  | cons e rest ih =>
    obtain ⟨k, w⟩ := e
    unfold get? at ih ⊢
    unfold set
    split_ifs with hk
    · simp [hk]
    · rw [List.find?_cons_of_neg (by simpa using hk)]
      exact ih

/-- However names are bound, they stay different. -/
theorem nodup_names_update {b : Bindings} (h : b.names.Nodup) (more : Bindings) :
    (b.update more).names.Nodup := by
  induction more generalizing b with
  | nil => exact h
  | cons e more ih =>
    rw [update_cons]
    exact ih (nodup_names_set h e.1 e.2)

theorem mem_names_update {b more : Bindings} {name : String} (h : name ∈ (b.update more).names) :
    name ∈ b.names ∨ name ∈ more.names := by
  induction more generalizing b with
  | nil => exact .inl h
  | cons e more ih =>
    rw [update_cons] at h
    rcases ih h with hset | hmore
    · rw [names_set] at hset
      split_ifs at hset
      · exact .inl hset
      · rcases List.mem_append.mp hset with hb | he
        · exact .inl hb
        · exact .inr (List.mem_cons.mpr (.inl (List.mem_singleton.mp he)))
    · exact .inr (List.mem_cons_of_mem _ hmore)

/-- Bindings of distinct names are what they come to when they are bound in turn. -/
theorem update_nil_of_nodup {b : Bindings} (h : b.names.Nodup) : update [] b = b :=
  update_of_nodup [] b h

end Runbook.Bindings

namespace Runbook.Value

theorem lookup?_obj (b : Bindings) (name : String) :
    lookup? name (b.map fun e => (.text e.1, e.2)) = b.get? name := by
  unfold lookup? Bindings.get?
  rw [List.find?_map, Option.map_map]
  rfl

theorem lookup?_cons (e : Value × Value) (es : List (Value × Value)) (name : String) :
    lookup? name (e :: es) = if keyIs name e then some e.2 else lookup? name es := by
  unfold lookup?
  rw [List.find?_cons]
  cases keyIs name e <;> rfl

end Runbook.Value
