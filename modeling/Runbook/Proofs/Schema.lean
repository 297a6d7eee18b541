import Mathlib.Tactic
import Runbook.Schema

/-! Readings and their errors: a reading that finds no error has a result. -/

namespace Runbook

namespace Checked

variable {α β : Type}

def errors : Checked α → List FieldError
  | .ok _ => []
  | .bad es => es

@[simp] theorem errors_ok (a : α) : (Checked.ok a).errors = [] := rfl

@[simp] theorem errors_map (f : α → β) (c : Checked α) : (c.map f).errors = c.errors := by
  cases c <;> rfl

@[simp] theorem errors_ap (f : Checked (α → β)) (c : Checked α) :
    (f.ap c).errors = f.errors ++ c.errors := by
  cases f <;> cases c <;> simp [ap, errors]

@[simp] theorem errors_below (part : PathPart) (c : Checked α) :
    (c.below part).errors = c.errors.map (·.at_ part) := by
  cases c <;> rfl

theorem ap_eq_ok {f : Checked (α → β)} {c : Checked α} {b : β} (h : f.ap c = .ok b) :
    ∃ g a, f = .ok g ∧ c = .ok a ∧ g a = b := by
  cases f with
  | ok g =>
    cases c with
    | ok a => exact ⟨g, a, rfl, rfl, Checked.ok.inj h⟩
    | bad es => cases h
  | bad es => cases c <;> cases h

theorem map_eq_ok {f : α → β} {c : Checked α} {b : β} (h : c.map f = .ok b) : ∃ a, c = .ok a ∧ f a = b := by
  cases c with
  | ok a => exact ⟨a, rfl, Checked.ok.inj h⟩
  | bad es => cases h

theorem below_eq_ok {part : PathPart} {c : Checked α} {a : α} (h : c.below part = .ok a) : c = .ok a := by
  cases c with
  | ok b => exact h
  | bad es => cases h

theorem map_eq_ok_iff {f : α → β} {c : Checked α} {b : β} : c.map f = .ok b ↔ ∃ a, c = .ok a ∧ f a = b := by
  constructor
  · exact map_eq_ok
  · rintro ⟨a, rfl, rfl⟩
    rfl

theorem ap_eq_ok_iff {f : Checked (α → β)} {c : Checked α} {b : β} :
    f.ap c = .ok b ↔ ∃ g a, f = .ok g ∧ c = .ok a ∧ g a = b := by
  constructor
  · exact ap_eq_ok
  · rintro ⟨g, a, rfl, rfl, rfl⟩
    rfl

theorem below_eq_ok_iff {part : PathPart} {c : Checked α} {a : α} : c.below part = .ok a ↔ c = .ok a := by
  constructor
  · exact below_eq_ok
  · rintro rfl
    rfl

/-- The result, if there is one, has the property. -/
def Yields (P : α → Prop) (c : Checked α) : Prop := ∀ a, c = .ok a → P a

theorem Yields.map {P : β → Prop} {f : α → β} {c : Checked α} (h : ∀ a, c = .ok a → P (f a)) :
    (c.map f).Yields P := by
  intro b hb
  obtain ⟨a, ha, rfl⟩ := map_eq_ok hb
  exact h a ha

theorem Yields.ap {P : β → Prop} {f : Checked (α → β)} {c : Checked α}
    (h : ∀ a, c = .ok a → f.Yields fun g => P (g a)) : (f.ap c).Yields P := by
  intro b hb
  obtain ⟨g, a, hg, ha, rfl⟩ := ap_eq_ok hb
  exact h a ha g hg

/-- Without an error there is a result. -/
def Sure (c : Checked α) : Prop := c.errors = [] → ∃ a, c = .ok a

theorem sure_ok (a : α) : (Checked.ok a).Sure := fun _ => ⟨a, rfl⟩

theorem Sure.map {c : Checked α} (h : c.Sure) (f : α → β) : (c.map f).Sure := by
  intro hnone
  obtain ⟨a, rfl⟩ := h (by simpa using hnone)
  exact ⟨f a, rfl⟩

theorem Sure.ap {f : Checked (α → β)} {c : Checked α} (hf : f.Sure) (hc : c.Sure) :
    (f.ap c).Sure := by
  intro hnone
  rw [errors_ap, List.append_eq_nil_iff] at hnone
  obtain ⟨g, rfl⟩ := hf hnone.1
  obtain ⟨a, rfl⟩ := hc hnone.2
  exact ⟨g a, rfl⟩

theorem Sure.below {c : Checked α} (h : c.Sure) (part : PathPart) : (c.below part).Sure := by
  intro hnone
  obtain ⟨a, rfl⟩ := h (by simpa using hnone)
  exact ⟨a, rfl⟩

end Checked

namespace Schema

open Checked

variable {α : Type}

theorem sure_wrong (type message : String) : (wrong type message : Checked α).Sure :=
  fun h => nomatch h

theorem sure_missing (name : String) : (missing name : Checked α).Sure := fun h => nomatch h

/-! ## Scalars -/

theorem sure_text (v : Value) : (text v).Sure := by
  unfold text
  repeat' split
  all_goals first | exact sure_ok _ | exact sure_wrong _ _

theorem sure_bool (v : Value) : (bool v).Sure := by
  unfold bool boolOfInt boolUnclear
  repeat' split
  all_goals first | exact sure_ok _ | exact sure_wrong _ _

theorem sure_int (v : Value) : (int v).Sure := by
  unfold int intOfNumber intOfText
  repeat' split
  all_goals first | exact sure_ok _ | exact sure_wrong _ _

theorem sure_number (v : Value) : (number v).Sure := by
  unfold number
  repeat' split
  all_goals first | exact sure_ok _ | exact sure_wrong _ _

theorem sure_optional {read : Value → Checked α} (h : ∀ v, (read v).Sure) (v : Value) :
    (optional read v).Sure := by
  unfold optional
  split
  · exact sure_ok none
  · exact (h _).map some

/-! ## Lists and maps -/

theorem sure_items {read : Value → Checked α} (h : ∀ v, (read v).Sure) (place : ℕ) (vs : List Value) :
    (items read place vs).Sure := by
  induction vs generalizing place with
  | nil => exact sure_ok []
  | cons v vs ih => exact (((h v).below _).map _).ap (ih (place + 1))

theorem sure_tuple {read : Value → Checked α} (h : ∀ v, (read v).Sure) (v : Value) :
    (tuple read v).Sure := by
  unfold tuple
  split
  · exact sure_items h 0 _
  · exact sure_wrong _ _

theorem sure_entries (es : List (Value × Value)) : (entries es).Sure := by
  induction es with
  | nil => exact sure_ok []
  | cons e es ih => exact ((((sure_text e.1).below _).below _).map _).ap ih

theorem sure_bindings (v : Value) : (bindings v).Sure := by
  unfold bindings
  split
  · exact (sure_entries _).map _
  · exact sure_wrong _ _

/-- A map is read as bindings exactly if each of its keys is read as a text. -/
theorem errors_entries (es : List (Value × Value)) :
    (entries es).errors = [] ↔ ∀ e ∈ es, (text e.1).errors = [] := by
  induction es with
  | nil => simp [entries]
  | cons e es ih => simp [entries, ih]

/-! ## Fields -/

theorem sure_required {read : Value → Checked α} (h : ∀ v, (read v).Sure) (v : Value)
    (names : List String) : (required v names read).Sure := by
  unfold required
  split
  · exact (h _).below _
  · exact sure_missing _

theorem sure_withDefault {read : Value → Checked α} (h : ∀ v, (read v).Sure) (v : Value)
    (names : List String) (default : α) : (withDefault v names read default).Sure := by
  unfold withDefault
  split
  · exact (h _).below _
  · exact sure_ok _

theorem sure_maybe {read : Value → Checked α} (h : ∀ v, (read v).Sure) (v : Value)
    (names : List String) : (maybe v names read).Sure :=
  sure_withDefault (sure_optional h) v names none

/-- An error of a field is told below one of the names of the field. -/
theorem path_of_mem_withDefault {read : Value → Checked α} {v : Value} {names : List String}
    {default : α} {e : FieldError} (h : e ∈ (withDefault v names read default).errors) :
    ∃ name ∈ names, ∃ rest, e.path = .name name :: rest := by
  unfold withDefault at h
  cases hunder : under? v names with
  | none => simp [hunder] at h
  | some found =>
    obtain ⟨name, w⟩ := found
    obtain ⟨other, hmem, hother⟩ := List.exists_of_findSome?_eq_some hunder
    obtain ⟨x, -, hx⟩ := Option.map_eq_some_iff.mp hother
    obtain ⟨rfl, -⟩ := Prod.mk.inj hx
    simp only [hunder, errors_below, List.mem_map] at h
    obtain ⟨inner, -, rfl⟩ := h
    exact ⟨other, hmem, inner.path, rfl⟩

theorem under?_single (v : Value) (name : String) :
    under? v [name] = (v.get? name).map fun w => (name, w) := by
  unfold under?
  cases h : v.get? name <;> simp [h]

/-- The first name of a field counts where it is there. -/
theorem under?_of_get? {v w : Value} {name : String} (h : v.get? name = some w) (others : List String) :
    under? v (name :: others) = some (name, w) := by
  simp [under?, h]

theorem required_eq_ok {read : Value → Checked α} {v w : Value} {name : String} {others : List String} {a : α}
    (h : required v (name :: others) read = .ok a) (hget : v.get? name = some w) : read w = .ok a := by
  unfold required at h
  rw [under?_of_get? hget] at h
  exact below_eq_ok h

/-- Every item is read. -/
theorem items_eq_ok {read : Value → Checked α} {place : ℕ} {vs : List Value} {as : List α}
    (h : items read place vs = .ok as) : List.Forall₂ (fun v a => read v = .ok a) vs as := by
  induction vs generalizing place as with
  | nil =>
    obtain rfl := Checked.ok.inj h
    exact .nil
  | cons v vs ih =>
    obtain ⟨g, rest, hg, hrest, rfl⟩ := ap_eq_ok h
    obtain ⟨a, ha, rfl⟩ := map_eq_ok hg
    exact .cons (below_eq_ok ha) (ih hrest)

theorem length_of_tuple {read : Value → Checked α} {xs : List Value} {as : List α}
    (h : tuple read (.list xs) = .ok as) : as.length = xs.length :=
  (items_eq_ok h).length_eq.symm

theorem optional_eq_some {read : Value → Checked α} {v : Value} {a : α} (h : optional read v = .ok (some a)) :
    v ≠ .null ∧ read v = .ok a := by
  unfold optional at h
  split at h
  · cases h
  · rename_i hnull
    obtain ⟨b, hb, hab⟩ := map_eq_ok h
    obtain rfl := Option.some.inj hab
    exact ⟨hnull, hb⟩

/-- An error of an item is told below the place of the item. -/
theorem path_of_mem_items {read : Value → Checked α} {place : ℕ} {vs : List Value} {e : FieldError}
    (h : e ∈ (items read place vs).errors) : ∃ i rest, e.path = .index (Int.ofNat i) :: rest := by
  induction vs generalizing place with
  | nil => cases h
  | cons v vs ih =>
    rw [items, errors_ap, errors_map, errors_below, List.mem_append, List.mem_map] at h
    rcases h with ⟨inner, -, rfl⟩ | h
    · exact ⟨place, inner.path, rfl⟩
    · exact ih h

end Schema

end Runbook
