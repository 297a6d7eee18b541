import Runbook.Fault.Failure

/-! Operations that move a world and end with a result or a fault. -/

namespace Runbook

abbrev Act (σ α : Type) := ExceptT Fault (StateM σ) α

namespace Act

variable {σ α : Type}

/-- Rewords the fault with which an operation ends. -/
def reword (act : Act σ α) (f : Fault → Fault) : Act σ α := fun s =>
  match act s with
  | (.error e, t) => (.error (f e), t)
  | (.ok a, t) => (.ok a, t)

/-- Changes the world after an operation, however that ends. -/
def finally_ (act : Act σ α) (f : σ → σ) : Act σ α := fun s =>
  let (r, t) := act s
  (r, f t)

/-- The result or the fault of an operation; this never ends with a fault itself. -/
def observe (act : Act σ α) : Act σ (Except Fault α) := fun s =>
  let (r, t) := act s
  (.ok r, t)

def ofExcept : Except Fault α → Act σ α
  | .ok a => pure a
  | .error e => throw e

/-- What a world shows. -/
def view (f : σ → α) : Act σ α := fun s => (.ok (f s), s)

def change (f : σ → σ) : Act σ Unit := fun s => (.ok (), f s)

/-- An operation on a part of a world. -/
def within {ρ : Type} (part : σ → ρ) (replace : ρ → σ → σ) (act : Act ρ α) : Act σ α := fun s =>
  let (r, t) := act (part s)
  (r, replace t s)

/-! ## What operations do to a world -/

theorem bind_apply {β : Type} (act : Act σ α) (f : α → Act σ β) (x : σ) :
    (act >>= f) x =
      match (act x).1 with
      | .ok a => f a (act x).2
      | .error e => (.error e, (act x).2) := by
  change ExceptT.bindCont f (act x).1 (act x).2 = _
  cases (act x).1 <;> rfl

theorem bind_ok {β : Type} {act : Act σ α} {x y : σ} {a : α} (h : act x = (.ok a, y))
    (f : α → Act σ β) : (act >>= f) x = f a y := by
  rw [bind_apply, h]

theorem bind_error {β : Type} {act : Act σ α} {x y : σ} {e : Fault} (h : act x = (.error e, y))
    (f : α → Act σ β) : (act >>= f) x = (.error e, y) := by
  rw [bind_apply, h]

@[simp] theorem pure_apply (a : α) (x : σ) : (pure a : Act σ α) x = (.ok a, x) := rfl

@[simp] theorem throw_apply (e : Fault) (x : σ) : (throw e : Act σ α) x = (.error e, x) := rfl

@[simp] theorem ofExcept_apply (r : Except Fault α) (x : σ) : ofExcept r x = (r, x) := by
  cases r <;> rfl

@[simp] theorem view_apply (f : σ → α) (x : σ) : view f x = (.ok (f x), x) := rfl

@[simp] theorem change_apply (f : σ → σ) (x : σ) : change f x = (.ok (), f x) := rfl

@[simp] theorem observe_apply (act : Act σ α) (x : σ) : act.observe x = (.ok (act x).1, (act x).2) := rfl

theorem reword_apply (act : Act σ α) (f : Fault → Fault) (x : σ) :
    act.reword f x = ((act x).1.mapError f, (act x).2) := by
  unfold reword
  obtain ⟨r, y⟩ := act x
  cases r <;> rfl

@[simp] theorem within_apply {ρ : Type} (part : σ → ρ) (replace : ρ → σ → σ) (act : Act ρ α) (x : σ) :
    act.within part replace x = ((act (part x)).1, replace (act (part x)).2 x) := rfl

@[simp] theorem finally_apply (act : Act σ α) (f : σ → σ) (x : σ) :
    act.finally_ f x = ((act x).1, f (act x).2) := rfl

end Act

end Runbook
