import Mathlib.Tactic

/-! Results that are taken one after the other. What is done for each member of a list in turn: the results stand in
the order of the members, and there are results if there is one of each member. Members that are picked out of a sorted
list are in the order in which they are sorted alone. -/

namespace Runbook

variable {ε α β : Type}

/-- Of two readings in a row the second is that of what the first one gives. -/
theorem bind_eq_ok_iff {r : Except ε α} {f : α → Except ε β} {b : β} :
    r >>= f = .ok b ↔ ∃ a, r = .ok a ∧ f a = .ok b := by
  cases r with
  | error e => simp [bind, Except.bind]
  | ok a => simp [bind, Except.bind]

theorem mapError_eq_ok_iff {δ : Type} {r : Except ε α} {f : ε → δ} {a : α} :
    r.mapError f = .ok a ↔ r = .ok a := by
  cases r <;> simp [Except.mapError]

theorem mapM_eq_ok_iff {g : α → Except ε β} {as : List α} {bs : List β} :
    as.mapM g = .ok bs ↔ List.Forall₂ (fun a b => g a = .ok b) as bs := by
  induction as generalizing bs with
  | nil => cases bs <;> simp [pure, Except.pure]
  | cons a as ih =>
    rw [List.mapM_cons, List.forall₂_cons_left_iff]
    simp only [bind_eq_ok_iff, ih]
    constructor
    · rintro ⟨b, hb, rest, hrest, h⟩
      exact ⟨b, rest, hb, hrest, (Except.ok.inj h).symm⟩
    · rintro ⟨b, rest, hb, hrest, rfl⟩
      exact ⟨b, hb, rest, hrest, rfl⟩

theorem exists_mapM_iff {g : α → Except ε β} {as : List α} :
    (∃ bs, as.mapM g = .ok bs) ↔ ∀ a ∈ as, ∃ b, g a = .ok b := by
  simp only [mapM_eq_ok_iff]
  induction as with
  | nil => simp
  | cons a as ih =>
    rw [List.forall_mem_cons, ← ih]
    simp only [List.forall₂_cons_left_iff]
    exact ⟨fun ⟨_, b, bs, hb, hbs, _⟩ => ⟨⟨b, hb⟩, bs, hbs⟩, fun ⟨⟨b, hb⟩, bs, hbs⟩ => ⟨_, b, bs, hb, hbs, rfl⟩⟩

theorem forall₂_split {R : α → β → Prop} {before after : List α} {a : α} {bs : List β}
    (h : List.Forall₂ R (before ++ a :: after) bs) :
    ∃ front b back, bs = front ++ b :: back ∧ List.Forall₂ R before front ∧ R a b := by
  induction before generalizing bs with
  | nil =>
    obtain ⟨b, back, hab, -, rfl⟩ := List.forall₂_cons_left_iff.mp h
    exact ⟨[], b, back, rfl, .nil, hab⟩
  | cons c before ih =>
    obtain ⟨d, rest, hcd, hrest, rfl⟩ := List.forall₂_cons_left_iff.mp h
    obtain ⟨front, b, back, rfl, hfront, hab⟩ := ih hrest
    exact ⟨d :: front, b, back, rfl, .cons hcd hfront, hab⟩

theorem exists_of_forall₂ {R : α → β → Prop} {as : List α} {bs : List β} (h : List.Forall₂ R as bs) {b : β}
    (hb : b ∈ bs) : ∃ a ∈ as, R a b := by
  obtain ⟨front, back, rfl⟩ := List.append_of_mem hb
  obtain ⟨before, a, after, rfl, -, hab⟩ := forall₂_split h.flip
  exact ⟨a, List.mem_append_right before List.mem_cons_self, hab⟩

theorem mapM_eq_map {g : α → Except ε β} {h : α → β} {as : List α} (heq : ∀ a ∈ as, g a = .ok (h a)) :
    as.mapM g = .ok (as.map h) :=
  mapM_eq_ok_iff.mpr (List.forall₂_map_right_iff.mpr (List.forall₂_same.mpr heq))

/-! ## Sorting -/

/-- There is one way to split a list into members that are picked and members that are not. -/
theorem eq_of_append_eq {p : α → Bool} {xs xs' ys ys' : List α} (h : xs ++ ys = xs' ++ ys')
    (hxs : ∀ a ∈ xs, p a = true) (hxs' : ∀ a ∈ xs', p a = true) (hys : ∀ a ∈ ys, p a = false)
    (hys' : ∀ a ∈ ys', p a = false) : xs = xs' ∧ ys = ys' := by
  have hpicked {as bs : List α} (has : ∀ a ∈ as, p a = true) (hbs : ∀ a ∈ bs, p a = false) :
      (as ++ bs).filter p = as := by
    rw [List.filter_append, List.filter_eq_self.mpr has, List.filter_eq_nil_iff.mpr fun a ha => by simp [hbs a ha],
      List.append_nil]
  have heq : xs = xs' := by rw [← hpicked hxs hys, h, hpicked hxs' hys']
  subst heq
  exact ⟨rfl, List.append_cancel_left h⟩

/-- Sorting is stable: those that are picked out are in the same order before and after. -/
theorem filter_mergeSort {le : α → α → Bool} (htrans : ∀ a b c, le a b = true → le b c = true → le a c = true)
    (htotal : ∀ a b, (le a b || le b a) = true) (q : α → Bool) (as : List α) :
    (as.mergeSort le).filter q = (as.filter q).mergeSort le := by
  induction as with
  | nil => simp
  | cons a as ih =>
    -- The head is behind those of the rest that it is not below, and before the others.
    obtain ⟨xs, ys, hsorted, hrest, hxs⟩ := List.mergeSort_cons htrans htotal a as
    rw [hrest, List.filter_append] at ih
    rw [hsorted, List.filter_append]
    by_cases ha : q a = true
    · have hbehind {cs xs ys : List α} (h : (a :: cs).mergeSort le = xs ++ a :: ys) : ∀ b ∈ ys, (!le a b) = false := by
        have hpairs := List.pairwise_mergeSort htrans htotal (a :: cs)
        rw [h] at hpairs
        intro b hb
        rw [List.rel_of_pairwise_cons (List.pairwise_append.mp hpairs).2.1 hb, Bool.not_true]
      obtain ⟨xs', ys', hsorted', hrest', hxs'⟩ := List.mergeSort_cons htrans htotal a (as.filter q)
      obtain ⟨hfront, hback⟩ := eq_of_append_eq (ih.trans hrest') (fun b hb => hxs b (List.mem_of_mem_filter hb)) hxs'
        (fun b hb => hbehind hsorted b (List.mem_of_mem_filter hb)) (hbehind hsorted')
      rw [List.filter_cons_of_pos ha, List.filter_cons_of_pos ha, hsorted', hfront, hback]
    · rw [List.filter_cons_of_neg ha, List.filter_cons_of_neg ha, ih]

end Runbook
