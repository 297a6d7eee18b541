import Mathlib.Data.List.Basic
import Runbook.Execution.Perform
import Runbook.Workflow.Fill

/-! What a step reads of the variables: the placeholders in its texts, and the names that its conditions look up. A
step for which these come to the same does the same. -/

namespace Runbook

variable {b c : Bindings}

/-! ## Texts -/

/-- A template is filled alike if what is shown for each of its placeholders is the same. -/
theorem Template.fill_congr {template : String}
    (h : ∀ n ∈ placeholders template, (c.get? n).map valueText = (b.get? n).map valueText) :
    fill template c = fill template b := by
  have hrender : ∀ g ∈ segments template, g.render c = g.render b := by
    intro g hg
    cases g with
    | char x => rfl
    | hole name =>
      have hshown := h (String.ofList name) (List.mem_filterMap.mpr ⟨_, hg, rfl⟩)
      simp only [Segment.render]
      cases hb : b.get? (String.ofList name) with
      | none =>
        rw [hb, Option.map_none, Option.map_eq_none_iff] at hshown
        rw [hshown]
      | some v =>
        rw [hb, Option.map_some, Option.map_eq_some_iff] at hshown
        obtain ⟨w, hc, hw⟩ := hshown
        rw [hc]
        exact congrArg String.toList hw
  unfold fill
  rw [List.flatMap_congr hrender]

namespace Task

theorem fillOption_congr {o : Option String} (h : ∀ t ∈ o, Template.fill t c = Template.fill t b) :
    fillOption c o = fillOption b o := by
  cases o with
  | none => rfl
  | some t => exact congrArg some (h t rfl)

/-- A task is filled alike if its texts are. -/
theorem fill_congr {task : Task} (h : ∀ t ∈ task.templates, Template.fill t c = Template.fill t b) :
    task.fill c = task.fill b := by
  have hoption (o : Option String) (ho : o.toList ⊆ task.templates) : fillOption c o = fillOption b o :=
    fillOption_congr fun t ht => h t (ho (Option.mem_toList.mpr ht))
  cases task with
  | switchModel model => exact congrArg Task.switchModel (hoption model (List.Subset.refl _))
  | conditional check onTrue onFalse => rfl
  | loop target condition maxIterations => rfl
  | interactive q => simp only [fill, h q.prompt List.mem_cons_self]
  | shell command timeout => simp only [fill, h command List.mem_cons_self]
  | git action message base =>
    simp only [fill, hoption message (List.subset_append_left _ _), hoption base (List.subset_append_right _ _)]
  | aiPrompt prompt model =>
    simp only [fill, h prompt List.mem_cons_self, hoption model (List.subset_append_right _ _)]
  | pullRequest p =>
    have hpart (o : Option String) (ho : o ∈ [p.title, p.body, p.base, p.head, p.repo]) :
        fillOption c o = fillOption b o := by
      refine hoption o fun t ht => ?_
      simp only [List.mem_cons, List.not_mem_nil, or_false] at ho
      simp only [templates, List.mem_append]
      rcases ho with rfl | rfl | rfl | rfl | rfl <;> simp [ht]
    simp only [fill, hpart p.title (by simp), hpart p.body (by simp), hpart p.base (by simp),
      hpart p.head (by simp), hpart p.repo (by simp)]
  | fileExists file => simp only [fill, h file List.mem_cons_self]

/-- The conditions that a task evaluates. -/
def conditions : Task → List String
  | .conditional check _ _ => [check]
  | .loop _ condition _ => [condition]
  | _ => []

@[simp] theorem conditions_fill (b : Bindings) (task : Task) : (task.fill b).conditions = task.conditions := by
  cases task <;> rfl

end Task

/-! ## Conditions -/

/-- The names whose values a condition looks up. -/
def Condition.names : Condition → List String
  | .constant _ => []
  | .approved => ["approved"]
  | .fileExists => ["fileExists", "exists"]
  | .bar _ name _ => [name]
  | .compare _ left right => [left, right]
  | .bare name => [name]

namespace Execution

variable {σ : Type} {s t : Session} {step : Step}

/-- A step does the same for two sessions if its conditions come to the same. -/
theorem perform_congr (services : Services σ) (hiterations : t.iterations = s.iterations)
    (hcheck : ∀ c ∈ step.task.conditions,
      Condition.evaluate c (checkBindings t) = Condition.evaluate c (checkBindings s))
    (hloop : ∀ c ∈ step.task.conditions,
      Condition.evaluate c (loopBindings t) = Condition.evaluate c (loopBindings s)) :
    perform services t step = perform services s step := by
  unfold perform
  cases htask : step.task with
  | conditional check onTrue onFalse =>
    dsimp only
    unfold conditional
    rw [hcheck check (by rw [htask]; exact List.mem_cons_self)]
  | loop target condition maxIterations =>
    dsimp only
    unfold loop
    rw [hloop condition (by rw [htask]; exact List.mem_cons_self), hiterations]
  | _ => rfl

end Execution

end Runbook
