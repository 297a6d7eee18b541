import Runbook.Proofs.Decimal.Rounding
import Runbook.Proofs.Workflow.Build

/-! What the checks of a document guarantee of the workflow that is built from it. The checks look at each
field under its name in the document; a field that is given under its name with low lines alone is read all
the same, and nothing is known of it. -/

namespace Runbook

open Checked Schema

/-- The field is not given under its other name alone. -/
def Value.IsUnder (v : Value) (name other : String) : Prop := v.get? other ≠ none → v.get? name ≠ none

namespace Schema

variable {α : Type} {v : Value} {name other : String}

/-- A field that is not under its other name alone is read under its first name, or has its default. -/
theorem withDefault_eq_ok {read : Value → Checked α} {default a : α} (hunder : v.IsUnder name other)
    (h : withDefault v [name, other] read default = .ok a) :
    (∃ w, v.get? name = some w ∧ read w = .ok a) ∨ v.get? name = none ∧ a = default := by
  unfold withDefault at h
  cases hget : v.get? name with
  | some w =>
    rw [under?_of_get? hget] at h
    exact .inl ⟨w, rfl, below_eq_ok h⟩
  | none =>
    have hother : v.get? other = none := by
      by_contra hother
      exact hunder hother hget
    have hnone : under? v [name, other] = none := by simp [under?, hget, hother]
    rw [hnone] at h
    exact .inr ⟨rfl, (Checked.ok.inj h).symm⟩

theorem maybe_eq_ok {read : Value → Checked α} {o : Option α} (hunder : v.IsUnder name other)
    (h : maybe v [name, other] read = .ok o) : optional read (v.field name) = .ok o := by
  unfold Value.field
  rcases withDefault_eq_ok hunder h with ⟨w, hget, hread⟩ | ⟨hget, rfl⟩
  · rw [hget]
    exact hread
  · rw [hget]
    rfl

end Schema

/-! ## What the checks say of fields -/

namespace Report

variable {v : Value} {id : String} {ids : List String}

@[simp] theorem expect_eq_nil {ok : Bool} {message hint label : String} :
    expect ok message hint label = [] ↔ ok = true := by
  cases ok <;> simp [expect]

theorem isGivenText_iff : isGivenText v = true ↔ ∃ s, v = .text s ∧ s ≠ "" := by
  cases v <;> simp [isGivenText]

/-- A step refers to steps that exist. -/
theorem mem_of_danglingOf (h : danglingOf ids v = []) {name : String} (hname : name ∈ referenceFields)
    {target : String} (htarget : v.field name = .text target) (hne : target ≠ "") : target ∈ ids := by
  have hnone := List.flatMap_eq_nil_iff.mp h name hname
  rw [htarget] at hnone
  dsimp only at hnone
  split_ifs at hnone with hmem
  rw [Bool.or_eq_true, String.isEmpty_iff, List.contains_iff_mem] at hmem
  exact hmem.resolve_left hne

/-- A step that passes is checked by the checks of its action. -/
theorem checkFields_of_checkAction (h : checkAction v id = .ok ([], some v)) :
    ∃ action, v.field "action" = .text action ∧ checkFields? action v id = some (.ok []) := by
  unfold checkAction at h
  split at h
  · rename_i action haction
    split_ifs at h
    · cases h
    · split at h
      · rename_i check hcheck
        cases check with
        | error e => cases h
        | ok problems =>
          obtain rfl : problems = [] := congrArg Prod.fst (Except.ok.inj h)
          exact ⟨action, haction, hcheck⟩
      · cases h
  · cases h

end Report

/-! ## What the checks guarantee of tasks -/

/-- What the checks of a question guarantee. -/
structure Question.IsChecked (v : Value) (q : Question) : Prop where
  choices : v.IsUnder "inputType" "input_type" → q.inputType = .choice → q.choices ≠ []
  pattern : v.IsUnder "validationPattern" "validation_pattern" →
    (∀ bs, v.field "validationPattern" ≠ .bytes bs) →
    ∀ p, q.validationPattern = some p → ∃ r, Pattern.parse p = .ok r
  timeout : v.IsUnder "timeoutMs" "timeout_ms" → ∀ t, q.timeoutMs = some t → t.less (.zero false) = false

/-- What the checks guarantee of the task of a step with an id, in a workflow with the given ids. -/
def Task.IsChecked (ids : List String) (id : String) (v : Value) : Task → Prop
  | .conditional _ onTrue onFalse =>
    onTrue ∈ ids ∧ (v.IsUnder "onFalse" "on_false" → ∀ target, onFalse = some target → target ∈ ids)
  | .loop target _ maxIterations =>
    target ∈ ids ∧ target ≠ id ∧
      (v.IsUnder "maxIterations" "max_iterations" → ∀ n, maxIterations = some n → 1 ≤ n)
  | .interactive q => q.IsChecked v
  | _ => True

namespace Report

variable {v : Value} {id : String} {ids : List String}

/-- A text that is given is what the field is read as. -/
theorem required_text {name t : String} {others : List String} (hgiven : isGivenText (v.field name) = true)
    (h : required v (name :: others) text = .ok t) : v.field name = .text t ∧ t ≠ "" := by
  obtain ⟨s, hs, hne⟩ := isGivenText_iff.mp hgiven
  have hread : text (.text s) = .ok t := required_eq_ok h (Workflow.field_eq_get? hs (by simp))
  obtain rfl := Checked.ok.inj hread
  exact ⟨hs, hne⟩

theorem checked_conditional {check onTrue : String} {onFalse : Option String}
    (hcheck : checkConditional v id = []) (hdangling : danglingOf ids v = [])
    (htrue : required v ["onTrue", "on_true"] text = .ok onTrue)
    (hfalse : maybe v ["onFalse", "on_false"] text = .ok onFalse) :
    (Task.conditional check onTrue onFalse).IsChecked ids id v := by
  simp only [checkConditional, List.append_eq_nil_iff, expect_eq_nil, Bool.or_eq_true] at hcheck
  obtain ⟨⟨-, hgiven⟩, hother⟩ := hcheck
  obtain ⟨hfield, hne⟩ := required_text hgiven htrue
  refine ⟨mem_of_danglingOf hdangling (by decide) hfield hne, ?_⟩
  rintro hunder target rfl
  obtain ⟨hnull, hread⟩ := optional_eq_some (maybe_eq_ok hunder hfalse)
  rcases hother with hother | hother
  · cases hv : v.field "onFalse" <;> simp_all [Value.isNull]
  · obtain ⟨s, hs, hne'⟩ := isGivenText_iff.mp hother
    rw [hs] at hread
    obtain rfl := Checked.ok.inj hread
    exact mem_of_danglingOf hdangling (by decide) hs hne'

theorem checked_loop {target condition : String} {maxIterations : Option ℤ}
    (hcheck : checkLoop v id = []) (hdangling : danglingOf ids v = [])
    (hto : required v ["to"] text = .ok target)
    (hmax : maybe v ["maxIterations", "max_iterations"] int = .ok maxIterations) :
    (Task.loop target condition maxIterations).IsChecked ids id v := by
  simp only [checkLoop, List.append_eq_nil_iff, expect_eq_nil] at hcheck
  obtain ⟨⟨hfirst, -⟩, hwhole⟩ := hcheck
  split_ifs at hfirst with hgiven
  · rw [expect_eq_nil] at hfirst
    obtain ⟨hfield, hne⟩ := required_text hgiven hto
    refine ⟨mem_of_danglingOf hdangling (by decide) hfield hne, ?_, ?_⟩
    · rintro rfl
      simp [hfield, Value.asText?] at hfirst
    · rintro hunder n rfl
      obtain ⟨hnull, hread⟩ := optional_eq_some (maybe_eq_ok hunder hmax)
      cases hv : v.field "maxIterations" with
      | null => exact absurd hv hnull
      | int k =>
        rw [hv] at hread hwhole
        obtain rfl := Checked.ok.inj hread
        simpa [isWholeFromOne] using hwhole
      | _ => rw [hv] at hwhole; cases hwhole
  · cases hfirst

theorem asText?_of_ofValue {w : Value} {t : InputType} (h : InputType.ofValue w = .ok t) :
    w.asText? = some t.name := by
  unfold InputType.ofValue at h
  split at h
  · rename_i u hu
    obtain rfl := Checked.ok.inj h
    obtain ⟨name, hname, hfound⟩ := Option.bind_eq_some_iff.mp hu
    have heq := List.find?_some hfound
    rw [hname, eq_of_beq heq]
  · cases h

theorem choices_of_checkChoices {choices : List String} (hcheck : checkChoices v id = [])
    (hunder : v.IsUnder "inputType" "input_type")
    (htype : withDefault v ["inputType", "input_type"] InputType.ofValue .text = .ok .choice)
    (hchoices : withDefault v ["choices"] (tuple text) [] = .ok choices) : choices ≠ [] := by
  have hasked : (v.field "inputType").asText? = some "choice" := by
    rcases withDefault_eq_ok hunder htype with ⟨w, hget, hread⟩ | ⟨-, hdefault⟩
    · rw [Value.field, hget]
      exact asText?_of_ofValue hread
    · cases hdefault
  unfold checkChoices at hcheck
  dsimp only at hcheck
  split_ifs at hcheck with hlist
  · cases hcheck
  · rw [expect_eq_nil, hasked] at hcheck
    have hholds : (v.field "choices").holds = true := by simpa using hcheck
    cases hv : v.field "choices" with
    | null =>
      rw [hv] at hholds
      cases hholds
    | list xs =>
      have hget := Workflow.field_eq_get? hv (by simp)
      unfold withDefault at hchoices
      rw [under?_of_get? hget] at hchoices
      have hlength := length_of_tuple (below_eq_ok hchoices)
      rw [hv] at hholds
      rintro rfl
      have hnil : xs = [] := List.length_eq_zero_iff.mp hlength.symm
      rw [hnil] at hholds
      cases hholds
    | _ =>
      rw [hv] at hlist
      exact absurd rfl hlist

theorem parses_of_checkPattern {pattern : String} (hcheck : checkPattern v id = .ok [])
    (hread : optional text (v.field "validationPattern") = .ok (some pattern))
    (hbytes : ∀ bs, v.field "validationPattern" ≠ .bytes bs) : ∃ r, Pattern.parse pattern = .ok r := by
  obtain ⟨hnull, hread⟩ := optional_eq_some hread
  cases hv : v.field "validationPattern" with
  | text s =>
    rw [hv] at hread
    obtain rfl := Checked.ok.inj hread
    unfold checkPattern at hcheck
    rw [hv] at hcheck
    dsimp only at hcheck
    split at hcheck
    · rename_i r hr
      exact ⟨r, hr⟩
    · cases hcheck
    · cases hcheck
  | bytes bs => exact absurd hv (hbytes bs)
  | _ => rw [hv] at hread; cases hread

theorem less_zero_of_isDuration {w : Value} {t : Binary64} (hcheck : isDuration true w = true)
    (hread : optional number w = .ok (some t)) : t.less (.zero false) = false := by
  obtain ⟨hnull, hread⟩ := optional_eq_some hread
  cases w with
  | null => exact absurd rfl hnull
  | int n =>
    have hn : 0 ≤ n := by simpa [isDuration] using hcheck
    unfold number at hread
    dsimp only at hread
    split at hread
    · rename_i x hx
      obtain rfl := Checked.ok.inj hread
      exact Binary64.less_zero_ofInt? hn hx
    · cases hread
  | num x =>
    obtain rfl := Checked.ok.inj hread
    simpa [isDuration] using hcheck
  | _ => cases hcheck

theorem checked_question (hcheck : checkInteractive v id = .ok []) :
    (Question.ofValue v).Yields (·.IsChecked v) := by
  unfold checkInteractive at hcheck
  dsimp only at hcheck
  cases hpattern : checkPattern v id with
  | error e =>
    rw [hpattern] at hcheck
    cases hcheck
  | ok problems =>
    rw [hpattern] at hcheck
    have hnone := Except.ok.inj hcheck
    simp only [List.append_eq_nil_iff, expect_eq_nil] at hnone
    obtain ⟨⟨⟨-, hchoices⟩, rfl⟩, hduration, -⟩ := hnone
    unfold Question.ofValue
    refine .ap fun answerName _ => .ap fun timeout htimeout => .ap fun pattern hread => .ap fun default _ =>
      .ap fun choices hlist => .ap fun inputType htype => .map fun prompt _ => ?_
    exact {
      choices := fun hunder hchoice => choices_of_checkChoices hchoices hunder (hchoice ▸ htype) hlist
      pattern := fun hunder hbytes p hp =>
        parses_of_checkPattern hpattern (hp ▸ maybe_eq_ok hunder hread) hbytes
      timeout := fun hunder t ht => less_zero_of_isDuration hduration (ht ▸ maybe_eq_ok hunder htimeout) }

/-- The task that is read from a step that passes has what the checks guarantee. -/
theorem checked_task {action : String} {c : Checked Task} (hread : Task.ofValue? action v = some c)
    (hcheck : checkFields? action v id = some (.ok [])) (hdangling : danglingOf ids v = []) :
    c.Yields (·.IsChecked ids id v) := by
  unfold Task.ofValue? at hread
  split at hread
  · cases hread
    exact .map fun _ _ => trivial
  · cases hread
    exact .ap fun onFalse hfalse => .ap fun onTrue htrue => .map fun check _ =>
      checked_conditional (Except.ok.inj (Option.some.inj hcheck)) hdangling htrue hfalse
  · cases hread
    exact .ap fun maxIterations hmax => .ap fun condition _ => .map fun target hto =>
      checked_loop (Except.ok.inj (Option.some.inj hcheck)) hdangling hto hmax
  · cases hread
    exact .map fun q hq => checked_question (Option.some.inj hcheck) q hq
  all_goals
    cases hread
  · exact .ap fun _ _ => .map fun _ _ => trivial
  · exact .ap fun _ _ => .map fun _ _ => trivial
  · exact .ap fun _ _ => .map fun _ _ => trivial
  · exact .ap fun _ _ => .map fun _ _ => trivial
  · exact .ap fun _ _ => .map fun _ _ => trivial
  · exact .ap fun _ _ => .map fun _ _ => trivial
  · exact .map fun _ _ => trivial
  · exact .map fun _ _ => trivial
  · exact .map fun _ _ => trivial
  · exact .map fun _ _ => trivial

theorem checked_step {step : Step} (hcheck : checkAction v id = .ok ([], some v))
    (hdangling : danglingOf ids v = []) (hread : Step.ofValue v = .ok step) : step.task.IsChecked ids id v := by
  obtain ⟨action, haction, hfields⟩ := checkFields_of_checkAction hcheck
  obtain ⟨-, other, hother, htask⟩ := Step.fields_of_ofValue hread
  obtain rfl : other = action :=
    Value.text.inj (Option.some.inj (hother.symm.trans (Workflow.field_eq_get? haction (by simp))))
  exact checked_task htask hfields hdangling _ rfl

end Report

namespace Workflow

/-- The steps of a workflow that is built have what the checks guarantee. -/
theorem checked_of_build {doc : Value} {w : Workflow} (h : build doc = .ok w) :
    List.Forall₂ (fun v step => step.task.IsChecked w.stepIds step.id v) (Report.stepsOf doc) w.steps := by
  obtain ⟨vs, hsteps, -, hids, hdangling, hall⟩ := steps_of_build h
  have hdoc : Report.stepsOf doc = vs := by rw [Report.stepsOf, hsteps]
  have hchecked := hids.checked
  rw [stepIds, List.forall₂_map_right_iff, List.forall₂_iff_zip] at hchecked
  rw [List.forall₂_iff_zip] at hall
  rw [hdoc, List.forall₂_iff_zip]
  refine ⟨hall.1, fun {v step} hmem => ?_⟩
  exact Report.checked_step (hchecked.2 hmem).2 (hdangling v (List.of_mem_zip hmem).1) (hall.2 hmem)

end Workflow

end Runbook
