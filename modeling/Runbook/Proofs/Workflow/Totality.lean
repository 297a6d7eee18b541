import Runbook.Proofs.Workflow.Checks

/-! When there is a report on a document. The notes gather the actions of the steps in a set before any step
is checked, and a pattern is compiled as it is given; nothing else of a document stands in the way. -/

namespace Runbook.Report

open Text

/-! ## Checks that come to an end -/

/-- The pattern of a question can be checked: there is none, it is read, or it is no regular expression. -/
def HasCheckablePattern (v : Value) : Prop :=
  v.field "validationPattern" ≠ .null →
    ∀ flaw, Pattern.parse (v.field "validationPattern").display = .error flaw → flaw = .malformed

/-- A step can be checked: its action can be a member of a set, and so can the pattern of a question. -/
structure IsCheckable (v : Value) : Prop where
  hashable : isHashable (v.field "action") = true
  pattern : v.field "action" = .text "interactive" → HasCheckablePattern v

theorem exists_checkPattern_iff (v : Value) (label : String) :
    (∃ problems, checkPattern v label = .ok problems) ↔ HasCheckablePattern v := by
  unfold checkPattern HasCheckablePattern
  split
  · rename_i hnull
    simp [hnull]
  · rename_i hne
    cases hparse : Pattern.parse (v.field "validationPattern").display with
    | ok pattern => simp
    | error flaw =>
      have hgiven : v.field "validationPattern" ≠ .null := hne
      cases flaw <;> simp [hgiven]

theorem exists_checkInteractive_iff {v : Value} {label : String} :
    (∃ problems, checkInteractive v label = .ok problems) ↔ HasCheckablePattern v := by
  rw [← exists_checkPattern_iff v label]
  unfold checkInteractive
  cases checkPattern v label <;> simp [Except.map]

/-- Questions have the only check that can fail to come to an end. -/
theorem exists_checkFields_iff {action : String} {v : Value} {label : String} {check : Check}
    (h : checkFields? action v label = some check) :
    (∃ problems, check = .ok problems) ↔ (action = "interactive" → HasCheckablePattern v) := by
  unfold checkFields? at h
  split at h
  all_goals
    cases h
  all_goals
    simp [exists_checkInteractive_iff]

theorem exists_checkAction_iff (v : Value) (label : String) :
    (∃ result, checkAction v label = .ok result) ↔
      (v.field "action" = .text "interactive" → HasCheckablePattern v) := by
  unfold checkAction
  split
  · rename_i action haction
    rw [haction, Value.text.injEq]
    split_ifs with hempty
    · rw [String.isEmpty_iff.mp hempty]
      simp
    · cases hcheck : checkFields? action v label with
      | none =>
        have hne : action ≠ "interactive" := by
          rintro rfl
          cases hcheck
        simp [hne]
      | some check =>
        rw [← exists_checkFields_iff hcheck]
        cases check <;> simp [Except.map]
  · rename_i hother
    simp only [Except.ok.injEq, exists_eq', true_iff]
    exact fun h => (hother _ h).elim

theorem exists_checkStep_iff (w : Walk) (v : Value) (place : ℕ) :
    (∃ next, checkStep w v place = .ok next) ↔
      (v.isMap = true → v.field "action" = .text "interactive" → HasCheckablePattern v) := by
  unfold checkStep
  by_cases hmap : v.isMap = true
  · simp only [hmap, Bool.not_true, Bool.false_eq_true, if_false, forall_const]
    rw [← exists_checkAction_iff v (checkId v (place + 1) w.seen).1]
    cases checkAction v (checkId v (place + 1) w.seen).1 <;> simp
  · simp [hmap]

theorem exists_checkSteps_iff (vs : List Value) (w : Walk) (place : ℕ) :
    (∃ last, checkSteps w place vs = .ok last) ↔
      ∀ v ∈ vs, v.isMap = true → v.field "action" = .text "interactive" → HasCheckablePattern v := by
  induction vs generalizing w place with
  | nil => simp [checkSteps]
  | cons v vs ih =>
    rw [checkSteps, List.forall_mem_cons, ← exists_checkStep_iff w v place]
    cases checkStep w v place with
    | error e => simp
    | ok next => simp [ih]

theorem stepsOf_eq_nil {doc : Value} (h : doc.isMap = false) : stepsOf doc = [] := by
  cases doc with
  | map es => cases h
  | _ => rfl

/-- The notes are there if all actions can be members of a set. -/
theorem exists_hintsFor_iff {doc : Value} :
    (∃ hints, hintsFor doc = .ok hints) ↔
      ∀ v ∈ stepsOf doc, v.isMap = true → isHashable (v.field "action") = true := by
  have hnone : (actionsOf doc).find? (fun a => !isHashable a) = none ↔
      ∀ v ∈ stepsOf doc, v.isMap = true → isHashable (v.field "action") = true := by
    rw [List.find?_eq_none]
    simp only [actionsOf, List.mem_filterMap, Bool.not_eq_true', Bool.not_eq_false]
    constructor
    · exact fun h v hv hmap => h _ ⟨v, hv, if_pos hmap⟩
    · rintro h a ⟨v, hv, ha⟩
      split_ifs at ha with hmap
      exact Option.some.inj ha ▸ h v hv hmap
  unfold hintsFor
  cases hmap : doc.isMap with
  | false => simp [stepsOf_eq_nil hmap]
  | true =>
    rw [← hnone]
    simp only [Bool.not_true, Bool.false_eq_true, if_false]
    cases hfind : (actionsOf doc).find? fun a => !isHashable a with
    | none => exact ⟨fun _ => rfl, fun _ => ⟨_, rfl⟩⟩
    | some a => simp

/-! ## Documents with a report -/

/-- There is a report exactly if each step can be checked. -/
theorem exists_ofValue_iff {doc : Value} :
    (∃ r, ofValue doc = .ok r) ↔ ∀ v ∈ stepsOf doc, v.isMap = true → IsCheckable v := by
  have hsplit : (∀ v ∈ stepsOf doc, v.isMap = true → IsCheckable v) ↔
      (∃ hints, hintsFor doc = .ok hints) ∧
        ∀ v ∈ stepsOf doc, v.isMap = true → v.field "action" = .text "interactive" →
          HasCheckablePattern v := by
    rw [exists_hintsFor_iff]
    exact ⟨fun h => ⟨fun v hv hmap => (h v hv hmap).1, fun v hv hmap => (h v hv hmap).2⟩,
      fun ⟨hash, pattern⟩ v hv hmap => ⟨hash v hv hmap, pattern v hv hmap⟩⟩
  rw [hsplit]
  unfold ofValue
  cases hintsFor doc with
  | error e => simp
  | ok hints =>
    cases hmap : doc.isMap with
    | false => simp [stepsOf_eq_nil hmap]
    | true =>
      simp only [Bool.not_true, Bool.false_eq_true, if_false, Except.ok.injEq, exists_eq', true_and]
      split
      · rename_i hsteps
        simp [stepsOf, hsteps]
      · rename_i vs _ hsteps
        have hvs : stepsOf doc = vs := by simp [stepsOf, hsteps]
        rw [hvs, ← exists_checkSteps_iff vs { problems := nameFindings doc ++ variablesFindings doc } 0]
        cases checkSteps { problems := nameFindings doc ++ variablesFindings doc } 0 vs <;> simp
      · rename_i hother
        have hnil : stepsOf doc = [] := by
          unfold stepsOf
          split
          · rename_i xs hxs
            exact (hother xs hxs).elim
          · rfl
        simp [hnil]

/-! ## Steps without an action -/

/-- What a step is called in messages: by its id, or by its number if it has none. -/
def labelOf (v : Value) (number : ℕ) : String :=
  if isGivenText (v.field "id") then (v.field "id").display else String.ofList (natText number)

theorem checkId_label (v : Value) (number : ℕ) (seen : List String) :
    (checkId v number seen).1 = labelOf v number := by
  unfold checkId labelOf
  split
  · rename_i id hid
    rw [hid]
    split_ifs <;> simp_all [isGivenText, Value.display]
  · rename_i hother
    have hnone : isGivenText (v.field "id") = false := by
      cases hid : v.field "id" with
      | text id => exact (hother id hid).elim
      | _ => rfl
    simp [hnone]

/-- The problem of a step whose action is missing. -/
def missingAction (label : String) : Finding where
  message := "Step " ++ label ++ " must have an action"
  hint := "add an `action` field " ++ oneOfActions
  step := .text label

theorem checkAction_of_missing {v : Value} {label : String}
    (h : isGivenText (v.field "action") = false) : checkAction v label = .ok ([missingAction label], none) := by
  unfold checkAction
  split
  · rename_i action haction
    rw [haction] at h
    have hempty : action.isEmpty = true := by simpa [isGivenText] using h
    rw [if_pos hempty]
    rfl
  · rfl

/-- The checks of a step take back no problem. -/
theorem problems_of_checkStep {w next : Walk} {v : Value} {place : ℕ} (h : checkStep w v place = .ok next) :
    ∃ more, next.problems = w.problems ++ more := by
  unfold checkStep at h
  split at h
  · obtain rfl := Except.ok.inj h
    exact ⟨_, rfl⟩
  · simp only at h
    split at h
    · cases h
    · obtain rfl := Except.ok.inj h
      exact ⟨_, List.append_assoc _ _ _⟩

theorem problems_of_checkSteps {vs : List Value} {w last : Walk} {place : ℕ}
    (h : checkSteps w place vs = .ok last) : ∃ more, last.problems = w.problems ++ more := by
  induction vs generalizing w place with
  | nil =>
    obtain rfl := Except.ok.inj h
    exact ⟨[], (List.append_nil _).symm⟩
  | cons v vs ih =>
    obtain ⟨next, hstep, hsteps⟩ := checkSteps_cons_eq_ok h
    obtain ⟨first, hfirst⟩ := problems_of_checkStep hstep
    obtain ⟨rest, hrest⟩ := ih hsteps
    exact ⟨first ++ rest, by rw [hrest, hfirst, List.append_assoc]⟩

theorem missingAction_of_checkStep {w next : Walk} {v : Value} {place : ℕ}
    (h : checkStep w v place = .ok next) (hmap : v.isMap = true)
    (hmissing : isGivenText (v.field "action") = false) :
    missingAction (labelOf v (place + 1)) ∈ next.problems := by
  unfold checkStep at h
  simp only [hmap, Bool.not_true, Bool.false_eq_true, if_false, checkAction_of_missing hmissing] at h
  obtain rfl := Except.ok.inj h
  simp [checkId_label]

theorem missingAction_of_checkSteps {vs : List Value} {w last : Walk} {place i : ℕ} {v : Value}
    (h : checkSteps w place vs = .ok last) (hv : vs[i]? = some v) (hmap : v.isMap = true)
    (hmissing : isGivenText (v.field "action") = false) :
    missingAction (labelOf v (place + i + 1)) ∈ last.problems := by
  induction vs generalizing w place i with
  | nil => cases hv
  | cons head vs ih =>
    obtain ⟨next, hstep, hsteps⟩ := checkSteps_cons_eq_ok h
    cases i with
    | zero =>
      obtain rfl : head = v := Option.some.inj hv
      obtain ⟨more, hmore⟩ := problems_of_checkSteps hsteps
      rw [hmore]
      exact List.mem_append_left _ (missingAction_of_checkStep hstep hmap hmissing)
    | succ i =>
      rw [← Nat.add_assoc, Nat.add_right_comm place i 1]
      exact ih hsteps hv

/-- A report on a document with steps has what their checks found. -/
theorem checkSteps_of_ofValue {doc : Value} {r : Report} (h : ofValue doc = .ok r) (hne : stepsOf doc ≠ []) :
    ∃ start last more, checkSteps start 0 (stepsOf doc) = .ok last ∧ r.problems = last.problems ++ more := by
  have hmap : doc.isMap = true := by
    by_contra hmap
    exact hne (stepsOf_eq_nil (by simpa using hmap))
  unfold ofValue at h
  split at h
  · cases h
  · simp only [hmap, Bool.not_true, Bool.false_eq_true, if_false] at h
    unfold stepsOf at hne ⊢
    split at h
    · rename_i hsteps
      simp [hsteps] at hne
    · rename_i vs _ hsteps
      rw [hsteps]
      simp only at h ⊢
      split at h
      · cases h
      · rename_i last hlast
        obtain rfl := Except.ok.inj h
        exact ⟨_, last, _, hlast, List.append_assoc _ _ _⟩
    · rename_i hother
      split at hne
      · rename_i vs hsteps
        exact (hother vs hsteps).elim
      · exact (hne rfl).elim

/-- There is a report exactly on the documents of which each step can be checked, and it has a problem for
each step whose action is no text or empty. -/
theorem total_on_checkable (doc : Value) :
    ((∃ r, ofValue doc = .ok r) ↔ ∀ v ∈ stepsOf doc, v.isMap = true → IsCheckable v) ∧
      ∀ r, ofValue doc = .ok r → ∀ i v, (stepsOf doc)[i]? = some v → v.isMap = true →
        isGivenText (v.field "action") = false → missingAction (labelOf v (i + 1)) ∈ r.problems := by
  refine ⟨exists_ofValue_iff, fun r h i v hv hmap hmissing => ?_⟩
  have hne : stepsOf doc ≠ [] := by
    intro hnil
    rw [hnil] at hv
    cases hv
  obtain ⟨start, last, more, hlast, hproblems⟩ := checkSteps_of_ofValue h hne
  have hmem := missingAction_of_checkSteps hlast hv hmap hmissing
  rw [Nat.zero_add] at hmem
  rw [hproblems]
  exact List.mem_append_left _ hmem

/-- A workflow with a list in place of an action. -/
def listedAction : Value := .obj [
  ("name", .text "demo"), ("steps", .list [.obj [("id", .text "a"), ("action", .list [.text "x"])]])]

/-- Not every document has a report. -/
theorem exists_document_without_report : ¬∃ r, ofValue listedAction = .ok r := by
  rintro ⟨r, hr⟩
  cases hr

end Runbook.Report
