import Runbook.Proofs.Schema
import Runbook.Workflow.Report

/-! A report without problems and the reading of a workflow agree, but for keys of variables that are no
texts: the report looks at the variables as a whole only. -/

namespace Runbook

open Schema Checked

/-! ## Steps and workflows as readings -/

theorem InputType.sure_ofValue (v : Value) : (InputType.ofValue v).Sure := by
  unfold InputType.ofValue
  split
  · exact sure_ok _
  · exact sure_wrong _ _

theorem Question.sure_ofValue (v : Value) : (Question.ofValue v).Sure := by
  unfold Question.ofValue
  apply_rules [Sure.ap, Sure.map, sure_required, sure_maybe, sure_withDefault, sure_tuple, sure_text,
    sure_number, InputType.sure_ofValue]

theorem PullRequestStep.sure_ofValue (action : PullRequestAction) (v : Value) :
    (PullRequestStep.ofValue action v).Sure := by
  unfold PullRequestStep.ofValue
  apply_rules [Sure.ap, Sure.map, sure_maybe, sure_text]

theorem Task.sure_gitOfValue (action : GitAction) (v : Value) : (Task.gitOfValue action v).Sure := by
  unfold Task.gitOfValue
  apply_rules [Sure.ap, Sure.map, sure_maybe, sure_text]

theorem Task.sure_ofValue? {action : String} {v : Value} {c : Checked Task}
    (h : Task.ofValue? action v = some c) : c.Sure := by
  unfold Task.ofValue? at h
  split at h
  all_goals
    cases h
  all_goals
    apply_rules [Question.sure_ofValue, PullRequestStep.sure_ofValue, Task.sure_gitOfValue, Sure.ap,
      Sure.map, sure_required, sure_maybe, sure_text, sure_number, sure_int]

theorem Step.sure_ofValue (v : Value) : (Step.ofValue v).Sure := by
  unfold Step.ofValue Step.unknownTag
  split
  · split
    · exact sure_wrong _ _
    · split
      · split
        · rename_i task htask
          exact ((((sure_required sure_text _ _).map _).ap (sure_maybe sure_text _ _)).ap
            (Task.sure_ofValue? htask)).below _
        · exact sure_wrong _ _
      · exact sure_wrong _ _
  · exact sure_wrong _ _

namespace Workflow

theorem sure_ofValue (v : Value) : (Workflow.ofValue v).Sure := by
  unfold Workflow.ofValue
  split
  · apply_rules [Sure.ap, Sure.map, sure_required, sure_maybe, sure_withDefault, sure_tuple, sure_text,
      sure_bool, sure_bindings, Step.sure_ofValue]
  · exact sure_wrong _ _

/-- The errors of a workflow are those of its fields in turn. -/
theorem errors_ofValue (es : List (Value × Value)) :
    (Workflow.ofValue (.map es)).errors =
      (required (.map es) ["name"] text).errors ++ (maybe (.map es) ["description"] text).errors ++
      (maybe (.map es) ["version"] text).errors ++
      (withDefault (.map es) ["interactive"] bool false).errors ++
      (withDefault (.map es) ["persistent"] bool false).errors ++
      (withDefault (.map es) ["variables"] bindings []).errors ++
      (required (.map es) ["steps"] (tuple Step.ofValue)).errors := by
  simp only [Workflow.ofValue, errors_ap, errors_map]

/-! ## Documents -/

/-- The variables, where there are any, are a map of which each key can be read as a text. -/
def HasTextKeys (doc : Value) : Prop :=
  ∀ v, (normalized doc).get? "variables" = some v →
    ∃ es, v = .map es ∧ ∀ e ∈ es, ∃ s, text e.1 = .ok s

theorem keyIs_eq_false {name other : String} (h : name ≠ other) {k v w : Value}
    (hk : Value.keyIs other (k, v) = true) : Value.keyIs name (k, w) = false := by
  unfold Value.keyIs at hk ⊢
  cases k with
  | text t =>
    simp only [beq_iff_eq, beq_eq_false_iff_ne] at hk ⊢
    rw [hk]
    exact h.symm
  | _ => rfl

theorem get?_normalized (doc : Value) (name : String) (hversion : name ≠ "version")
    (hvariables : name ≠ "variables") : (normalized doc).get? name = doc.get? name := by
  cases doc with
  | map es =>
    unfold normalized Value.get? Value.lookup?
    simp only
    congr 1
    induction es with
    | nil => rfl
    | cons e es ih =>
      obtain ⟨k, w⟩ := e
      rw [List.filterMap_cons]
      by_cases hv : (Value.keyIs "version" (k, w) && !w.isNull) = true
      · have hkey := (Bool.and_eq_true_iff.mp hv).1
        simp only [hv, if_true, List.find?_cons, keyIs_eq_false hversion hkey, ih]
      · by_cases hd : (Value.keyIs "variables" (k, w) && w.isNull) = true
        · have hkey := (Bool.and_eq_true_iff.mp hd).1
          simp only [hv, hd, if_true, List.find?_cons, keyIs_eq_false hvariables hkey]
          exact ih
        · simp only [hv, hd, Bool.false_eq_true, if_false, List.find?_cons, ih]
  | _ => rfl

theorem field_eq_get? {doc v : Value} {name : String} (h : doc.field name = v) (hv : v ≠ .null) :
    doc.get? name = some v := by
  unfold Value.field at h
  cases hget : doc.get? name with
  | none => exact absurd (by rw [← h, hget]; rfl) hv
  | some w => rw [hget] at h; exact congrArg some h

end Workflow

/-! ## Reports without problems -/

namespace Report

/-- The checks of a list of steps are those of the first step, then those of the rest. -/
theorem checkSteps_cons_eq_ok {w last : Walk} {v : Value} {vs : List Value} {place : ℕ}
    (h : checkSteps w place (v :: vs) = .ok last) :
    ∃ next, checkStep w v place = .ok next ∧ checkSteps next (place + 1) vs = .ok last := by
  rw [checkSteps] at h
  cases hstep : checkStep w v place with
  | error e => rw [hstep] at h; cases h
  | ok next =>
    rw [hstep] at h
    exact ⟨next, rfl, h⟩

/-- Where there is no problem after a step there was none before, and neither its id nor its action has one. -/
theorem checks_of_checkStep {w w' : Walk} {v : Value} {place : ℕ} (h : checkStep w v place = .ok w')
    (hnone : w'.problems = []) :
    w.problems = [] ∧ w'.flagged = w.flagged ∧ ∃ label known, checkId v (place + 1) w.seen = (label, w'.seen, []) ∧
      checkAction v label = .ok ([], known) ∧ w'.known = w.known ++ known.toList := by
  unfold checkStep at h
  split at h
  · obtain rfl := Except.ok.inj h
    simp at hnone
  · rcases hid : checkId v (place + 1) w.seen with ⟨label, seen, idProblems⟩
    simp only [hid] at h
    split at h
    · cases h
    · rename_i problems known hcheck
      obtain rfl := Except.ok.inj h
      simp only [List.append_eq_nil_iff] at hnone
      obtain ⟨⟨hstart, rfl⟩, rfl⟩ := hnone
      exact ⟨hstart, List.append_nil _, label, known, rfl, hcheck, rfl⟩

/-- A step that adds no problem is not flagged. -/
theorem flagged_of_checkStep {w w' : Walk} {v : Value} {place : ℕ} (h : checkStep w v place = .ok w')
    (hnone : w'.problems = []) : w.problems = [] ∧ w'.flagged = w.flagged := by
  obtain ⟨hstart, hflagged, -⟩ := checks_of_checkStep h hnone
  exact ⟨hstart, hflagged⟩

theorem flagged_of_checkSteps {w w' : Walk} {vs : List Value} {place : ℕ}
    (h : checkSteps w place vs = .ok w') (hnone : w'.problems = []) :
    w.problems = [] ∧ w'.flagged = w.flagged := by
  induction vs generalizing w place with
  | nil =>
    obtain rfl := Except.ok.inj h
    exact ⟨hnone, rfl⟩
  | cons v vs ih =>
    obtain ⟨next, hstep, hrest⟩ := checkSteps_cons_eq_ok h
    obtain ⟨hnext, hflagged⟩ := ih hrest
    obtain ⟨hw, hfirst⟩ := flagged_of_checkStep hstep hnext
    exact ⟨hw, hflagged.trans hfirst⟩

/-- What a report without problems says of a document. -/
structure Passes (doc : Value) : Prop where
  isMap : ∃ es, doc = .map es
  named : isGivenText (doc.field "name") = true
  stepped : ∃ xs, doc.field "steps" = .list xs
  typed : typeFindings doc [] = []

theorem passes_of_isValid {doc : Value} {r : Report} (h : ofValue doc = .ok r)
    (hvalid : r.isValid = true) : Passes doc := by
  unfold isValid at hvalid
  rw [List.isEmpty_iff] at hvalid
  unfold ofValue at h
  split at h
  · cases h
  · split at h
    · obtain rfl := Except.ok.inj h
      cases hvalid
    · rename_i hints hhints hmap
      have hmap' : ∃ es, doc = .map es := by
        cases doc with
        | map es => exact ⟨es, rfl⟩
        | _ => simp [Value.isMap] at hmap
      simp only at h
      split at h
      · obtain rfl := Except.ok.inj h
        simp at hvalid
      · rename_i xs _ hsteps
        split at h
        · cases h
        · rename_i w hw
          obtain rfl := Except.ok.inj h
          simp only [List.append_eq_nil_iff] at hvalid
          obtain ⟨⟨hproblems, -⟩, htyped⟩ := hvalid
          obtain ⟨hstart, hflagged⟩ := flagged_of_checkSteps hw hproblems
          rw [hflagged] at htyped
          rw [List.append_eq_nil_iff] at hstart
          refine ⟨hmap', ?_, ⟨xs, hsteps⟩, htyped⟩
          by_contra hname
          simp [nameFindings, hname] at hstart
      · obtain rfl := Except.ok.inj h
        simp at hvalid

/-! ## Errors that a report passes over -/

/-- An error at the top is passed over only in the fields with checks of their own. -/
theorem findingOf_ne_nil_of_name {steps : List Value} {flagged : List ℕ} {e : FieldError} {name : String}
    {rest : List PathPart} (hpath : e.path = .name name :: rest) (hname : name ∉ checkedFields) :
    findingOf steps flagged e ≠ [] := by
  unfold findingOf
  rw [hpath]
  split
  · rename_i heq
    have hsteps : name = "steps" := PathPart.name.inj (List.cons.inj heq).1
    simp [checkedFields, hsteps] at hname
  · simp [hname]

/-- An error of a step that is not flagged is not passed over. -/
theorem findingOf_ne_nil_of_step {steps : List Value} {e : FieldError} {i : ℕ} {rest : List PathPart}
    (hpath : e.path = .name "steps" :: .index (Int.ofNat i) :: rest) : findingOf steps [] e ≠ [] := by
  unfold findingOf
  rw [hpath]
  exact List.cons_ne_nil _ _

/-- No error of a reading is passed over if each of them lies below a name without a check of its own. -/
theorem errors_eq_nil_of_name {α : Type} {doc : Value} {c : Checked α} (names : List String)
    (hnames : ∀ name ∈ names, name ∉ checkedFields)
    (hpaths : ∀ e ∈ c.errors, ∃ name ∈ names, ∃ rest, e.path = .name name :: rest)
    (hnone : ∀ e ∈ c.errors, findingOf (stepsOf doc) [] e = []) : c.errors = [] := by
  rw [List.eq_nil_iff_forall_not_mem]
  intro e he
  obtain ⟨name, hmem, rest, hpath⟩ := hpaths e he
  exact findingOf_ne_nil_of_name hpath (hnames name hmem) (hnone e he)

/-- A name that is given is read. -/
theorem errors_name {doc : Value} (h : isGivenText (doc.field "name") = true) :
    (required (Workflow.normalized doc) ["name"] text).errors = [] := by
  obtain ⟨t, ht⟩ : ∃ t, doc.field "name" = .text t := by
    cases hfield : doc.field "name" with
    | text t => exact ⟨t, rfl⟩
    | _ => simp [isGivenText, hfield] at h
  have hget := Workflow.get?_normalized doc "name" (by decide) (by decide)
  rw [Workflow.field_eq_get? ht (by simp)] at hget
  simp [required, under?_single, hget, text]

theorem errors_variables {doc : Value} (h : Workflow.HasTextKeys doc) :
    (withDefault (Workflow.normalized doc) ["variables"] bindings []).errors = [] := by
  cases hget : (Workflow.normalized doc).get? "variables" with
  | none => simp [withDefault, under?_single, hget]
  | some v =>
    obtain ⟨vs, rfl, htexts⟩ := h v hget
    have hentries : (entries vs).errors = [] := (errors_entries vs).mpr fun e he => by
      obtain ⟨t, ht⟩ := htexts e he
      rw [ht]
      rfl
    simp [withDefault, under?_single, hget, bindings, hentries]

/-- No error of a list of steps is passed over where none of them is flagged. -/
theorem findingOf_ne_nil_of_steps {doc : Value} {xs : List Value} (h : doc.field "steps" = .list xs)
    {steps : List Value} {e : FieldError}
    (he : e ∈ (required (Workflow.normalized doc) ["steps"] (tuple Step.ofValue)).errors) :
    findingOf steps [] e ≠ [] := by
  have hget := Workflow.get?_normalized doc "steps" (by decide) (by decide)
  rw [Workflow.field_eq_get? h (by simp)] at hget
  simp only [required, under?_single, hget, Option.map_some, errors_below, tuple, itemsOf?, List.mem_map] at he
  obtain ⟨inner, hinner, rfl⟩ := he
  obtain ⟨i, rest, hpath⟩ := path_of_mem_items hinner
  exact findingOf_ne_nil_of_step (congrArg (PathPart.name "steps" :: ·) hpath)

/-- A document that passes is read if its variables are. -/
theorem errors_of_passes {doc : Value} (h : Passes doc) (hkeys : Workflow.HasTextKeys doc) :
    (Workflow.ofValue (Workflow.normalized doc)).errors = [] := by
  obtain ⟨⟨es, rfl⟩, hnamed, ⟨xs, hsteps⟩, htyped⟩ := h
  have hname := errors_name hnamed
  have hvars := errors_variables hkeys
  have hstep (e : FieldError)
      (he : e ∈ (required (Workflow.normalized (.map es)) ["steps"] (tuple Step.ofValue)).errors) :
      findingOf (stepsOf (.map es)) [] e ≠ [] := findingOf_ne_nil_of_steps hsteps he
  obtain ⟨ns, hns⟩ : ∃ ns, Workflow.normalized (.map es) = .map ns := ⟨_, rfl⟩
  rw [hns] at hname hvars hstep ⊢
  have hnone : ∀ e ∈ (Workflow.ofValue (.map ns)).errors, findingOf (stepsOf (.map es)) [] e = [] := by
    unfold typeFindings at htyped
    rw [hns] at htyped
    cases hread : Workflow.ofValue (.map ns) with
    | ok w => exact fun e he => nomatch he
    | bad errors =>
      rw [hread] at htyped
      exact fun e he => List.flatMap_eq_nil_iff.mp htyped e he
  rw [Workflow.errors_ofValue, hname, hvars] at hnone ⊢
  have hdescription : (maybe (.map ns) ["description"] text).errors = [] :=
    errors_eq_nil_of_name ["description"] (by decide) (fun _ => path_of_mem_withDefault)
      fun e he => hnone e (by simp [he])
  have hversion : (maybe (.map ns) ["version"] text).errors = [] :=
    errors_eq_nil_of_name ["version"] (by decide) (fun _ => path_of_mem_withDefault)
      fun e he => hnone e (by simp [he])
  have hinteractive : (withDefault (.map ns) ["interactive"] bool false).errors = [] :=
    errors_eq_nil_of_name ["interactive"] (by decide) (fun _ => path_of_mem_withDefault)
      fun e he => hnone e (by simp [he])
  have hpersistent : (withDefault (.map ns) ["persistent"] bool false).errors = [] :=
    errors_eq_nil_of_name ["persistent"] (by decide) (fun _ => path_of_mem_withDefault)
      fun e he => hnone e (by simp [he])
  have hsteps' : (required (.map ns) ["steps"] (tuple Step.ofValue)).errors = [] :=
    List.eq_nil_iff_forall_not_mem.mpr fun e he => hstep e he (hnone e (by simp [he]))
  simp only [hdescription, hversion, hinteractive, hpersistent, hsteps', List.append_nil]

end Report

namespace Workflow

theorem hasTextKeys_of_ofValue {doc : Value} {w : Workflow}
    (h : Workflow.ofValue (normalized doc) = .ok w) : HasTextKeys doc := by
  intro v hget
  have hnone : (Workflow.ofValue (normalized doc)).errors = [] := by rw [h]; rfl
  cases doc with
  | map es =>
    obtain ⟨ns, hns⟩ : ∃ ns, normalized (.map es) = .map ns := ⟨_, rfl⟩
    rw [hns] at hnone hget
    rw [errors_ofValue] at hnone
    simp only [List.append_eq_nil_iff] at hnone
    have hvars := hnone.1.2
    simp only [withDefault, under?_single, hget, Option.map_some, errors_below, List.map_eq_nil_iff]
      at hvars
    cases v with
    | map vs =>
      rw [bindings, errors_map] at hvars
      refine ⟨vs, rfl, fun e he => ?_⟩
      exact sure_text e.1 ((errors_entries vs).mp hvars e he)
    | _ => cases hvars
  | _ => cases hget

/-- Where there is a report, it has no problems and the variables have texts as keys exactly if the document
is read as a workflow. -/
theorem isValid_and_hasTextKeys_iff_build {doc : Value} {r : Report} (h : Report.ofValue doc = .ok r) :
    (r.isValid = true ∧ HasTextKeys doc) ↔ ∃ w, build doc = .ok w := by
  unfold build
  rw [h]
  simp only
  constructor
  · rintro ⟨hvalid, hkeys⟩
    obtain ⟨w, hw⟩ := sure_ofValue _ (Report.errors_of_passes (Report.passes_of_isValid h hvalid) hkeys)
    exact ⟨w, by simp [hvalid, hw]⟩
  · rintro ⟨w, hw⟩
    by_cases hvalid : r.isValid = true
    · cases hread : Workflow.ofValue (normalized doc) with
      | ok w' => exact ⟨hvalid, hasTextKeys_of_ofValue hread⟩
      | bad errors => simp [hvalid, hread] at hw
    · simp [hvalid] at hw

/-- A workflow with one step and a variable under the number 1. -/
def numberedVariable : Value := .obj [
  ("name", .text "demo"), ("variables", .map [(.int 1, .text "one")]),
  ("steps", .list [.obj [("id", .text "a"), ("action", .text "shell"), ("command", .text "ls")]])]

/-- A report without problems does not mean that the document is read. -/
theorem exists_valid_without_build :
    ∃ r, Report.ofValue numberedVariable = .ok r ∧ r.isValid = true ∧
      ¬∃ w, build numberedVariable = .ok w := by
  refine ⟨_, rfl, rfl, ?_⟩
  rintro ⟨w, hw⟩
  cases hw

/-- The same document with the variable under a text. -/
def namedVariable : Value := .obj [
  ("name", .text "demo"), ("variables", .map [(.text "one", .int 1)]),
  ("steps", .list [.obj [("id", .text "a"), ("action", .text "shell"), ("command", .text "ls")]])]

theorem namedVariable_builds :
    ∃ r, Report.ofValue namedVariable = .ok r ∧ (r.isValid = true ∧ HasTextKeys namedVariable) ∧
      ∃ w, build namedVariable = .ok w :=
  ⟨_, rfl, (isValid_and_hasTextKeys_iff_build rfl).mpr ⟨_, rfl⟩, ⟨_, rfl⟩⟩

end Workflow

end Runbook
