import Runbook.Proofs.Each
import Runbook.Proofs.Value.Bindings
import Runbook.Proofs.Workflow.Agreement
import Runbook.Workflow.Library

/-! A workflow that is built from a document has a step, and its steps have different ids that are not
empty. -/

namespace Runbook

open Checked Schema

namespace Report

/-- The steps of a document pass the checks of their actions, and their ids are all different. -/
structure Ids (vs : List Value) (ids : List String) : Prop where
  checked : List.Forall₂ (fun v id => v.field "id" = .text id ∧ checkAction v id = .ok ([], some v)) vs ids
  nodup : ids.Nodup
  nonempty : "" ∉ ids

theorem seen_of_checkId {v : Value} {number : ℕ} {seen : List String}
    (h : (checkId v number seen).2.2 = []) :
    ∃ id, v.field "id" = .text id ∧ id ≠ "" ∧ id ∉ seen ∧ checkId v number seen = (id, seen ++ [id], []) := by
  unfold checkId at h ⊢
  split at h
  · rename_i id hid
    split_ifs at h with hempty hseen
    refine ⟨id, hid, by simpa using hempty, by simpa using hseen, ?_⟩
    dsimp only
    rw [if_neg hempty, if_neg hseen]
  · cases h

/-- A step without problems is of a known action. -/
theorem known_of_checkAction {v : Value} {label : String} {known : Option Value}
    (h : checkAction v label = .ok ([], known)) : known = some v := by
  unfold checkAction at h
  split at h
  · split_ifs at h
    · exact absurd (congrArg Prod.fst (Except.ok.inj h)) (List.cons_ne_nil _ _)
    · split at h
      · rename_i check hcheck
        cases check with
        | error e => cases h
        | ok problems => exact (congrArg Prod.snd (Except.ok.inj h)).symm
      · exact absurd (congrArg Prod.fst (Except.ok.inj h)) (List.cons_ne_nil _ _)
  · exact absurd (congrArg Prod.fst (Except.ok.inj h)) (List.cons_ne_nil _ _)

theorem seen_of_checkStep {w w' : Walk} {v : Value} {place : ℕ} (h : checkStep w v place = .ok w')
    (hnone : w'.problems = []) :
    ∃ id, v.field "id" = .text id ∧ id ≠ "" ∧ id ∉ w.seen ∧ checkAction v id = .ok ([], some v) ∧
      w'.seen = w.seen ++ [id] ∧ w'.known = w.known ++ [v] := by
  obtain ⟨-, -, label, known, hlabel, hcheck, hknown⟩ := checks_of_checkStep h hnone
  obtain ⟨id, hid, hne, hnew, hchecked⟩ := seen_of_checkId (congrArg (·.2.2) hlabel)
  obtain ⟨rfl, hseen⟩ := Prod.mk.inj (hlabel.symm.trans hchecked)
  obtain rfl := known_of_checkAction hcheck
  exact ⟨label, hid, hne, hnew, hcheck, (Prod.mk.inj hseen).1, hknown⟩

theorem ids_of_checkSteps {w w' : Walk} {vs : List Value} {place : ℕ}
    (h : checkSteps w place vs = .ok w') (hnone : w'.problems = []) (hseen : w.seen.Nodup) :
    ∃ ids, Ids vs ids ∧ List.Disjoint w.seen ids ∧ w'.seen = w.seen ++ ids ∧ w'.known = w.known ++ vs := by
  induction vs generalizing w place with
  | nil =>
    obtain rfl := Except.ok.inj h
    exact ⟨[], ⟨.nil, List.nodup_nil, List.not_mem_nil⟩, List.disjoint_nil_right _,
      (List.append_nil _).symm, (List.append_nil _).symm⟩
  | cons v vs ih =>
    obtain ⟨next, hstep, hsteps⟩ := checkSteps_cons_eq_ok h
    obtain ⟨id, hid, hne, hnew, hchecked, hnext, hknown⟩ :=
      seen_of_checkStep hstep (flagged_of_checkSteps hsteps hnone).1
    have hnodup : next.seen.Nodup := by
      rw [hnext]
      rw [← List.concat_eq_append]
      exact hseen.concat hnew
    obtain ⟨ids, ⟨hrest, hids, hnonempty⟩, hdisjoint, hlast, hall⟩ := ih hsteps hnodup
    rw [hnext, List.disjoint_append_left, List.singleton_disjoint] at hdisjoint
    refine ⟨id :: ids, ⟨.cons ⟨hid, hchecked⟩ hrest, List.nodup_cons.mpr ⟨hdisjoint.2, hids⟩, ?_⟩, ?_, ?_, ?_⟩
    · rw [List.mem_cons, not_or]
      exact ⟨Ne.symm hne, hnonempty⟩
    · rw [List.disjoint_cons_right]
      exact ⟨hnew, hdisjoint.1⟩
    · rw [hlast, hnext, List.append_assoc, List.singleton_append]
    · rw [hall, hknown, List.append_assoc, List.singleton_append]

/-- The steps of a document with a report without problems refer to each other only. -/
theorem ids_of_isValid {doc : Value} {r : Report} (h : ofValue doc = .ok r) (hvalid : r.isValid = true) :
    ∃ vs ids, doc.field "steps" = .list vs ∧ vs ≠ [] ∧ Ids vs ids ∧ ∀ v ∈ vs, danglingOf ids v = [] := by
  unfold isValid at hvalid
  rw [List.isEmpty_iff] at hvalid
  unfold ofValue at h
  split at h
  · cases h
  · split at h
    · obtain rfl := Except.ok.inj h
      cases hvalid
    · simp only at h
      split at h
      · obtain rfl := Except.ok.inj h
        simp at hvalid
      · rename_i vs hne hsteps
        split at h
        · cases h
        · rename_i w hw
          obtain rfl := Except.ok.inj h
          simp only [List.append_eq_nil_iff] at hvalid
          obtain ⟨ids, hids, -, hseen, hknown⟩ := ids_of_checkSteps hw hvalid.1.1 List.nodup_nil
          rw [hseen, hknown] at hvalid
          exact ⟨vs, ids, hsteps, hne, hids, List.flatMap_eq_nil_iff.mp hvalid.1.2⟩
      · obtain rfl := Except.ok.inj h
        simp at hvalid

end Report

namespace Step

/-- A step is read from its id and from the fields of its action. -/
theorem fields_of_ofValue {v : Value} {step : Step} (h : Step.ofValue v = .ok step) :
    required v ["id"] text = .ok step.id ∧
      ∃ action, v.get? "action" = some (.text action) ∧ Task.ofValue? action v = some (.ok step.task) := by
  unfold Step.ofValue at h
  split at h
  · split at h
    · cases h
    · rename_i tag htag
      split at h
      · rename_i action
        split at h
        · rename_i task htask
          obtain ⟨g, t, hg, ht, rfl⟩ := ap_eq_ok (below_eq_ok h)
          obtain ⟨g', description, hg', -, rfl⟩ := ap_eq_ok hg
          obtain ⟨name, hname, rfl⟩ := map_eq_ok hg'
          exact ⟨hname, action, htag, ht ▸ htask⟩
        · cases h
      · cases h
  · cases h

theorem id_of_ofValue {v : Value} {step : Step} {id : String} (h : Step.ofValue v = .ok step)
    (hid : v.field "id" = .text id) : step.id = id := by
  have hread : text (.text id) = .ok step.id :=
    required_eq_ok (fields_of_ofValue h).1 (Workflow.field_eq_get? hid (by simp))
  exact (Checked.ok.inj hread).symm

end Step

namespace Workflow

theorem fields_of_ofValue {doc : Value} {w : Workflow} (h : ofValue doc = .ok w) :
    required doc ["name"] text = .ok w.name ∧ withDefault doc ["variables"] bindings [] = .ok w.variables ∧
      required doc ["steps"] (tuple Step.ofValue) = .ok w.steps := by
  unfold ofValue at h
  split at h
  · obtain ⟨_, steps, hvariables, hsteps, rfl⟩ := ap_eq_ok h
    obtain ⟨_, vars, hpersistent, hvars, rfl⟩ := ap_eq_ok hvariables
    obtain ⟨_, _, hinteractive, -, rfl⟩ := ap_eq_ok hpersistent
    obtain ⟨_, _, hversion, -, rfl⟩ := ap_eq_ok hinteractive
    obtain ⟨_, _, hdescription, -, rfl⟩ := ap_eq_ok hversion
    obtain ⟨_, _, hname, -, rfl⟩ := ap_eq_ok hdescription
    obtain ⟨name, hread, rfl⟩ := map_eq_ok hname
    exact ⟨hread, hvars, hsteps⟩
  · cases h

theorem steps_of_ofValue {doc : Value} {w : Workflow} {vs : List Value} (h : ofValue doc = .ok w)
    (hget : doc.get? "steps" = some (.list vs)) :
    List.Forall₂ (fun v step => Step.ofValue v = .ok step) vs w.steps :=
  items_eq_ok (required_eq_ok (fields_of_ofValue h).2.2 hget)

/-- A workflow is built from a document with a report without problems. -/
theorem build_eq_ok {doc : Value} {w : Workflow} (h : build doc = .ok w) :
    ∃ report, Report.ofValue doc = .ok report ∧ report.isValid = true ∧ ofValue (normalized doc) = .ok w := by
  unfold build at h
  split at h
  · cases h
  · rename_i report hreport
    dsimp only at h
    split_ifs at h with hvalid
    rw [Bool.not_eq_true, Bool.not_eq_false'] at hvalid
    split at h
    · rename_i v hread
      obtain rfl := Except.ok.inj h
      exact ⟨report, hreport, hvalid, hread⟩
    · cases h

/-- A workflow has the name in its document. -/
theorem name_of_build {doc : Value} {w : Workflow} (h : build doc = .ok w) :
    doc.get? "name" = some (.text w.name) := by
  obtain ⟨report, hreport, hvalid, hread⟩ := build_eq_ok h
  have hnamed := (Report.passes_of_isValid hreport hvalid).named
  cases hname : doc.field "name" with
  | text n =>
    have hget := field_eq_get? hname (by simp)
    rw [← get?_normalized doc "name" (by decide) (by decide)] at hget
    have hn : text (.text n) = .ok w.name := required_eq_ok (fields_of_ofValue hread).1 hget
    rw [← get?_normalized doc "name" (by decide) (by decide), hget, Checked.ok.inj hn]
  | _ => simp [hname, Report.isGivenText] at hnamed

/-- The variables of a workflow have different names. -/
theorem nodup_variables_of_build {doc : Value} {w : Workflow} (h : build doc = .ok w) : w.variables.names.Nodup := by
  obtain ⟨-, -, -, hread⟩ := build_eq_ok h
  have hvars := (fields_of_ofValue hread).2.1
  unfold withDefault at hvars
  split at hvars
  · rename_i v _
    have hbindings := below_eq_ok hvars
    unfold bindings at hbindings
    split at hbindings
    · obtain ⟨b, -, hb⟩ := map_eq_ok hbindings
      rw [← hb]
      exact @Bindings.nodup_names_update [] List.nodup_nil b
    · cases hbindings
  · rw [← Checked.ok.inj hvars]
    exact List.nodup_nil

/-- What a workflow that is built from a document is like. -/
structure WellFormed (w : Workflow) : Prop where
  steps_ne_nil : w.steps ≠ []
  nodup_stepIds : w.stepIds.Nodup
  nonempty_stepIds : "" ∉ w.stepIds

theorem stepIds_of_forall₂ {vs : List Value} {steps : List Step} {ids : List String}
    (h : List.Forall₂ (fun v step => Step.ofValue v = .ok step) vs steps)
    (hids : List.Forall₂ (fun v id => v.field "id" = .text id) vs ids) : steps.map (·.id) = ids := by
  induction h generalizing ids with
  | nil =>
    rw [List.forall₂_nil_left_iff] at hids
    rw [hids, List.map_nil]
  | @cons v step vs steps hstep _ ih =>
    obtain ⟨id, rest, hid, hrest, rfl⟩ := List.forall₂_cons_left_iff.mp hids
    rw [List.map_cons, Step.id_of_ofValue hstep hid, ih hrest]

/-- The steps of a workflow that is built are read from steps that pass the checks and refer to its ids
only. -/
theorem steps_of_build {doc : Value} {w : Workflow} (h : build doc = .ok w) :
    ∃ vs, doc.field "steps" = .list vs ∧ vs ≠ [] ∧ Report.Ids vs w.stepIds ∧
      (∀ v ∈ vs, Report.danglingOf w.stepIds v = []) ∧
      List.Forall₂ (fun v step => Step.ofValue v = .ok step) vs w.steps := by
  obtain ⟨report, hreport, hvalid, hread⟩ := build_eq_ok h
  obtain ⟨vs, ids, hsteps, hne, hids, hdangling⟩ := Report.ids_of_isValid hreport hvalid
  have hget := get?_normalized doc "steps" (by decide) (by decide)
  rw [field_eq_get? hsteps (by simp)] at hget
  have hall := steps_of_ofValue hread hget
  obtain rfl : w.stepIds = ids := stepIds_of_forall₂ hall (hids.checked.imp fun _ _ h => h.1)
  exact ⟨vs, hsteps, hne, hids, hdangling, hall⟩

theorem wellFormed_of_build {doc : Value} {w : Workflow} (h : build doc = .ok w) : w.WellFormed := by
  obtain ⟨vs, -, hne, hids, -, hall⟩ := steps_of_build h
  refine ⟨?_, hids.nodup, hids.nonempty⟩
  intro hnil
  rw [hnil, List.forall₂_nil_right_iff] at hall
  exact hne hall

end Workflow

namespace Library

/-- A workflow that is loaded was built from the document of its file. -/
theorem load_eq_ok {f : Files} {p : PathName} {w : Workflow} (h : load f p = .ok w) :
    ∃ doc, document f p = .ok doc ∧ Workflow.build doc = .ok w := by
  unfold load at h
  exact bind_eq_ok_iff.mp h

theorem get_eq_ok {f : Files} {dirs : List String} {name : String} {w : Workflow}
    (h : get f dirs name = .ok w) : ∃ p, find? f dirs name = .ok (some p) ∧ load f p = .ok w := by
  unfold get byName? at h
  obtain ⟨found, hfound, h⟩ := bind_eq_ok_iff.mp h
  obtain ⟨file, hfind, hread⟩ := bind_eq_ok_iff.mp hfound
  cases file with
  | none =>
    obtain rfl := Except.ok.inj hread
    cases h
  | some p =>
    obtain ⟨v, hload, hv⟩ := bind_eq_ok_iff.mp hread
    obtain rfl := Except.ok.inj hv
    obtain rfl := Except.ok.inj h
    exact ⟨p, hfind, hload⟩

theorem get_of_find? {f : Files} {dirs : List String} {name : String} {p : PathName}
    (h : find? f dirs name = .ok (some p)) : get f dirs name = load f p := by
  unfold get byName?
  rw [h]
  simp only [bind, Except.bind]
  cases load f p <;> rfl

/-- A workflow that is found by its name was built from a document. -/
theorem wellFormed_of_get {f : Files} {dirs : List String} {name : String} {w : Workflow}
    (h : get f dirs name = .ok w) : w.WellFormed := by
  obtain ⟨p, -, hload⟩ := get_eq_ok h
  obtain ⟨doc, -, hbuild⟩ := load_eq_ok hload
  exact Workflow.wellFormed_of_build hbuild

end Library

end Runbook
