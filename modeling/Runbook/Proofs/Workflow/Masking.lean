import Runbook.Proofs.Workflow.Totality

/-! The problems of a report by the places of the steps for which they are reported. The checks of the steps go on
from what was gathered before, and the field errors of a step are told only if its checks found nothing; all the
same, what is reported for a step depends on nothing of the other steps but their ids. -/

namespace Runbook.Report

open Checked Schema

/-! ## Single steps -/

/-- The id of a step, if it has one. -/
def idOf? (v : Value) : Option String :=
  match v.field "id" with
  | .text id => if id.isEmpty then none else some id
  | _ => none

/-- The ids that are there with a step. -/
def seenWith (seen : List String) : Option String → List String
  | some id => if seen.contains id then seen else seen ++ [id]
  | none => seen

/-- What the checks of a step gather, given the ids before it. -/
def look (seen : List String) (v : Value) (place : ℕ) : Walk :=
  match checkStep { seen } v place with
  | .ok w => w
  | .error _ => {}

theorem seen_checkId (v : Value) (number : ℕ) (seen : List String) :
    (checkId v number seen).2.1 = seenWith seen (idOf? v) := by
  unfold checkId idOf? seenWith
  cases v.field "id" with
  | text id =>
    dsimp only
    split_ifs <;> simp_all
  | _ => rfl

/-- A walk goes on by what the checks of a single step gather. -/
theorem checkStep_eq_ok {w next : Walk} {v : Value} {place : ℕ} (h : checkStep w v place = .ok next) :
    next.problems = w.problems ++ (look w.seen v place).problems ∧
      next.known = w.known ++ (look w.seen v place).known ∧
      next.flagged = w.flagged ++ (look w.seen v place).flagged ∧ next.seen = seenWith w.seen (idOf? v) := by
  unfold look
  unfold checkStep at h ⊢
  by_cases hmap : v.isMap = true
  · simp only [hmap, Bool.not_true, Bool.false_eq_true, if_false, seen_checkId] at h ⊢
    cases hcheck : checkAction v (checkId v (place + 1) w.seen).1 with
    | error e =>
      rw [hcheck] at h
      cases h
    | ok result =>
      rw [hcheck] at h
      obtain rfl := Except.ok.inj h
      simp
  · simp only [hmap, Bool.not_false, if_true] at h ⊢
    obtain rfl := Except.ok.inj h
    have hid : idOf? v = none := by
      cases v with
      | map es => exact absurd rfl hmap
      | _ => rfl
    simp [hid, seenWith]

/-- A step is flagged if its checks found something. -/
theorem flagged_look (seen : List String) (v : Value) (place : ℕ) :
    (look seen v place).flagged = if (look seen v place).problems.isEmpty then [] else [place] := by
  unfold look checkStep
  by_cases hmap : v.isMap = true
  · simp only [hmap, Bool.not_true, Bool.false_eq_true, if_false]
    cases checkAction v (checkId v (place + 1) seen).1 <;> simp
  · simp [hmap]

/-! ## All steps -/

/-- What the checks of each step gather. -/
def looks (seen : List String) (place : ℕ) : List Value → List Walk
  | [] => []
  | v :: vs => look seen v place :: looks (seenWith seen (idOf? v)) (place + 1) vs

/-- The ids that are there after the steps with the given ids. -/
def seenAfter (seen : List String) (ids : List (Option String)) : List String := ids.foldl seenWith seen

theorem checkSteps_eq_ok {vs : List Value} {w last : Walk} {place : ℕ} (h : checkSteps w place vs = .ok last) :
    last.problems = w.problems ++ (looks w.seen place vs).flatMap (·.problems) ∧
      last.known = w.known ++ (looks w.seen place vs).flatMap (·.known) ∧
      last.flagged = w.flagged ++ (looks w.seen place vs).flatMap (·.flagged) ∧
      last.seen = seenAfter w.seen (vs.map idOf?) := by
  induction vs generalizing w place with
  | nil =>
    obtain rfl := Except.ok.inj h
    simp [looks, seenAfter]
  | cons v vs ih =>
    obtain ⟨next, hstep, hsteps⟩ := checkSteps_cons_eq_ok h
    obtain ⟨hproblems, hknown, hflagged, hseen⟩ := checkStep_eq_ok hstep
    obtain ⟨hproblems', hknown', hflagged', hseen'⟩ := ih hsteps
    rw [hproblems', hknown', hflagged', hseen', hproblems, hknown, hflagged, hseen]
    simp [looks, seenAfter]

theorem getElem?_looks {vs : List Value} {i : ℕ} {v : Value} (hv : vs[i]? = some v) (seen : List String)
    (place : ℕ) :
    (looks seen place vs)[i]? = some (look (seenAfter seen ((vs.map idOf?).take i)) v (place + i)) := by
  induction vs generalizing seen place i with
  | nil => cases hv
  | cons head vs ih =>
    cases i with
    | zero =>
      obtain rfl : head = v := Option.some.inj hv
      rfl
    | succ i =>
      rw [looks, List.getElem?_cons_succ, ih hv, Nat.add_right_comm, Nat.add_assoc]
      rfl

theorem mem_flagged_looks {vs : List Value} {seen : List String} {place n : ℕ} :
    n ∈ (looks seen place vs).flatMap (·.flagged) ↔
      ∃ i a, n = place + i ∧ (looks seen place vs)[i]? = some a ∧ a.problems ≠ [] := by
  induction vs generalizing seen place with
  | nil => simp [looks]
  | cons v vs ih =>
    rw [looks, List.flatMap_cons, List.mem_append, ih, flagged_look]
    constructor
    · rintro (h | ⟨i, a, rfl, ha, hne⟩)
      · split_ifs at h with hnone
        · cases h
        · exact ⟨0, _, List.mem_singleton.mp h, rfl, by simpa using hnone⟩
      · exact ⟨i + 1, a, by omega, ha, hne⟩
    · rintro ⟨i, a, rfl, ha, hne⟩
      cases i with
      | zero =>
        obtain rfl := Option.some.inj ha
        exact .inl (by simp [hne])
      | succ i => exact .inr ⟨i, a, by omega, ha, hne⟩

/-- A step is flagged exactly if its own checks found something. -/
theorem contains_flagged_looks {vs : List Value} {i : ℕ} {a : Walk} (ha : (looks [] 0 vs)[i]? = some a) :
    ((looks [] 0 vs).flatMap (·.flagged)).contains i = !a.problems.isEmpty := by
  rw [Bool.eq_iff_iff, List.contains_iff_mem, mem_flagged_looks]
  constructor
  · rintro ⟨j, b, hj, hb, hne⟩
    obtain rfl : i = j := by omega
    obtain rfl := Option.some.inj (ha.symm.trans hb)
    simpa using hne
  · intro hne
    exact ⟨i, a, (Nat.zero_add i).symm, ha, by simpa using hne⟩

/-! ## Findings with their places -/

/-- The findings of each step in turn with the place of the step. -/
def tagged (place : ℕ) : List (List Finding) → List (Option ℕ × Finding)
  | [] => []
  | fs :: rest => fs.map (some place, ·) ++ tagged (place + 1) rest

/-- The step below which an error of a field is told. -/
def placeOf? (e : FieldError) : Option ℕ :=
  match e.path with
  | .name "steps" :: .index (.ofNat i) :: _ => some i
  | _ => none

/-- The problems of a document with steps in the order of its report, each with the place of the step for which it
is reported; those of the document as a whole have none. -/
def located (doc : Value) : List (Option ℕ × Finding) :=
  let vs := stepsOf doc
  let found := looks [] 0 vs
  let seen := seenAfter [] (vs.map idOf?)
  let flagged := found.flatMap (·.flagged)
  (nameFindings doc ++ variablesFindings doc).map (none, ·) ++ tagged 0 (found.map (·.problems)) ++
    tagged 0 (found.map fun a => a.known.flatMap (danglingOf seen)) ++
    (Workflow.ofValue (Workflow.normalized doc)).errors.flatMap fun e =>
      (findingOf vs flagged e).map (placeOf? e, ·)

/-- The findings for the step at a place. -/
def ofPlace (i : ℕ) (fs : List (Option ℕ × Finding)) : List Finding := (fs.filter (·.1 = some i)).map (·.2)

/-- The problems that are reported for the step at a place: those of its own checks, its references to steps that do
not exist, and its field errors. -/
def problemsAt (doc : Value) (i : ℕ) : List Finding := ofPlace i (located doc)

theorem map_snd_tagged (f : Walk → List Finding) (found : List Walk) (place : ℕ) :
    (tagged place (found.map f)).map (·.2) = found.flatMap f := by
  induction found generalizing place with
  | nil => rfl
  | cons a found ih => simp [tagged, ih, Function.comp_def]

@[simp] theorem ofPlace_append (i : ℕ) (fs gs : List (Option ℕ × Finding)) :
    ofPlace i (fs ++ gs) = ofPlace i fs ++ ofPlace i gs := by
  simp [ofPlace]

theorem ofPlace_map (i : ℕ) (place : Option ℕ) (fs : List Finding) :
    ofPlace i (fs.map (place, ·)) = if place = some i then fs else [] := by
  unfold ofPlace
  split_ifs with h <;> simp [h, List.filter_map, Function.comp_def]

/-- The member at a place of a list whose first member is at another place. -/
def memberAt {α : Type} (first : ℕ) (xs : List α) (i : ℕ) : Option α := if first ≤ i then xs[i - first]? else none

@[simp] theorem memberAt_nil {α : Type} (first i : ℕ) : memberAt first ([] : List α) i = none := by simp [memberAt]

@[simp] theorem memberAt_zero {α : Type} (xs : List α) (i : ℕ) : memberAt 0 xs i = xs[i]? := by simp [memberAt]

theorem memberAt_cons {α : Type} (first : ℕ) (x : α) (xs : List α) (i : ℕ) :
    memberAt first (x :: xs) i = if first = i then some x else memberAt (first + 1) xs i := by
  unfold memberAt
  rcases Nat.lt_trichotomy first i with h | rfl | h
  · have hsub : i - first = (i - (first + 1)) + 1 := by omega
    rw [if_pos h.le, if_neg h.ne, if_pos (Nat.succ_le_of_lt h), hsub, List.getElem?_cons_succ]
  · simp
  · rw [if_neg (not_le.mpr h), if_neg h.ne', if_neg (by omega)]

theorem memberAt_of_lt {α : Type} {first i : ℕ} (h : i < first) (xs : List α) : memberAt first xs i = none :=
  if_neg (not_le.mpr h)

theorem ofPlace_tagged (i place : ℕ) (xss : List (List Finding)) :
    ofPlace i (tagged place xss) = (memberAt place xss i).getD [] := by
  induction xss generalizing place with
  | nil => simp [tagged, ofPlace]
  | cons fs rest ih =>
    rw [tagged, ofPlace_append, ofPlace_map, ih, memberAt_cons]
    by_cases h : place = i
    · simp [h, memberAt_of_lt]
    · simp [h]

/-- A report on a document with steps has what its checks found, the references that lead nowhere and the field
errors. -/
theorem problems_of_ofValue {doc : Value} {r : Report} (h : ofValue doc = .ok r) (hne : stepsOf doc ≠ []) :
    ∃ w, checkSteps { problems := nameFindings doc ++ variablesFindings doc } 0 (stepsOf doc) = .ok w ∧
      r.problems = w.problems ++ w.known.flatMap (danglingOf w.seen) ++ typeFindings doc w.flagged := by
  have hmap : doc.isMap = true := by
    by_contra hmap
    exact hne (stepsOf_eq_nil (by simpa using hmap))
  obtain ⟨vs, hsteps⟩ : ∃ vs, doc.field "steps" = .list vs := by
    unfold stepsOf at hne
    split at hne
    · exact ⟨_, ‹_›⟩
    · exact absurd rfl hne
  have hvs : stepsOf doc = vs := by rw [stepsOf, hsteps]
  rw [hvs] at hne ⊢
  unfold ofValue at h
  cases hhints : hintsFor doc with
  | error e =>
    rw [hhints] at h
    cases h
  | ok hints =>
    simp only [hhints, hmap, Bool.not_true, Bool.false_eq_true, if_false, hsteps] at h
    cases vs with
    | nil => exact absurd rfl hne
    | cons v vs =>
      split at h
      · cases h
      · rename_i w hw
        obtain rfl := Except.ok.inj h
        exact ⟨w, hw, rfl⟩

/-- A report on a document with steps has the located problems, in their order. -/
theorem problems_eq_located {doc : Value} {r : Report} (h : ofValue doc = .ok r) (hne : stepsOf doc ≠ []) :
    r.problems = (located doc).map (·.2) := by
  obtain ⟨w, hw, hproblems⟩ := problems_of_ofValue h hne
  have htyped : typeFindings doc w.flagged =
      (Workflow.ofValue (Workflow.normalized doc)).errors.flatMap (findingOf (stepsOf doc) w.flagged) := by
    unfold typeFindings
    cases Workflow.ofValue (Workflow.normalized doc) <;> rfl
  obtain ⟨hfound, hknown, hflagged, hseen⟩ := checkSteps_eq_ok hw
  rw [hproblems, htyped, hfound, hknown, hflagged, hseen]
  unfold located
  simp [map_snd_tagged, List.map_flatMap, List.flatMap_assoc, Function.comp_def]

/-! ## Field errors by their places -/

/-- The errors of a step's fields, as they are told below its place. -/
def stepErrors (v : Value) (i : ℕ) : List FieldError :=
  (Step.ofValue v).errors.map fun e => (e.at_ (.index (Int.ofNat i))).at_ (.name "steps")

theorem placeOf?_at (e : FieldError) (place : ℕ) :
    placeOf? ((e.at_ (.index (Int.ofNat place))).at_ (.name "steps")) = some place := rfl

/-- An error that is told below another field of the document is of no step. -/
theorem placeOf?_eq_none {e : FieldError} {name : String} {rest : List PathPart} (hpath : e.path = .name name :: rest)
    (hname : name ≠ "steps") : placeOf? e = none := by
  unfold placeOf?
  rw [hpath]
  split
  · rename_i heq
    exact absurd (PathPart.name.inj (List.cons.inj heq).1) hname
  · rfl

theorem filter_stepErrors (v : Value) (place i : ℕ) :
    ((stepErrors v place).filter fun e => placeOf? e = some i) = if place = i then stepErrors v i else [] := by
  have hplace : ∀ e ∈ stepErrors v place, placeOf? e = some place := by
    intro e he
    obtain ⟨inner, -, rfl⟩ := List.mem_map.mp he
    exact placeOf?_at inner place
  split_ifs with h
  · rw [← h]
    exact List.filter_eq_self.mpr fun e he => decide_eq_true (hplace e he)
  · refine List.filter_eq_nil_iff.mpr fun e he => ?_
    rw [hplace e he]
    simpa using h

/-- Of the errors of a list of steps those of the step at a place are its own. -/
theorem filter_items_errors (vs : List Value) (place i : ℕ) :
    (((items Step.ofValue place vs).errors.map (·.at_ (.name "steps"))).filter fun e => placeOf? e = some i) =
      ((memberAt place vs i).map (stepErrors · i)).getD [] := by
  induction vs generalizing place with
  | nil => simp [items]
  | cons v vs ih =>
    rw [items, errors_ap, errors_map, errors_below, List.map_append, List.map_map, List.filter_append, ih]
    change ((stepErrors v place).filter _) ++ _ = _
    rw [filter_stepErrors, memberAt_cons]
    by_cases h : place = i
    · simp [h, memberAt_of_lt]
    · simp [h]

/-- An error of a field is told below the name of the field. -/
theorem path_of_mem_required {α : Type} {read : Value → Checked α} {v : Value} {name : String} {e : FieldError}
    (h : e ∈ (required v [name] read).errors) : ∃ rest, e.path = .name name :: rest := by
  unfold required at h
  rw [under?_single] at h
  cases hget : v.get? name with
  | none =>
    rw [hget] at h
    obtain rfl := List.mem_singleton.mp h
    exact ⟨[], rfl⟩
  | some w =>
    rw [hget] at h
    obtain ⟨inner, -, rfl⟩ := List.mem_map.mp ((errors_below (.name name) (read w)) ▸ h)
    exact ⟨inner.path, rfl⟩

theorem filter_eq_nil_of_name {es : List FieldError} {name : String} (hname : name ≠ "steps")
    (h : ∀ e ∈ es, ∃ rest, e.path = .name name :: rest) (i : ℕ) : (es.filter fun e => placeOf? e = some i) = [] := by
  refine List.filter_eq_nil_iff.mpr fun e he => ?_
  obtain ⟨rest, hpath⟩ := h e he
  simp [placeOf?_eq_none hpath hname]

theorem filter_withDefault_errors {α : Type} (read : Value → Checked α) (default : α) (doc : Value) {name : String}
    (hname : name ≠ "steps") (i : ℕ) :
    ((withDefault doc [name] read default).errors.filter fun e => placeOf? e = some i) = [] := by
  refine filter_eq_nil_of_name hname (fun e he => ?_) i
  obtain ⟨other, hmem, rest, hpath⟩ := path_of_mem_withDefault he
  exact ⟨rest, List.mem_singleton.mp hmem ▸ hpath⟩

/-- Of the field errors of a document those of the step at a place are the errors of this step alone. -/
theorem filter_errors {doc v : Value} {i : ℕ} (hv : (stepsOf doc)[i]? = some v) :
    ((Workflow.ofValue (Workflow.normalized doc)).errors.filter fun e => placeOf? e = some i) = stepErrors v i := by
  obtain ⟨vs, hsteps⟩ : ∃ vs, doc.field "steps" = .list vs := by
    unfold stepsOf at hv
    split at hv
    · exact ⟨_, ‹_›⟩
    · cases hv
  have hvs : stepsOf doc = vs := by rw [stepsOf, hsteps]
  have hget := Workflow.get?_normalized doc "steps" (by decide) (by decide)
  rw [Workflow.field_eq_get? hsteps (by simp)] at hget
  obtain ⟨ns, hns⟩ : ∃ ns, Workflow.normalized doc = .map ns := by
    cases hdoc : Workflow.normalized doc with
    | map ns => exact ⟨ns, rfl⟩
    | _ =>
      rw [hdoc] at hget
      cases hget
  rw [hns] at hget ⊢
  have hsteps' : (required (.map ns) ["steps"] (tuple Step.ofValue)).errors =
      (items Step.ofValue 0 vs).errors.map (·.at_ (.name "steps")) := by
    unfold required
    rw [under?_single, hget]
    exact errors_below _ _
  have hname := filter_eq_nil_of_name (show "name" ≠ "steps" by decide)
    (fun e => @path_of_mem_required String text (.map ns) "name" e) i
  rw [Workflow.errors_ofValue, hsteps']
  simp only [List.filter_append, filter_items_errors, memberAt_zero, ← hvs, hv, hname, maybe,
    filter_withDefault_errors _ _ _ (show "description" ≠ "steps" by decide),
    filter_withDefault_errors _ _ _ (show "version" ≠ "steps" by decide),
    filter_withDefault_errors _ _ _ (show "interactive" ≠ "steps" by decide),
    filter_withDefault_errors _ _ _ (show "persistent" ≠ "steps" by decide),
    filter_withDefault_errors _ _ _ (show "variables" ≠ "steps" by decide), List.nil_append, Option.map_some,
    Option.getD_some]

/-! ## What is reported for a step -/

/-- The problem that an error of a step's field is. -/
def stepFinding (v : Value) (e : FieldError) : Finding :=
  let name := pathText (e.path.drop 1) "step"
  ⟨"Step " ++ (v.field "id").display ++ " field " ++ name ++ ": " ++ e.message,
    "fix the value of `" ++ name ++ "`; quote values YAML would read as numbers or lists", v.field "id"⟩

/-- The problems of a step at a place among steps with the given ids. -/
def problemsOf (ids : List (Option String)) (v : Value) (i : ℕ) : List Finding :=
  let found := look (seenAfter [] (ids.take i)) v i
  found.problems ++ found.known.flatMap (danglingOf (seenAfter [] ids)) ++
    if found.problems.isEmpty then (Step.ofValue v).errors.map (stepFinding v) else []

theorem findingOf_at {vs : List Value} {v : Value} {i : ℕ} (hv : vs[i]? = some v) (flagged : List ℕ) (e : FieldError) :
    findingOf vs flagged ((e.at_ (.index (Int.ofNat i))).at_ (.name "steps")) =
      if flagged.contains i then [] else [stepFinding v e] := by
  have hat : v = vs[i]?.getD .null := by rw [hv]; rfl
  subst hat
  rfl

theorem flatMap_findingOf_stepErrors {vs : List Value} {v : Value} {i : ℕ} (hv : vs[i]? = some v) (flagged : List ℕ) :
    (stepErrors v i).flatMap (findingOf vs flagged) =
      if flagged.contains i then [] else (Step.ofValue v).errors.map (stepFinding v) := by
  unfold stepErrors
  rw [List.flatMap_map]
  simp only [findingOf_at hv]
  split_ifs
  · exact List.flatMap_eq_nil_iff.mpr fun _ _ => rfl
  · exact List.flatMap_pure_eq_map _ _

theorem ofPlace_flatMap (i : ℕ) (es : List FieldError) (find : FieldError → List Finding) :
    ofPlace i (es.flatMap fun e => (find e).map (placeOf? e, ·)) =
      (es.filter fun e => placeOf? e = some i).flatMap find := by
  induction es with
  | nil => rfl
  | cons e es ih =>
    rw [List.flatMap_cons, ofPlace_append, ofPlace_map, ih, List.filter_cons]
    by_cases h : placeOf? e = some i <;> simp [h]

/-- What is reported for a step depends on the step, its place and the ids of all steps only. -/
theorem problemsAt_eq {doc v : Value} {i : ℕ} (hv : (stepsOf doc)[i]? = some v) :
    problemsAt doc i = problemsOf ((stepsOf doc).map idOf?) v i := by
  have hlook := getElem?_looks hv [] 0
  rw [Nat.zero_add] at hlook
  unfold problemsAt located problemsOf
  simp only [ofPlace_append, ofPlace_map, ofPlace_tagged, ofPlace_flatMap, memberAt_zero, List.getElem?_map, hlook,
    filter_errors hv, flatMap_findingOf_stepErrors hv, contains_flagged_looks hlook, reduceCtorEq, if_false,
    List.nil_append, Option.map_some, Option.getD_some]
  cases (look (seenAfter [] (((stepsOf doc).map idOf?).take i)) v i).problems <;> rfl

/-- In reports on two documents whose steps have the same ids, the problems that are reported for a step that both
have at one place are the same and in the same order, whatever else is wrong with the documents. -/
theorem no_problem_is_masked {doc doc' : Value} {r r' : Report} (h : ofValue doc = .ok r) (h' : ofValue doc' = .ok r')
    (hids : (stepsOf doc).map idOf? = (stepsOf doc').map idOf?) {i : ℕ} {v : Value}
    (hv : (stepsOf doc)[i]? = some v) (hv' : (stepsOf doc')[i]? = some v) :
    r.problems = (located doc).map (·.2) ∧ r'.problems = (located doc').map (·.2) ∧
      problemsAt doc i = problemsAt doc' i := by
  have hne {d : Value} (hd : (stepsOf d)[i]? = some v) : stepsOf d ≠ [] := by
    intro hnil
    rw [hnil] at hd
    cases hd
  refine ⟨problems_eq_located h (hne hv), problems_eq_located h' (hne hv'), ?_⟩
  rw [problemsAt_eq hv, problemsAt_eq hv', hids]

/-- A loop with a target that does not exist and a description that is no text. -/
def strayLoop : Value := .obj [
  ("id", .text "b"), ("action", .text "loop"), ("to", .text "nowhere"), ("condition", .text "again"),
  ("description", .int 5)]

/-- The loop after another step, in a workflow with the given name. -/
def beforeStrayLoop (name step : Value) : Value := .obj [("name", name), ("steps", .list [step, strayLoop])]

/-- A workflow of which nothing but the loop is wrong. -/
def strayAlone : Value :=
  beforeStrayLoop (.text "demo") (.obj [("id", .text "a"), ("action", .text "shell"), ("command", .text "ls")])

/-- A workflow without a name whose other step has no command and a description of its own that is no text. -/
def strayAmongOthers : Value :=
  beforeStrayLoop .null (.obj [("id", .text "a"), ("action", .text "shell"), ("description", .int 6)])

/-- Both problems of the loop are reported beside those of the other step and of the document. -/
theorem stray_loop_is_not_masked :
    ∃ r r', (ofValue strayAlone = .ok r ∧ r.problems.length = 2) ∧
      (ofValue strayAmongOthers = .ok r' ∧ r'.problems.length = 4) ∧
      (stepsOf strayAlone).map idOf? = (stepsOf strayAmongOthers).map idOf? ∧
      (stepsOf strayAlone)[1]? = some strayLoop ∧ (stepsOf strayAmongOthers)[1]? = some strayLoop ∧
      (problemsAt strayAlone 1).length = 2 ∧
      (r.problems = (located strayAlone).map (·.2) ∧ r'.problems = (located strayAmongOthers).map (·.2) ∧
        problemsAt strayAlone 1 = problemsAt strayAmongOthers 1) := by
  have hreport : ∃ r, ofValue strayAlone = .ok r ∧ r.problems.length = 2 := ⟨_, rfl, rfl⟩
  have hreport' : ∃ r, ofValue strayAmongOthers = .ok r ∧ r.problems.length = 4 := ⟨_, rfl, rfl⟩
  obtain ⟨r, hr⟩ := hreport
  obtain ⟨r', hr'⟩ := hreport'
  exact ⟨r, r', hr, hr', rfl, rfl, rfl, rfl, no_problem_is_masked hr.1 hr'.1 rfl (i := 1) (v := strayLoop) rfl rfl⟩

end Runbook.Report
