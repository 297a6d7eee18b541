import Mathlib.Tactic
import Runbook.Proofs.Execution.Perform
import Runbook.Proofs.Session.Repository
import Runbook.Workflow.Library

/-! The faults with which saving and loading of sessions and the lookup of workflows end: none of them tells of
a step that does not exist. -/

namespace Runbook

namespace Fault

/-- The fault does not tell of a step that does not exist. -/
def FindsStep : Fault → Prop
  | .failure f => f.kind ≠ .unknownStep
  | _ => True

variable {α β : Type}

/-- Every fault of the result finds its step. -/
abbrev Finds (r : Except Fault α) : Prop := Only FindsStep r

theorem finds_failure {f : Failure} (h : f.kind ≠ .unknownStep) : Finds (.error (.failure f) : Except Fault α) :=
  only_error h

theorem finds_mapM {f : α → Except Fault β} (h : ∀ a, Finds (f a)) (as : List α) : Finds (as.mapM f) := by
  induction as with
  | nil => exact only_ok _
  | cons a as ih =>
    rw [List.mapM_cons]
    exact (h a).bind fun _ => ih.bind fun _ => only_ok _

end Fault

open Fault

/-! ## Documents -/

namespace Value

theorem finds_plainBytes (bs : List UInt8) : Finds (plainBytes bs) := by
  unfold plainBytes
  split
  · exact only_ok _
  · exact only_error trivial

mutual

theorem finds_plainKey : (v : Value) → Finds v.plainKey
  | .text _ => only_ok _
  | .null => only_ok _
  | .bool _ => only_ok _
  | .int _ => only_ok _
  | .num _ => only_ok _
  | .bytes bs => finds_plainBytes bs
  | .date _ => only_ok _
  | .moment _ => only_ok _
  | .tuple xs => by
    unfold plainKey
    have hkeys := finds_plainKeys xs
    cases h : plainKeys xs with
    | ok ks => exact only_ok _
    | error e => exact only_error (hkeys e h)
  | .list _ => only_error trivial
  | .set _ => only_error trivial
  | .map _ => only_error trivial

theorem finds_plainKeys : (vs : List Value) → Finds (plainKeys vs)
  | [] => only_ok _
  | v :: vs => by
    unfold plainKeys
    have hkey := finds_plainKey v
    have hkeys := finds_plainKeys vs
    split
    · exact only_ok _
    · rename_i e he
      exact only_error (hkey e he)
    · rename_i e he _
      exact only_error (hkeys e he)

end

mutual

theorem finds_plain : (v : Value) → Finds v.plain
  | .null => only_ok _
  | .bool _ => only_ok _
  | .int _ => only_ok _
  | .num _ => only_ok _
  | .text _ => only_ok _
  | .bytes bs => (finds_plainBytes bs).map _
  | .date _ => only_ok _
  | .moment _ => only_ok _
  | .list xs => (finds_plainList xs).map _
  | .tuple xs => (finds_plainList xs).map _
  | .set xs => (finds_plainList xs).map _
  | .map es => (finds_plainEntries es).map _

theorem finds_plainList : (vs : List Value) → Finds (plainList vs)
  | [] => only_ok _
  | v :: vs => by
    unfold plainList
    have hvalue := finds_plain v
    split
    · rename_i e he
      exact only_error (hvalue e he)
    · exact (finds_plainList vs).map _

theorem finds_plainEntries : (es : List (Value × Value)) → Finds (plainEntries es)
  | [] => only_ok _
  | (k, v) :: es => by
    unfold plainEntries
    have hkey := finds_plainKey k
    have hvalue := finds_plain v
    split
    · rename_i e he
      exact only_error (hkey e he)
    · rename_i e he _
      exact only_error (hvalue e he)
    · exact (finds_plainEntries es).map _

end

end Value

theorem Session.finds_toValue (s : Session) : Finds s.toValue := by
  have hbindings (b : Bindings) : Finds (Value.plainBindings b) := Value.finds_plain _
  refine (hbindings _).bind fun vars => ?_
  refine Only.bind (finds_mapM (fun (r : StepRecord) => (Value.finds_plain r.output).bind fun _ => only_ok _) _) fun history => ?_
  refine Only.bind ?_ fun error => only_ok _
  cases s.lastError with
  | none => exact only_ok _
  | some b => exact hbindings b

theorem SessionKey.finds_path (k : SessionKey) : Finds k.path := by
  unfold path
  split_ifs
  · exact only_ok _
  · exact finds_failure nofun

/-! ## The store -/

namespace Store

variable (s : Store) (f : Files) (key : String)

theorem finds_placeOf : Finds (s.placeOf f key) := by
  intro e h
  rcases fault_of_placeOf h with rfl | rfl <;> exact trivial

theorem finds_rename (temp place : Place) (data : List UInt8) : Finds (rename temp place data f).1 := by
  rcases rename_cases temp place data f with ⟨i, hrename⟩ | ⟨-, -, hrename⟩
  · rw [hrename]
    exact only_error trivial
  · rw [hrename]
    exact only_ok _

theorem finds_prepare : Finds (prepare .none s key f).1 := by
  have htemporary : Trouble.none.temporary = none := rfl
  rw [prepare_apply, htemporary]
  cases hplace : s.placeOf f key with
  | error e => exact only_error (finds_placeOf s f key e hplace)
  | ok place =>
    dsimp only
    rcases makeParents_cases .none place f with ⟨g, hmade, -⟩ | ⟨i, g, n, hmade, -⟩
    · rw [hmade]
      dsimp only
      split_ifs
      · exact only_error trivial
      · exact only_ok _
    · rw [hmade]
      exact only_error trivial

theorem finds_write (data : List UInt8) : Finds (s.write key data f).1 := by
  have hfinds := finds_prepare s f key
  rw [write_apply]
  rcases hprepare : prepare .none s key f with ⟨r, g⟩
  rw [hprepare] at hfinds
  cases r with
  | error e => exact only_error (hfinds e rfl)
  | ok places => exact finds_rename _ _ _ _

theorem finds_read : Finds (s.read f key) := by
  refine (finds_placeOf s f key).bind fun place => ?_
  cases f.read ⟨true, place⟩ with
  | ok bytes => exact only_ok _
  | error i => exact only_error trivial

end Store

/-! ## Saving and loading -/

namespace Repository

theorem finds_fileText (s : Session) : Finds (fileText s) := by
  refine s.finds_toValue.bind fun doc => ?_
  cases Json.pretty? doc with
  | some text => exact only_ok _
  | none => exact only_error trivial

theorem raises_save (store : Store) (s : Session) : Act.Raises FindsStep Unit (save store s) := by
  intro f
  rw [save_apply]
  cases hpath : s.key.path with
  | error e => exact only_error (s.key.finds_path e hpath)
  | ok path =>
    cases htext : fileText s with
    | error e => exact only_error (finds_fileText s e htext)
    | ok text => exact store.finds_write f path _

theorem findsStep_unreadable (key : SessionKey) {e : Fault} (h : e.FindsStep) : (unreadable key e).FindsStep := by
  unfold unreadable
  split
  · split_ifs
    · exact nofun
    · exact nofun
    · exact h
  · exact h

theorem findsStep_damage (key : SessionKey) (d : Damage) : (d.fault key).FindsStep := by
  cases d with
  | hugeInteger => trivial
  | _ => exact fun h => nomatch h

theorem finds_load (store : Store) (f : Files) (now : String) (key : SessionKey) : Finds (load store f now key) := by
  refine key.finds_path.bind fun path => ?_
  refine Only.bind ?_ fun bytes => ?_
  · cases hread : store.read f path with
    | ok bytes => exact only_ok _
    | error e => exact only_error (findsStep_unreadable key (store.finds_read f path e hread))
  · refine Only.bind ?_ fun s => ?_
    · cases decode now bytes with
      | ok s => exact only_ok _
      | error d => exact only_error (findsStep_damage key d)
    · split_ifs
      · exact only_ok _
      · exact finds_failure nofun

end Repository

/-! ## Workflows -/

theorem Pattern.Flaw.findsStep (flaw : Pattern.Flaw) : flaw.fault.FindsStep := by
  cases flaw <;> trivial

namespace Report

/-! What keeps a document from being checked is an incident, and no failure. -/

variable {Q : Fault → Prop} (hQ : ∀ i, Q (.incident i))

include hQ

theorem only_checkInteractive (v : Value) (label : String) : Only Q (checkInteractive v label) := by
  unfold checkInteractive
  dsimp only
  refine Only.map ?_ _
  unfold checkPattern
  split
  · exact only_ok _
  · split
    · exact only_ok _
    · exact only_ok _
    · rename_i flaw _ _
      exact only_error (by cases flaw <;> exact hQ _)

theorem only_checkFields? {action : String} {v : Value} {label : String} {check : Check}
    (h : checkFields? action v label = some check) : Only Q check := by
  unfold checkFields? at h
  split at h
  all_goals cases h
  all_goals first | exact only_ok _ | exact only_checkInteractive hQ _ _

theorem only_checkAction (v : Value) (label : String) : Only Q (checkAction v label) := by
  unfold checkAction
  split
  · split_ifs
    · exact only_ok _
    · split
      · rename_i check hcheck
        exact (only_checkFields? hQ hcheck).map _
      · exact only_ok _
  · exact only_ok _

theorem only_checkSteps (w : Walk) (place : ℕ) (vs : List Value) : Only Q (checkSteps w place vs) := by
  induction vs generalizing w place with
  | nil => exact only_ok _
  | cons v vs ih =>
    have hstep : Only Q (checkStep w v place) := by
      unfold checkStep
      split_ifs
      · exact only_ok _
      · dsimp only
        split
        · rename_i e he
          exact only_error (only_checkAction hQ _ _ e he)
        · exact only_ok _
    unfold checkSteps
    split
    · rename_i e he
      exact only_error (hstep e he)
    · exact ih _ _

theorem only_hintsFor (doc : Value) : Only Q (hintsFor doc) := by
  unfold hintsFor
  split_ifs
  · exact only_ok _
  · dsimp only
    split
    · exact only_error (hQ _)
    · exact only_ok _

theorem only_ofValue (doc : Value) : Only Q (ofValue doc) := by
  unfold ofValue
  split
  · rename_i e he
    exact only_error (only_hintsFor hQ doc e he)
  · split_ifs
    · exact only_ok _
    · dsimp only
      split
      · exact only_ok _
      · split
        · rename_i e he
          exact only_error (only_checkSteps hQ _ _ _ e he)
        · exact only_ok _
      · exact only_ok _

end Report

theorem Workflow.finds_build (doc : Value) : Finds (build doc) := by
  unfold build
  split
  · rename_i e he
    exact only_error (Report.only_ofValue (fun _ => trivial) doc e he)
  · dsimp only
    split_ifs
    · exact finds_failure nofun
    · split
      · exact only_ok _
      · exact finds_failure nofun

namespace Library

theorem finds_files (f : Files) (dirs : List String) : Finds (files f dirs) := by
  have hincident {α : Type} (r : Except Incident α) : Finds (r.mapError Fault.incident) := by
    cases r with
    | ok a => exact only_ok _
    | error i => exact only_error trivial
  induction dirs with
  | nil => exact only_ok _
  | cons dir dirs ih =>
    refine (hincident _).bind fun dir => Only.bind ?_ fun found => ih.bind fun _ => only_ok _
    unfold filesIn
    dsimp only
    split
    · exact only_ok _
    · split_ifs
      · exact only_ok _
      · exact only_error trivial

theorem finds_document (f : Files) (p : PathName) : Finds (document f p) := by
  unfold document
  split
  · unfold Workflow.documentOf
    split
    · exact only_ok _
    · split_ifs
      · exact finds_failure nofun
      · exact only_error trivial
  · split_ifs
    · exact finds_failure nofun
    · exact only_error trivial

theorem finds_firstNamed (f : Files) (name : String) (ps : List PathName) : Finds (firstNamed f name ps) := by
  induction ps with
  | nil => exact only_ok _
  | cons p ps ih =>
    refine Only.bind ?_ fun named => ?_
    · unfold isNamed
      split
      · exact only_ok _
      · rename_i e he
        split_ifs
        · exact only_ok _
        · exact only_error (finds_document f p e he)
    · split_ifs
      · exact only_ok _
      · exact ih

theorem finds_find? (f : Files) (dirs : List String) (name : String) : Finds (find? f dirs name) := by
  refine (finds_files f dirs).bind fun ps => ?_
  split
  · exact only_ok _
  · exact finds_firstNamed f name ps

theorem finds_get (f : Files) (dirs : List String) (name : String) : Finds (get f dirs name) := by
  refine Only.bind ?_ fun found => ?_
  · refine (finds_find? f dirs name).bind fun found => ?_
    split
    · exact Only.bind ((finds_document f _).bind fun doc => Workflow.finds_build doc) fun _ => only_ok _
    · exact only_ok _
  · split
    · exact only_ok _
    · exact finds_failure nofun

end Library

end Runbook
