import Runbook.Proofs.Manager.Isolation

/-! Requests that are refused, or that have nothing to do. They change no file and ask no collaborator, and an answer
that is rejected leaves the session in memory as it was. -/

namespace Runbook

open Repository

variable {γ : Type} {m : Manager γ} {w : Workflow} {d s t : Session} {key : SessionKey} {x : World γ}

/-! ## Files that are there -/

namespace Repository

variable {store : Store} {f : Files} {path : String}

/-- There is something in the place of the file of a session, whatever it holds. -/
def IsTaken (store : Store) (f : Files) (key : SessionKey) : Prop :=
  ∃ path node, key.path = .ok path ∧ f.stat ⟨true, store.placeBelow f path⟩ = .ok node

/-- There is nothing in that place. -/
def IsMissing (store : Store) (f : Files) (key : SessionKey) : Prop :=
  ∃ path place i, key.path = .ok path ∧ store.placeOf f path = .ok place ∧ f.stat ⟨true, place⟩ = .error i ∧
    i.kind = .fileMissing

/-- The fault does not say that there is no session. -/
def IsOther : Fault → Prop
  | .failure f => f.kind ≠ .sessionNotFound
  | _ => True

theorem isOther_unreadable {i : Incident} (h : i.kind ≠ .fileMissing) : IsOther (unreadable key (.incident i)) := by
  unfold unreadable
  dsimp only
  rw [if_neg h]
  split_ifs
  · exact nofun
  · trivial

theorem isOther_fault (key : SessionKey) (damage : Damage) : IsOther (damage.fault key) := by
  cases damage with
  | hugeInteger => trivial
  | _ => exact fun h => nomatch h

/-- A file that is there is read, or what stands in the way is not that it is missing. -/
theorem read_eq_error {node : FileNode} (hstat : f.stat ⟨true, store.placeBelow f path⟩ = .ok node) {e : Fault}
    (h : store.read f path = .error e) : ∃ i, e = .incident i ∧ i.kind ≠ .fileMissing := by
  unfold Store.read at h
  cases hplace : store.placeOf f path with
  | error g =>
    rw [hplace] at h
    obtain rfl := Except.error.inj h
    rcases Store.fault_of_placeOf hplace with rfl | rfl <;> exact ⟨_, rfl, fun h => nomatch h⟩
  | ok place =>
    obtain rfl := (Store.placeOf_eq_ok hplace).1
    simp only [hplace, bind, Except.bind, Files.read, hstat] at h
    cases node with
    | file content => cases h
    | directory =>
      obtain rfl := Except.error.inj h
      exact ⟨_, rfl, fun h => nomatch h⟩

/-- A session whose id is no id, or whose file is there, is not said to be missing. -/
theorem isOther_of_load {now : String} {e : Fault} (h : SessionKey.isValidId key.id = false ∨ IsTaken store f key)
    (hload : load store f now key = .error e) : IsOther e := by
  unfold load at hload
  rcases h with hid | ⟨path, node, hpath, hstat⟩
  · unfold SessionKey.path at hload
    rw [hid, if_neg Bool.false_ne_true] at hload
    obtain rfl := Except.error.inj hload
    exact fun h => nomatch h
  · rw [hpath] at hload
    cases hread : store.read f path with
    | error g =>
      obtain ⟨i, rfl, hi⟩ := read_eq_error hstat hread
      simp only [bind, Except.bind, hread, Except.mapError] at hload
      obtain rfl := Except.error.inj hload
      exact isOther_unreadable hi
    | ok bytes =>
      simp only [bind, Except.bind, hread, Except.mapError] at hload
      cases hdecode : decode now bytes with
      | error damage =>
        rw [hdecode] at hload
        obtain rfl := Except.error.inj hload
        exact isOther_fault key damage
      | ok s =>
        rw [hdecode] at hload
        dsimp only at hload
        split_ifs at hload
        · cases hload
        · obtain rfl := Except.error.inj hload
          exact fun h => nomatch h

end Repository

/-! ## Answers in memory -/

namespace Engine

variable {σ : Type} {e : Engine σ} {step : Step} {q : Question} {answer : Value} {f : Fault}

/-- An answer to the question at which a session is paused, written into the session one field after the other. -/
def answerInPlace (e : Engine σ) (w : Workflow) (answer : Value) : Act Session Unit := do
  let s ← get
  match stepOf? w s with
  | some step =>
    match step.task, s.paused with
    | .interactive q, true =>
      let value ← Act.ofExcept (q.accept step.id answer)
      let shown := if q.inputType = .password then .text maskedAnswer else value
      let name := Step.answerVariable step.id q
      Act.change fun s => { s with «variables» := s.variables.set name value }
      Act.change fun s => s.record {
        stepId := step.id
        action := step.action
        success := true
        output := .obj [("answer", shown), ("variable", .text name)]
        timestamp := e.now } e.now
      Act.change fun s => s.moveTo (w.nextStepId? step.id) e.now
    | _, _ => throw (notWaiting w s)
  | none => throw (notWaiting w s)

/-- A rejected answer has written nothing when it is rejected. -/
theorem answerInPlace_apply (e : Engine σ) (w : Workflow) (answer : Value) (s : Session) :
    e.answerInPlace w answer s =
      match e.answered w s answer with
      | .ok t => (.ok (), t)
      | .error f => (.error f, s) := by
  have hget : (get : Act Session Session) s = (.ok s, s) := rfl
  unfold answerInPlace answered
  rw [Act.bind_ok hget]
  cases hstep : stepOf? w s with
  | none => rfl
  | some step =>
    dsimp only
    cases htask : step.task with
    | interactive q =>
      cases s.paused with
      | false => rfl
      | true =>
        dsimp only
        rw [Act.bind_apply, Act.ofExcept_apply]
        cases q.accept step.id answer <;> rfl
    | _ => rfl

/-- The session is paused at the question of a step. -/
def WaitsAt (w : Workflow) (s : Session) (step : Step) (q : Question) : Prop :=
  stepOf? w s = some step ∧ step.task = .interactive q ∧ s.paused = true

theorem answered_of_not_waitsAt (h : ∀ step q, ¬WaitsAt w s step q) (answer : Value) :
    e.answered w s answer = .error (notWaiting w s) := by
  unfold answered
  split
  · rename_i step hstep
    split
    · rename_i q htask hpaused
      exact absurd ⟨hstep, htask, hpaused⟩ (h step q)
    · rfl
  · rfl

theorem answered_of_rejected (h : WaitsAt w s step q) (hf : q.accept step.id answer = .error f) :
    e.answered w s answer = .error f := by
  obtain ⟨hstep, htask, hpaused⟩ := h
  unfold answered
  rw [hstep]
  dsimp only
  rw [htask, hpaused]
  dsimp only
  rw [hf]
  rfl

end Engine

/-! ## Requests -/

namespace Manager

/-- The fault with which a start under a key that is not free ends. -/
def refusal (m : Manager γ) (now : String) (w : Workflow) (key : SessionKey) (f : Files) : Fault :=
  match load m.store f now key with
  | .ok _ => alreadyThere w key
  | .error e => e

/-- The requests that are refused in a world, or that have nothing to do there, with their results. -/
inductive Refused (m : Manager γ) (x : World γ) : Call → Except Fault (Option Session) → Prop where
  | taken {now : String} {w : Workflow} {given : Bindings} {id : String} {token : Token}
      (h : SessionKey.isValidId id = false ∨ IsTaken m.store x.files ⟨w.name, id⟩) :
      Refused m x (.start now w given (some id) token) (.error (m.refusal now w ⟨w.name, id⟩ x.files))
  | named {now name : String} {w : Workflow} {given : Bindings} {asked : Option String} {token : Token}
      {r : Except Fault (Option Session)} (hget : Library.get x.files m.directories name = .ok w)
      (h : Refused m x (.start now w given asked token) r) : Refused m x (.startNamed now name given asked token) r
  | unloaded {now : String} {key : SessionKey} {answer : Option Value} {token : Token} {f : Fault}
      (hload : load m.store x.files now key = .error f) : Refused m x (.resume now key answer token) (.error f)
  | lost {now : String} {key : SessionKey} {answer : Option Value} {token : Token} {d : Session} {f : Fault}
      (hload : load m.store x.files now key = .ok d) (hget : Library.get x.files m.directories d.name = .error f) :
      Refused m x (.resume now key answer token) (.error f)
  | unasked {now : String} {key : SessionKey} {answer : Value} {token : Token} {d : Session} {w : Workflow}
      (hload : load m.store x.files now key = .ok d) (hget : Library.get x.files m.directories d.name = .ok w)
      (hopen : d.completed = false) (hwaits : ∀ step q, ¬Engine.WaitsAt w d step q) :
      Refused m x (.resume now key (some answer) token) (.error (Engine.notWaiting w d))
  | rejected {now : String} {key : SessionKey} {answer : Value} {token : Token} {d : Session} {w : Workflow}
      {step : Step} {q : Question} {f : Fault} (hload : load m.store x.files now key = .ok d)
      (hget : Library.get x.files m.directories d.name = .ok w) (hopen : d.completed = false)
      (hwaits : Engine.WaitsAt w d step q) (hf : q.accept step.id answer = .error f) :
      Refused m x (.resume now key (some answer) token) (.error f)
  | completed {now : String} {key : SessionKey} {answer : Option Value} {token : Token} {d : Session} {w : Workflow}
      (hload : load m.store x.files now key = .ok d) (hget : Library.get x.files m.directories d.name = .ok w)
      (hdone : d.completed = true) : Refused m x (.resume now key answer token) (.ok (some d))
  | missing {key : SessionKey} (h : IsMissing m.store x.files key) :
      Refused m x (.abandon key) (.error (.failure (notFound key none none)))

/-- A key is not free if it has no valid id or its file is there. -/
theorem checkFree_of_taken {now : String} {id : String}
    (h : SessionKey.isValidId id = false ∨ IsTaken m.store x.files ⟨w.name, id⟩) :
    m.checkFree now w ⟨w.name, id⟩ x = (.error (m.refusal now w ⟨w.name, id⟩ x.files), x) := by
  unfold checkFree refusal
  rw [Act.bind_apply, Act.observe_apply]
  unfold loadSession ofFiles
  dsimp only
  cases hload : load m.store x.files now ⟨w.name, id⟩ with
  | ok s => rfl
  | error f =>
    have hother : IsOther f := by
      refine isOther_of_load ?_ hload
      exact h
    cases f with
    | failure f =>
      dsimp only
      rw [if_neg hother]
      rfl
    | incident i => rfl
    | schema e => rfl

theorem start_of_taken {now : String} {given : Bindings} {id : String} {token : Token}
    (h : SessionKey.isValidId id = false ∨ IsTaken m.store x.files ⟨w.name, id⟩) :
    m.start now w given (some id) token x = (.error (m.refusal now w ⟨w.name, id⟩ x.files), x) := by
  unfold start
  dsimp only
  rw [Act.bind_error (checkFree_of_taken h)]

theorem abandon_of_missing (h : IsMissing m.store x.files key) :
    m.abandon key x = (.error (.failure (notFound key none none)), x) := by
  obtain ⟨path, place, i, hpath, hplace, hstat, hi⟩ := h
  have hdelete : m.delete key x = (.ok false, x) := by
    unfold delete World.onFiles
    rw [Act.within_apply, Repository.delete_apply, hpath]
    dsimp only
    rw [Store.delete_apply, hplace]
    dsimp only
    rw [hstat]
    dsimp only
    rw [if_pos hi]
  unfold abandon
  rw [Act.bind_ok hdelete]
  rfl

/-! ## What refused requests leave -/

section Calls

variable {now name : String} {given : Bindings} {asked : Option String} {answer : Option Value} {token : Token}
  {st : Standing} {f : Fault} {y : World γ}

theorem perform_start_of_error (h : m.start now w given asked token x = (.error f, y)) :
    (Call.start now w given asked token).perform m x = (.error f, y) := by
  rw [Call.perform, Act.bind_error h]

/-- A start by name is one of the workflow that has the name. -/
theorem perform_startNamed (hget : Library.get x.files m.directories name = .ok w) :
    (Call.startNamed now name given asked token).perform m x = (Call.start now w given asked token).perform m x := by
  rw [Call.perform, Call.perform, Call.bind_pure_apply, Call.bind_pure_apply, startNamed_apply, hget]

theorem perform_resume_of_error (h : m.resume now key answer token x = (.error f, y)) :
    (Call.resume now key answer token).perform m x = (.error f, y) := by
  rw [Call.perform, Act.bind_error h]

theorem perform_resume_of_ok (h : m.resume now key answer token x = (.ok st, y)) :
    (Call.resume now key answer token).perform m x = (.ok (some st.session), y) := by
  rw [Call.perform, Act.bind_ok h, Act.pure_apply]

theorem perform_abandon_of_error (h : m.abandon key x = (.error f, y)) :
    (Call.abandon key).perform m x = (.error f, y) := by
  rw [Call.perform, Act.bind_error h]

theorem resume_of_unloaded (hload : load m.store x.files now key = .error f) :
    m.resume now key answer token x = (.error f, x) := by
  rw [resume_apply, hload]

theorem resume_of_lost (hload : load m.store x.files now key = .ok d)
    (hget : Library.get x.files m.directories d.name = .error f) :
    m.resume now key answer token x = (.error f, x) := by
  rw [resume_apply, hload]
  dsimp only
  rw [hget]

end Calls

/-- Refused requests move nothing but the token of the operation, whatever the collaborators are. -/
theorem Refused.perform {c : Call} {r : Except Fault (Option Session)} (h : m.Refused x c r) :
    ∃ token, ∀ (v : Services (World γ)) (newId : Act (World γ) String),
      c.perform { m with services := v, newId := newId } x = (r, { x with token }) := by
  induction h with
  | taken h => exact ⟨x.token, fun v newId => perform_start_of_error (start_of_taken h)⟩
  | named hget h ih =>
    obtain ⟨token, hperform⟩ := ih
    refine ⟨token, fun v newId => ?_⟩
    rw [perform_startNamed (m := { m with services := v, newId := newId }) hget]
    exact hperform v newId
  | unloaded hload => exact ⟨x.token, fun v newId => perform_resume_of_error (resume_of_unloaded hload)⟩
  | lost hload hget => exact ⟨x.token, fun v newId => perform_resume_of_error (resume_of_lost hload hget)⟩
  | @unasked now key answer token d w hload hget hopen hwaits =>
    refine ⟨token, fun v newId => perform_resume_of_error ?_⟩
    refine resume_of_refused (m := { m with services := v, newId := newId }) hload hget hopen ?_
    exact Engine.answered_of_not_waitsAt hwaits answer
  | @rejected now key answer token d w step q f hload hget hopen hwaits hf =>
    refine ⟨token, fun v newId => perform_resume_of_error ?_⟩
    refine resume_of_refused (m := { m with services := v, newId := newId }) hload hget hopen ?_
    exact Engine.answered_of_rejected hwaits hf
  | @completed now key answer token d w hload hget hdone =>
    refine ⟨token, fun v newId => ?_⟩
    exact perform_resume_of_ok (resume_of_completed (m := { m with services := v, newId := newId }) hload hget hdone)
  | missing h => exact ⟨x.token, fun v newId => perform_abandon_of_error (abandon_of_missing h)⟩

/-- Whatever the files hold and whatever the collaborators are, a request that is refused or has nothing to do moves
nothing but the token of the operation. An answer that is rejected leaves the session in memory as it was. -/
theorem refused_changes_nothing :
    (∀ (c : Call) (r : Except Fault (Option Session)), m.Refused x c r →
      ∃ token, ∀ (v : Services (World γ)) (newId : Act (World γ) String),
        c.perform { m with services := v, newId := newId } x = (r, { x with token })) ∧
    ∀ (e : Engine (World γ)) (w : Workflow) (s : Session) (answer : Value) (f : Fault), s.completed = false →
      e.answered w s answer = .error f →
        e.answerInPlace w answer s = (.error f, s) ∧ e.resume w s (some answer) x = (.error f, x) := by
  refine ⟨fun c r h => h.perform, fun e w s answer f hopen hf => ⟨?_, ?_⟩⟩
  · rw [Engine.answerInPlace_apply, hf]
  · have hrefused : e.reopened w s (some answer) = .error f := hf
    rw [Engine.resume_apply, hopen, if_neg Bool.false_ne_true, hrefused]

/-- An empty file where a session should be. -/
def damaged : World Unit where
  files := { nodes := [
    (["state"], .directory), (["state", "demo"], .directory), (["state", "demo", "s.json"], .file [])] }
  partners := ()

/-- No session is started in place of the empty file, and none that has not begun takes an answer. -/
theorem damaged_stays :
    let start : Call := .start "t" .asking [] (some "s") {}
    let s := initial .asking [] "s" "t"
    IsTaken bare.store damaged.files ⟨"demo", "s"⟩ ∧
      (∃ f token, start.perform bare damaged = (.error f, { damaged with token })) ∧
      s.completed = false ∧ (bare.engine "t").answered .asking s (.text "yes") = .error (Engine.notWaiting .asking s) ∧
      (bare.engine "t").answerInPlace .asking (.text "yes") s = (.error (Engine.notWaiting .asking s), s) := by
  intro start s
  have htaken : IsTaken bare.store damaged.files ⟨"demo", "s"⟩ := ⟨"demo/s.json", .file [], rfl, rfl⟩
  have hrejected : (bare.engine "t").answered .asking s (.text "yes") = .error (Engine.notWaiting .asking s) := rfl
  obtain ⟨hcalls, hanswers⟩ := refused_changes_nothing (m := bare) (x := damaged)
  obtain ⟨token, hstart⟩ := hcalls start _ (.taken (.inr htaken))
  exact ⟨htaken, ⟨_, token, hstart bare.services bare.newId⟩, rfl, hrejected,
    (hanswers (bare.engine "t") .asking s (.text "yes") _ rfl hrejected).1⟩

end Manager

end Runbook
