import Mathlib.Tactic
import Runbook.Manager
import Runbook.Proofs.Execution.Turn
import Runbook.Proofs.Session.Repository

/-! The operations of a manager in closed form: what they read, what they save and where they hand over to the
engine. What the engines keep, the operations keep. -/

namespace Runbook.Manager

open Repository

variable {γ : Type} {m : Manager γ}

theorem save_apply (m : Manager γ) (s : Session) (x : World γ) :
    m.save s x =
      match Repository.save m.store s x.files with
      | (.ok (), f) => (.ok (), { x with files := f, saves := s :: x.saves })
      | (.error e, f) => (.error e, { x with files := f }) := by
  unfold save World.onFiles
  rw [Act.bind_apply, Act.within_apply]
  obtain ⟨r, f⟩ := Repository.save m.store s x.files
  cases r <;> rfl

/-- A session stands in its file and in the record of what was saved, or the files alone may have changed. -/
theorem save_steps (m : Manager γ) (s : Session) (x : World γ) :
    (∃ f, Repository.save m.store s x.files = (.ok (), f) ∧
      m.save s x = (.ok (), { x with files := f, saves := s :: x.saves })) ∨
    ∃ e f, Repository.save m.store s x.files = (.error e, f) ∧ m.save s x = (.error e, { x with files := f }) := by
  rw [save_apply]
  rcases Repository.save m.store s x.files with ⟨e | u, f⟩
  · exact .inr ⟨e, f, rfl, rfl⟩
  · exact .inl ⟨f, rfl, rfl⟩

theorem save_eq_ok {s : Session} {x y : World γ} (h : m.save s x = (.ok (), y)) :
    Saved m.store s y.files ∧ y.saves = s :: x.saves ∧ y.partners = x.partners := by
  rcases save_steps m s x with ⟨f, hsave, happly⟩ | ⟨e, f, -, happly⟩
  · obtain ⟨-, rfl⟩ := Prod.mk.inj (h.symm.trans happly)
    exact ⟨saved_of_save hsave, rfl, rfl⟩
  · cases (Prod.mk.inj (h.symm.trans happly)).1

theorem save_files {s : Session} {x y : World γ} (h : m.save s x = (.ok (), y)) :
    Repository.save m.store s x.files = (.ok (), y.files) := by
  rcases save_steps m s x with ⟨f, hsave, happly⟩ | ⟨e, f, -, happly⟩
  · obtain ⟨-, rfl⟩ := Prod.mk.inj (h.symm.trans happly)
    exact hsave
  · cases (Prod.mk.inj (h.symm.trans happly)).1

theorem save_eq_error {s : Session} {x y : World γ} {e : Fault} (h : m.save s x = (.error e, y)) :
    x.files.Extends y.files ∧ y.saves = x.saves ∧ y.partners = x.partners := by
  rcases save_steps m s x with ⟨f, -, happly⟩ | ⟨e', f, hsave, happly⟩
  · cases (Prod.mk.inj (h.symm.trans happly)).1
  · obtain ⟨-, rfl⟩ := Prod.mk.inj (h.symm.trans happly)
    exact ⟨extends_of_save_error hsave, rfl, rfl⟩

theorem token_of_save {s : Session} {x y : World γ} {r : Except Fault Unit} (h : m.save s x = (r, y)) :
    y.token = x.token := by
  rcases save_steps m s x with ⟨f, -, happly⟩ | ⟨e, f, -, happly⟩
  · rw [(Prod.mk.inj (h.symm.trans happly)).2]
  · rw [(Prod.mk.inj (h.symm.trans happly)).2]

/-- A session that can be written is saved where the store takes everything. -/
theorem exists_save_of_write {s : Session} {x : World γ} {path : String} (hpath : s.key.path = .ok path)
    (htext : ∃ text, fileText s = .ok text)
    (hwrite : ∀ data, (m.store.write path data x.files).1 = .ok ()) : ∃ y, m.save s x = (.ok (), y) := by
  obtain ⟨text, htext⟩ := htext
  rcases save_steps m s x with ⟨f, -, happly⟩ | ⟨e, f, hsave, -⟩
  · exact ⟨_, happly⟩
  · have hok := hwrite (Text.Utf8.encode text)
    rw [Repository.save_apply, hpath, htext] at hsave
    dsimp only at hsave
    rw [hsave] at hok
    cases hok

/-- An operation that ends with a save shows what is saved. -/
theorem settle_engine (m : Manager γ) (now : String) (w : Workflow) (t : Session × Except Fault Session) (z : World γ) :
    (((m.engine now).settle t z).1.map (Standing.mk w), ((m.engine now).settle t z).2) =
      match m.save t.1 z with
      | (.ok (), u) => (t.2.map (Standing.mk w), u)
      | (.error f, u) => (.error f, u) := by
  have hsave : (m.engine now).save = m.save := rfl
  rw [Engine.settle_apply, hsave]
  rcases m.save t.1 z with ⟨f | v, u⟩ <;> rfl

theorem checkFree_world (m : Manager γ) (now : String) (w : Workflow) (key : SessionKey) (x : World γ) :
    (m.checkFree now w key x).2 = x := by
  unfold checkFree
  rw [Act.bind_apply, Act.observe_apply]
  dsimp only
  cases hload : (m.loadSession now key x).1 with
  | ok s => rfl
  | error f =>
    cases f with
    | failure f =>
      dsimp only
      split_ifs <;> rfl
    | incident i => rfl
    | schema e => rfl

theorem idOr_moves {R : World γ → World γ → Prop} (hrefl : ∀ x, R x x) (h : Act.Moves R String m.newId)
    (asked : Option String) : Act.Moves R String (m.idOr asked) := by
  intro x
  unfold idOr
  split
  · split_ifs
    · exact h x
    · exact hrefl x
  · exact h x

theorem launch_apply (m : Manager γ) (now : String) (w : Workflow) (given : Bindings) (id : String)
    (token : Token) (x : World γ) :
    m.launch now w given id token x =
      let s := initial w given id now
      match s.key.path with
      | .error e => (.error e, x)
      | .ok _ =>
        let y := (m.save s x).2
        match (m.save s x).1 with
        | .error e => (.error e, y)
        | .ok () =>
          let r := (m.engine now).run w s { y with token }
          (r.1.map (⟨w, ·⟩), r.2) := by
  unfold launch
  dsimp only
  cases hpath : (Repository.initial w given id now).key.path with
  | error e => rfl
  | ok path =>
    have hfree : (discard (Act.ofExcept (.ok path : Except Fault String)) : Act (World γ) Unit) x =
        (.ok (), x) := rfl
    rw [Act.bind_ok hfree, Act.bind_apply]
    dsimp only
    cases (m.save (Repository.initial w given id now) x).1 with
    | error e => rfl
    | ok u =>
      dsimp only
      rw [Act.bind_ok (Act.change_apply _ _), Act.bind_apply]
      generalize (m.engine now).run w _ _ = r
      obtain ⟨r, y⟩ := r
      cases r <;> rfl

/-- A session is launched by a save and a run from there. -/
theorem launch_of_saved {now : String} {w : Workflow} {given : Bindings} {id : String} {x y : World γ}
    (hsave : m.save (initial w given id now) x = (.ok (), y)) (token : Token) :
    m.launch now w given id token x =
      (((m.engine now).run w (initial w given id now) { y with token }).1.map (⟨w, ·⟩),
        ((m.engine now).run w (initial w given id now) { y with token }).2) := by
  obtain ⟨path, -, hpath, -⟩ := (save_eq_ok hsave).1.ready
  rw [launch_apply]
  dsimp only
  rw [hpath, hsave]

/-- A launch ends with the fault of its first save. -/
theorem launch_of_unsaved {now : String} {w : Workflow} {given : Bindings} {id : String} {x y : World γ} {f : Fault}
    (hsave : m.save (initial w given id now) x = (.error f, y)) (token : Token) :
    m.launch now w given id token x = (.error f, y) := by
  rw [launch_apply]
  dsimp only
  cases hpath : (initial w given id now).key.path with
  | error e =>
    rw [save_apply, Repository.save_apply, hpath] at hsave
    obtain ⟨he, rfl⟩ := Prod.mk.inj hsave
    obtain rfl := Except.error.inj he
    rfl
  | ok path =>
    dsimp only
    rw [hsave]

/-- A session is launched by a save and a run from there, unless its key has no path or the save fails. -/
theorem launch_cases (m : Manager γ) (now : String) (w : Workflow) (given : Bindings) (id : String)
    (token : Token) (x : World γ) :
    (∃ f, (⟨w.name, id⟩ : SessionKey).path = .error f ∧ m.launch now w given id token x = (.error f, x)) ∨
    (∃ f y, m.save (initial w given id now) x = (.error f, y) ∧ m.launch now w given id token x = (.error f, y)) ∨
    ∃ y, m.save (initial w given id now) x = (.ok (), y) ∧
      m.launch now w given id token x =
        (((m.engine now).run w (initial w given id now) { y with token }).1.map (⟨w, ·⟩),
          ((m.engine now).run w (initial w given id now) { y with token }).2) := by
  rw [launch_apply]
  dsimp only
  change (∃ f, (initial w given id now).key.path = .error f ∧ _) ∨ _
  cases (initial w given id now).key.path with
  | error f => exact .inl ⟨f, rfl, rfl⟩
  | ok path =>
    rcases m.save (initial w given id now) x with ⟨f | u, y⟩
    · exact .inr (.inl ⟨f, y, rfl, rfl⟩)
    · exact .inr (.inr ⟨y, rfl, rfl⟩)

/-- A start ends at once if the key is taken or there is no id; else the session is launched. -/
theorem start_cases (m : Manager γ) (now : String) (w : Workflow) (given : Bindings) (asked : Option String)
    (token : Token) (x : World γ) :
    (∃ e i, (m.checkFree now w ⟨w.name, i⟩ x).1 = .error e ∧
      m.start now w given asked token x = (.error e, x)) ∨
    (∃ e, (m.idOr asked x).1 = .error e ∧
      m.start now w given asked token x = (.error e, (m.idOr asked x).2)) ∨
    ∃ id, (m.idOr asked x).1 = .ok id ∧
      m.start now w given asked token x = m.launch now w given id token (m.idOr asked x).2 := by
  have hgo (h : m.start now w given asked token x =
      (m.idOr asked >>= fun id => m.launch now w given id token) x) :
      (∃ e, (m.idOr asked x).1 = .error e ∧
        m.start now w given asked token x = (.error e, (m.idOr asked x).2)) ∨
      ∃ id, (m.idOr asked x).1 = .ok id ∧
        m.start now w given asked token x = m.launch now w given id token (m.idOr asked x).2 := by
    rw [h, Act.bind_apply]
    cases (m.idOr asked x).1 with
    | error e => exact .inl ⟨e, rfl, rfl⟩
    | ok id => exact .inr ⟨id, rfl, rfl⟩
  cases asked with
  | none => exact .inr (hgo rfl)
  | some i =>
    cases hfree : (m.checkFree now w ⟨w.name, i⟩ x).1 with
    | error e =>
      refine .inl ⟨e, i, hfree, ?_⟩
      unfold start
      dsimp only
      rw [Act.bind_apply, hfree, checkFree_world]
    | ok u =>
      refine .inr (hgo ?_)
      unfold start
      dsimp only
      rw [Act.bind_apply, hfree, checkFree_world]

theorem startNamed_apply (m : Manager γ) (now name : String) (given : Bindings) (asked : Option String)
    (token : Token) (x : World γ) :
    m.startNamed now name given asked token x =
      match Library.get x.files m.directories name with
      | .error e => (.error e, x)
      | .ok w => m.start now w given asked token x := by
  unfold startNamed
  rw [Act.bind_apply]
  unfold get ofFiles
  dsimp only
  cases Library.get x.files m.directories name <;> rfl

theorem resume_apply (m : Manager γ) (now : String) (key : SessionKey) (answer : Option Value) (token : Token)
    (x : World γ) :
    m.resume now key answer token x =
      match load m.store x.files now key with
      | .error e => (.error e, x)
      | .ok s =>
        match Library.get x.files m.directories s.name with
        | .error e => (.error e, x)
        | .ok w =>
          let r := (m.engine now).resume w s answer { x with token }
          (r.1.map (⟨w, ·⟩), r.2) := by
  unfold resume
  rw [Act.bind_apply]
  unfold loadSession ofFiles
  dsimp only
  cases load m.store x.files now key with
  | error e => rfl
  | ok s =>
    dsimp only
    rw [Act.bind_apply]
    unfold get ofFiles
    dsimp only
    cases Library.get x.files m.directories s.name with
    | error e => rfl
    | ok w =>
      dsimp only
      rw [Act.bind_ok (Act.change_apply _ x), Act.bind_apply]
      cases ((m.engine now).resume w s answer { x with token }).1 <;> rfl

section Resume

variable {now : String} {key : SessionKey} {x y : World γ} {d t : Session} {w : Workflow} {answer : Option Value}
  {token : Token}

theorem resume_eq (hload : load m.store x.files now key = .ok d)
    (hget : Library.get x.files m.directories d.name = .ok w) (answer : Option Value) (token : Token) :
    m.resume now key answer token x =
      (((m.engine now).resume w d answer { x with token }).1.map (⟨w, ·⟩),
        ((m.engine now).resume w d answer { x with token }).2) := by
  rw [resume_apply, hload]
  dsimp only
  rw [hget]

/-- A completed session does not go on. -/
theorem resume_of_completed (hload : load m.store x.files now key = .ok d)
    (hget : Library.get x.files m.directories d.name = .ok w) (hdone : d.completed = true) :
    m.resume now key answer token x = (.ok ⟨w, d⟩, { x with token }) := by
  rw [resume_eq hload hget, Engine.resume_apply, if_pos hdone]
  rfl

/-- Nor does one whose answer is refused. -/
theorem resume_of_refused (hload : load m.store x.files now key = .ok d)
    (hget : Library.get x.files m.directories d.name = .ok w) (hopen : d.completed = false) {f : Fault}
    (hf : (m.engine now).reopened w d answer = .error f) :
    m.resume now key answer token x = (.error f, { x with token }) := by
  rw [resume_eq hload hget, Engine.resume_apply, hopen, if_neg Bool.false_ne_true, hf]
  rfl

/-- Any other goes on if it can be saved. -/
theorem resume_of_unsaved (hload : load m.store x.files now key = .ok d)
    (hget : Library.get x.files m.directories d.name = .ok w) (hopen : d.completed = false)
    (ht : (m.engine now).reopened w d answer = .ok t) {f : Fault}
    (hsave : m.save ((m.engine now).resumed t) { x with token } = (.error f, y)) :
    m.resume now key answer token x = (.error f, y) := by
  have hfirst : (m.engine now).save ((m.engine now).resumed t) { x with token } = (.error f, y) := hsave
  rw [resume_eq hload hget, Engine.resume_apply, hopen, if_neg Bool.false_ne_true, ht]
  dsimp only
  rw [hfirst]
  rfl

theorem resume_of_saved (hload : load m.store x.files now key = .ok d)
    (hget : Library.get x.files m.directories d.name = .ok w) (hopen : d.completed = false)
    (ht : (m.engine now).reopened w d answer = .ok t)
    (hsave : m.save ((m.engine now).resumed t) { x with token } = (.ok (), y)) :
    m.resume now key answer token x =
      (((m.engine now).run w ((m.engine now).resumed t) y).1.map (⟨w, ·⟩),
        ((m.engine now).run w ((m.engine now).resumed t) y).2) := by
  have hfirst : (m.engine now).save ((m.engine now).resumed t) { x with token } = (.ok (), y) := hsave
  rw [resume_eq hload hget, Engine.resume_apply, hopen, if_neg Bool.false_ne_true, ht]
  dsimp only
  rw [hfirst]

/-- A session that is loaded goes on by a save and a run from there, unless it is completed, the answer is refused
or the save fails. -/
theorem resume_cases (hload : load m.store x.files now key = .ok d)
    (hget : Library.get x.files m.directories d.name = .ok w) (answer : Option Value) (token : Token) :
    (d.completed = true ∧ m.resume now key answer token x = (.ok ⟨w, d⟩, { x with token })) ∨
    (d.completed = false ∧ ∃ f, (m.engine now).reopened w d answer = .error f ∧
      m.resume now key answer token x = (.error f, { x with token })) ∨
    (d.completed = false ∧ ∃ t, (m.engine now).reopened w d answer = .ok t ∧
      ((∃ f y, m.save ((m.engine now).resumed t) { x with token } = (.error f, y) ∧
        m.resume now key answer token x = (.error f, y)) ∨
      ∃ y, m.save ((m.engine now).resumed t) { x with token } = (.ok (), y) ∧
        m.resume now key answer token x =
          (((m.engine now).run w ((m.engine now).resumed t) y).1.map (⟨w, ·⟩),
            ((m.engine now).run w ((m.engine now).resumed t) y).2))) := by
  cases hdone : d.completed with
  | true => exact .inl ⟨rfl, resume_of_completed hload hget hdone⟩
  | false =>
    cases hopened : (m.engine now).reopened w d answer with
    | error f => exact .inr (.inl ⟨rfl, f, rfl, resume_of_refused hload hget hdone hopened⟩)
    | ok t =>
      refine .inr (.inr ⟨rfl, t, rfl, ?_⟩)
      rcases hsave : m.save ((m.engine now).resumed t) { x with token } with ⟨f | u, y⟩
      · exact .inl ⟨f, y, rfl, resume_of_unsaved hload hget hdone hopened hsave⟩
      · exact .inr ⟨y, rfl, resume_of_saved hload hget hdone hopened hsave⟩

end Resume

/-! ## What the engines keep -/

/-- The operation leaves the world as it should be and ends, if it ends well, with such a session. -/
def EndsAt (P : Workflow → Session → Prop) (I : World γ → Prop) (r : Except Fault Standing × World γ) : Prop :=
  I r.2 ∧ ∀ st, r.1 = .ok st → P st.workflow st.session

/-- Whichever workflow an engine is given, it keeps such sessions and the world. -/
structure Guards (m : Manager γ) (now : String) (P : Workflow → Session → Prop) (I : World γ → Prop) :
    Prop where
  keeps : ∀ w, (m.engine now).Keeps w (P w) I
  token : ∀ x token, I x → I { x with token }

namespace Guards

variable {now : String} {P : Workflow → Session → Prop} {I : World γ → Prop} {w : Workflow} {id : String}
  {asked : Option String} {x : World γ}

theorem endsAt {r : Except Fault Session × World γ} (h : Engine.EndsIn (P w) I r) :
    EndsAt P I (r.1.map (⟨w, ·⟩), r.2) := by
  refine ⟨h.1, fun st hst => ?_⟩
  cases hr : r.1 with
  | error e =>
    rw [hr] at hst
    cases hst
  | ok t =>
    rw [hr] at hst
    obtain rfl := Except.ok.inj hst
    exact h.2 t hr

theorem launch (h : m.Guards now P I) {given : Bindings} (hs : P w (initial w given id now)) (token : Token) (hI : I x) :
    EndsAt P I (m.launch now w given id token x) := by
  have hsave := (h.keeps w).save _ x hs hI
  rw [launch_apply]
  dsimp only
  cases (initial w given id now).key.path with
  | error e => exact ⟨hI, fun st hst => nomatch hst⟩
  | ok path =>
    dsimp only
    cases hr : (m.save (initial w given id now) x).1 with
    | error e => exact ⟨hsave, fun st hst => nomatch hst⟩
    | ok u => exact endsAt ((h.keeps w).run hs rfl rfl (h.token _ token hsave))

theorem start (h : m.Guards now P I) {given : Bindings} (hnew : I (m.idOr asked x).2)
    (hs : ∀ id, (m.idOr asked x).1 = .ok id → P w (initial w given id now)) (token : Token) (hI : I x) :
    EndsAt P I (m.start now w given asked token x) := by
  rcases start_cases m now w given asked token x with
    ⟨e, i, -, hstart⟩ | ⟨e, -, hstart⟩ | ⟨id, hid, hstart⟩
  · rw [hstart]
    exact ⟨hI, fun st hst => nomatch hst⟩
  · rw [hstart]
    exact ⟨hnew, fun st hst => nomatch hst⟩
  · rw [hstart]
    exact h.launch (hs id hid) token hnew

theorem resume (h : m.Guards now P I) {key : SessionKey}
    (hs : ∀ s w, load m.store x.files now key = .ok s → Library.get x.files m.directories s.name = .ok w → P w s)
    (answer : Option Value) (token : Token) (hI : I x) :
    EndsAt P I (m.resume now key answer token x) := by
  rw [resume_apply]
  cases hload : load m.store x.files now key with
  | error e => exact ⟨hI, fun st hst => nomatch hst⟩
  | ok s =>
    dsimp only
    cases hget : Library.get x.files m.directories s.name with
    | error e => exact ⟨hI, fun st hst => nomatch hst⟩
    | ok w => exact endsAt ((h.keeps w).resume (hs s w hload hget) answer (h.token x token hI))

end Guards

end Runbook.Manager
