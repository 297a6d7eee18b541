import Runbook.Proofs.Execution.Slices
import Runbook.Proofs.Manager.Interruption
import Runbook.Proofs.Manager.Refusal
import Runbook.Proofs.Session.Again

/-! Requests to run a workflow or to resume a session, cut where the run begins. What comes before it is done at once:
the request is refused, or it saves a session that goes on with what was shown. -/

namespace Runbook

open Repository

variable {γ : Type} {m : Manager γ} {w : Workflow} {s t d : Session} {key : SessionKey} {x y z : World γ}

/-! ## Requests -/

inductive Request where
  | start (now : String) (w : Workflow) (given : Bindings) (asked : Option String) (token : Token)
  | startNamed (now name : String) (given : Bindings) (asked : Option String) (token : Token)
  | resume (now : String) (key : SessionKey) (answer : Option Value) (token : Token)

namespace Request

def now : Request → String
  | .start now .. => now
  | .startNamed now .. => now
  | .resume now .. => now

def call : Request → Call
  | .start now w given asked token => .start now w given asked token
  | .startNamed now name given asked token => .startNamed now name given asked token
  | .resume now key answer token => .resume now key answer token

/-- Goes on without an answer, whatever is under way. -/
def IsBlind : Request → Prop
  | .resume _ _ none _ => True
  | _ => False

/-- Starts a session with a new id, under which nothing is looked for. -/
def IsUnnamed : Request → Prop
  | .start _ _ _ none _ => True
  | .startNamed _ _ _ none _ => True
  | _ => False

end Request

namespace Manager

/-- A session is saved that has not begun. -/
def openFresh (m : Manager γ) (now : String) (w : Workflow) (given : Bindings) (id : String) (token : Token) :
    Act (World γ) (Workflow × Session) := do
  discard (Act.ofExcept (initial w given id now).key.path)
  m.save (initial w given id now)
  Act.change fun world => { world with token }
  return (w, initial w given id now)

def openStart (m : Manager γ) (now : String) (w : Workflow) (given : Bindings) (asked : Option String)
    (token : Token) : Act (World γ) (Workflow × Session) := do
  match asked with
  | some id => m.checkFree now w ⟨w.name, id⟩
  | none => pure ()
  m.openFresh now w given (← m.idOr asked) token

/-- The session that goes on is saved. A completed one stays as it is. -/
def openResume (m : Manager γ) (now : String) (key : SessionKey) (answer : Option Value) (token : Token) :
    Act (World γ) (Workflow × Session) := do
  let d ← m.loadSession now key
  let w ← m.get d.name
  Act.change fun world => { world with token }
  if d.completed then return (w, d)
  let t ← Act.ofExcept ((m.engine now).reopened w d answer)
  m.save ((m.engine now).resumed t)
  return (w, (m.engine now).resumed t)

/-- What a request does before the run of its session begins. -/
def opening (m : Manager γ) : Request → Act (World γ) (Workflow × Session)
  | .start now w given asked token => m.openStart now w given asked token
  | .startNamed now name given asked token => do m.openStart now (← m.get name) given asked token
  | .resume now key answer token => m.openResume now key answer token

theorem openResume_run (m : Manager γ) (now : String) (key : SessionKey) (answer : Option Value) (token : Token) :
    m.resume now key answer token =
      (do
        let (w, s) ← m.openResume now key answer token
        return ⟨w, ← (m.engine now).run w s⟩) := by
  unfold resume openResume
  simp only [bind_assoc]
  refine bind_congr fun d => bind_congr fun w => bind_congr fun _ => ?_
  unfold Engine.resume
  cases hdone : d.completed with
  | true =>
    have hrun : (m.engine now).run w d = pure d := if_pos hdone
    simp only [if_true, pure_bind, hrun]
  | false => cases answer <;> simp only [Bool.false_eq_true, if_false, bind_assoc, pure_bind] <;> rfl

theorem openStart_run (m : Manager γ) (now : String) (w : Workflow) (given : Bindings) (asked : Option String)
    (token : Token) :
    m.start now w given asked token =
      (do
        let (w, s) ← m.openStart now w given asked token
        return ⟨w, ← (m.engine now).run w s⟩) := by
  unfold start openStart launch openFresh
  cases asked <;> simp only [bind_assoc, pure_bind]

/-- A request opens its session and runs it from there. -/
theorem perform_request (m : Manager γ) (q : Request) :
    q.call.perform m =
      (do
        let (w, s) ← m.opening q
        return some (← (m.engine q.now).run w s)) := by
  cases q with
  | start now w given asked token =>
    have happly := m.openStart_run now w given asked token
    simp only [Request.call, Call.perform, opening, happly, bind_assoc, pure_bind]
    rfl
  | startNamed now name given asked token =>
    have happly (w : Workflow) := m.openStart_run now w given asked token
    simp only [Request.call, Call.perform, opening, startNamed, happly, bind_assoc, pure_bind]
    rfl
  | resume now key answer token =>
    have happly := m.openResume_run now key answer token
    simp only [Request.call, Call.perform, opening, happly, bind_assoc, pure_bind]
    rfl

end Manager

/-! ## Sessions that are left alone -/

/-- The document of the one session begins with the history that the document of the other has. -/
def Session.Extends (t s : Session) : Prop := s.stored.history <+: t.stored.history

/-- The sessions saved in the file of a session, the newest first. -/
def World.savesOf (key : SessionKey) (x : World γ) : List Session := x.saves.filter (belongs · key)

namespace Repository

variable {store : Store} {f : Files} {now : String} {k : SessionKey}

/-- What is loaded for a session is loaded under every key that shares its file. -/
theorem load_of_shares (hk : k.SharesFile key) (h : load store f now key = .ok d) : load store f now k = .ok d := by
  obtain ⟨path, bytes, hpath, hread, hdecode, hbelongs⟩ := load_eq_ok_iff.mp h
  exact load_eq_ok_iff.mpr ⟨path, bytes, SessionKey.path_of_sharesFile hk.symm hpath, hread, hdecode,
    belongs_iff_sharesFile.mpr ((belongs_iff_sharesFile.mp hbelongs).trans hk.symm)⟩

end Repository

namespace Manager

/-- Nothing is saved in the file of a session, and the session that it shows is still shown. -/
structure Spares (m : Manager γ) (key : SessionKey) (x y : World γ) : Prop where
  savesOf_eq : y.savesOf key = x.savesOf key
  shows : ∀ d, m.Shows key d x → m.Shows key d y

namespace Spares

theorem refl (m : Manager γ) (key : SessionKey) (x : World γ) : m.Spares key x x := ⟨rfl, fun _ h => h⟩

theorem trans (h : m.Spares key x y) (h' : m.Spares key y z) : m.Spares key x z :=
  ⟨h'.savesOf_eq.trans h.savesOf_eq, fun d hd => h'.shows d (h.shows d hd)⟩

theorem of_sameStore (h : World.SameStore x y) : m.Spares key x y where
  savesOf_eq := by rw [World.savesOf, World.savesOf, h.saves_eq]
  shows d hd := shows_iff.mpr fun now => h.files_eq ▸ shows_iff.mp hd now

/-- A save that fails leaves every session alone. -/
theorem of_save_error {f : Fault} (h : m.save s x = (.error f, y)) : m.Spares key x y where
  savesOf_eq := by rw [World.savesOf, World.savesOf, (save_eq_error h).2.1]
  shows _ hd := hd.of_save_error h

end Spares

/-! ## What openings do -/

/-- A session goes on with what is shown, if anything is. Only a request that goes on blindly does so where the
session that is shown is not paused. -/
structure Continues (m : Manager γ) (key : SessionKey) (q : Request) (x : World γ) (s : Session) : Prop where
  shares : s.key.SharesFile key
  paused : s.paused = false
  extends_ : ∀ d, m.Shows key d x → s.Extends d
  turn : q.IsBlind ∨ ∀ d, m.Shows key d x → d.paused = true

/-- What comes of the opening of a request: the session is left alone, since the request is refused or has nothing to
do, or a session is saved that goes on with it. -/
inductive Opens (m : Manager γ) (key : SessionKey) (q : Request) (x : World γ) :
    Except Fault (Workflow × Session) × World γ → Prop where
  | refused {f : Fault} {y : World γ} (h : m.Spares key x y) : Opens m key q x (.error f, y)
  | completed {w : Workflow} {d : Session} {y : World γ} (h : m.Spares key x y) (hdone : d.completed = true) :
      Opens m key q x (.ok (w, d), y)
  | saved {w : Workflow} {s : Session} {y z : World γ} (token : Token) (h : m.Spares key x y)
      (hs : m.Continues key q y s) (hsave : m.save s y = (.ok (), z)) : Opens m key q x (.ok (w, s), { z with token })

section Openings

variable {q : Request} {now : String} {given : Bindings} {asked : Option String} {answer : Option Value}
  {token : Token}

/-- Where nothing is shown, nothing stands in the way of a new session. -/
theorem opens_openFresh {id : String} (hsame : World.SameStore x y) (hnone : ∀ d, ¬m.Shows key d x)
    (hkey : (⟨w.name, id⟩ : SessionKey).SharesFile key) :
    m.Opens key q x (m.openFresh now w given id token y) := by
  have hspares : m.Spares key x y := .of_sameStore hsame
  have hnone' (d : Session) (hd : m.Shows key d y) : False := hnone d (shows_iff.mpr fun now => by
    rw [← hsame.files_eq]
    exact shows_iff.mp hd now)
  have hcontinues : m.Continues key q y (initial w given id now) :=
    ⟨hkey, rfl, fun d hd => (hnone' d hd).elim, .inr fun d hd => (hnone' d hd).elim⟩
  unfold openFresh
  cases hpath : (initial w given id now).key.path with
  | error e => exact .refused hspares
  | ok path =>
    have hfree : (discard (Act.ofExcept (.ok path : Except Fault String)) : Act (World γ) Unit) y = (.ok (), y) := rfl
    rw [Act.bind_ok hfree, Act.bind_apply]
    rcases hsave : m.save (initial w given id now) y with ⟨f | u, z⟩
    · exact .refused (hspares.trans (.of_save_error hsave))
    · exact .saved token hspares hcontinues hsave

theorem not_shows_of_checkFree {k : SessionKey} (hk : k.SharesFile key) (h : (m.checkFree now w k x).1 = .ok ())
    (d : Session) : ¬m.Shows key d x := by
  intro hd
  have hload : m.loadSession now k x = (.ok d, x) :=
    Prod.ext (load_of_shares hk (shows_iff.mp hd now)) rfl
  unfold checkFree at h
  rw [Act.bind_apply, Act.observe_apply, hload] at h
  cases h

/-- The session to which a start is addressed is left alone if it is there. -/
theorem opens_openStart (hnew : Act.Moves World.SameStore String m.newId) (hopen : asked = none → ∀ d, ¬m.Shows key d x)
    (hkey : ∀ id, (m.idOr asked x).1 = .ok id → (⟨w.name, id⟩ : SessionKey).SharesFile key) :
    m.Opens key q x (m.openStart now w given asked token x) := by
  have hsame : World.SameStore x (m.idOr asked x).2 := idOr_moves (fun _ => ⟨rfl, rfl⟩) hnew asked x
  have hfresh (hnone : ∀ d, ¬m.Shows key d x) :
      m.Opens key q x ((m.idOr asked >>= fun id => m.openFresh now w given id token) x) := by
    rw [Act.bind_apply]
    cases hid : (m.idOr asked x).1 with
    | error f => exact .refused (.of_sameStore hsame)
    | ok id => exact opens_openFresh hsame hnone (hkey id hid)
  unfold openStart
  cases asked with
  | none => exact hfresh (hopen rfl)
  | some i =>
    dsimp only
    rw [Act.bind_apply, checkFree_world]
    cases hfree : (m.checkFree now w ⟨w.name, i⟩ x).1 with
    | error f => exact .refused (.refl m key x)
    | ok u =>
      have hnamed : i.isEmpty = false := by
        rw [Bool.eq_false_iff]
        intro hempty
        obtain rfl := String.isEmpty_iff.mp hempty
        rw [checkFree_of_taken (.inl rfl)] at hfree
        cases hfree
      have hid : (m.idOr (some i) x).1 = .ok i := by
        unfold idOr
        dsimp only
        rw [if_neg (by simp [hnamed])]
        rfl
      exact hfresh (not_shows_of_checkFree (hkey i hid) hfree)

/-- A session that is loaded and goes on continues what is shown, with the record of the answer if there is one. -/
theorem continues_resumed {k : SessionKey} (hk : k.SharesFile key) (hblind : answer = none → q.IsBlind)
    (hload : load m.store x.files now k = .ok d) (hopen : d.completed = false)
    (ht : (m.engine now).reopened w d answer = .ok t) :
    m.Continues key q { x with token } ((m.engine now).resumed t) := by
  have hshown (d' : Session) (hd' : m.Shows key d' { x with token }) : d' = d :=
    Except.ok.inj ((load_of_shares hk (shows_iff.mp hd' now)).symm.trans hload)
  have hkey : ((m.engine now).resumed t).key = d.key :=
    (Engine.preserves_key (m.engine now) w d.key).reopened rfl hopen ht
  have hgrows : d.history <+: t.history := by
    rcases history_reopened ht with hsame | ⟨step, r, -, -, hmore⟩
    · rw [hsame]
    · rw [hmore]
      exact List.prefix_append _ _
  refine ⟨hkey ▸ (Manager.key_of_load hload).trans hk, rfl, fun d' hd' => ?_, ?_⟩
  · obtain rfl := hshown d' hd'
    exact hgrows.map StepRecord.stored
  · cases answer with
    | none => exact .inl (hblind rfl)
    | some a =>
      obtain ⟨step, question, value, shown, -, -, hpaused, -⟩ := Engine.answered_eq_ok ht
      exact .inr fun d' hd' => hshown d' hd' ▸ hpaused

theorem opens_openResume {k : SessionKey} (hk : k.SharesFile key) (hblind : answer = none → q.IsBlind) :
    m.Opens key q x (m.openResume now k answer token x) := by
  unfold openResume
  rw [Act.bind_apply]
  have hload : (m.loadSession now k x) = (load m.store x.files now k, x) := rfl
  rw [hload]
  cases hd : load m.store x.files now k with
  | error f => exact .refused (.refl m key x)
  | ok d =>
    dsimp only
    have hfound : m.get d.name x = (Library.get x.files m.directories d.name, x) := rfl
    rw [Act.bind_apply, hfound]
    cases Library.get x.files m.directories d.name with
    | error f => exact .refused (.refl m key x)
    | ok w =>
      dsimp only
      have hspares : m.Spares key x { x with token } := .of_sameStore ⟨rfl, rfl⟩
      rw [Act.bind_ok (Act.change_apply _ x)]
      cases hdone : d.completed with
      | true => exact .completed hspares hdone
      | false =>
        rw [if_neg Bool.false_ne_true, Act.bind_apply, Act.ofExcept_apply]
        cases ht : (m.engine now).reopened w d answer with
        | error f => exact .refused hspares
        | ok t =>
          dsimp only
          rw [Act.bind_apply]
          rcases hsave : m.save ((m.engine now).resumed t) { x with token } with ⟨f | u, z⟩
          · exact .refused (hspares.trans (.of_save_error hsave))
          · exact .saved z.token hspares (continues_resumed hk hblind hd hdone ht) hsave

end Openings

/-- What the opening of a request does that is addressed to a session, if it does not start one blindly. -/
theorem opens_opening {q : Request} (hnew : Act.Moves World.SameStore String m.newId)
    (hkey : ∀ k, q.call.IsAddressedTo m x k → k.SharesFile key) (hopen : q.IsUnnamed → ∀ d, ¬m.Shows key d x) :
    m.Opens key q x (m.opening q x) := by
  cases q with
  | start now w given asked token =>
    refine opens_openStart hnew (fun hasked => hopen ?_) fun id hid => hkey ⟨w.name, id⟩ ⟨id, hid, rfl⟩
    rw [hasked]
    trivial
  | startNamed now name given asked token =>
    have hfound : m.get name x = (Library.get x.files m.directories name, x) := rfl
    rw [opening, Act.bind_apply, hfound]
    cases hget : Library.get x.files m.directories name with
    | error f => exact .refused (.refl m key x)
    | ok w =>
      refine opens_openStart hnew (fun hasked => hopen ?_) fun id hid => hkey ⟨w.name, id⟩ ⟨w, id, hget, hid, rfl⟩
      rw [hasked]
      trivial
  | resume now k answer token =>
    refine opens_openResume (hkey k rfl) fun hanswer => ?_
    rw [hanswer]
    trivial

end Manager

end Runbook
