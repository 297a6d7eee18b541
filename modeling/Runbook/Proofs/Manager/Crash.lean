import Runbook.Proofs.Execution.Timeline
import Runbook.Proofs.Manager.Operations
import Runbook.Proofs.Manager.Partners
import Runbook.Proofs.Session.Untimed

/-! A process that stops dead in the middle of an operation leaves the session behind that was saved last, and the
session goes on from there. -/

namespace Runbook

open Repository

variable {γ : Type} {m : Manager γ} {w : Workflow} {s t d : Session} {key : SessionKey} {x y : World γ}

namespace Manager

/-- The session is what is loaded, in the middle of a save as well. -/
def Shows (m : Manager γ) (key : SessionKey) (d : Session) (x : World γ) : Prop :=
  ∀ f, f = x.files ∨ (∃ t, Midway m.store t x.files f) → ∀ now, load m.store f now key = .ok d

theorem shows_iff : m.Shows key d x ↔ ∀ now, load m.store x.files now key = .ok d := by
  refine ⟨fun h => h x.files (.inl rfl), fun h f hf now => ?_⟩
  rcases hf with rfl | ⟨t, hmidway⟩
  · exact h now
  · exact hmidway.load_eq (h now)

/-- What the steps do leaves the session to be loaded that was loaded before. -/
def KeepsFile (m : Manager γ) (key : SessionKey) : Prop :=
  m.services.All <| Act.Moves fun x y =>
    ∀ now s, load m.store x.files now key = .ok s → load m.store y.files now key = .ok s

theorem Shows.of_save (hkey : s.key.SharesFile key) (h : m.save s x = (.ok (), y)) : m.Shows key s.stored y :=
  shows_iff.mpr fun now => load_of_sharesFile (save_eq_ok h).1 hkey now

theorem Shows.of_save_error {e : Fault} (h : m.Shows key d x) (hsave : m.save s x = (.error e, y)) :
    m.Shows key d y :=
  shows_iff.mpr fun now => load_of_extends (save_eq_error hsave).1 (shows_iff.mp h now)

/-- The file shows every session that was saved until the next one is. -/
theorem durable (hkeeps : m.KeepsFile key) (now : String) {k : SessionKey} (hk : k.SharesFile key) :
    (m.engine now).Durable k fun s x => m.Shows key s.stored x where
  perform d s step x h := by
    have hclosed := Act.closed_moves (σ := World γ) (R := fun x y => ∀ now s,
      load m.store x.files now key = .ok s → load m.store y.files now key = .ok s)
      (fun _ _ _ hload => hload) fun _ _ _ h h' now s hload => h' now s (h now s hload)
    have hmoves := (m.engine now).performed_all hclosed hkeeps s step x
    exact shows_iff.mpr fun now => hmoves now _ (shows_iff.mp h now)
  saved t x y ht hsave := .of_save (ht ▸ hk) hsave
  unsaved d t x f y h hsave := h.of_save_error hsave

theorem key_of_shows (h : m.Shows key d x) : d.key.SharesFile key := by
  obtain ⟨-, -, -, hbelongs⟩ := load_eq_ok (shows_iff.mp h "")
  exact belongs_iff_sharesFile.mp hbelongs

/-! ## Operations that stop dead -/

/-- A session that is loaded goes on with the step at which it is, unless its first save fails or the operation is
asked to stop. -/
def GoesOnAtStep (m : Manager γ) (now : String) (key : SessionKey) (w : Workflow) (d : Session) (token : Token)
    (x : World γ) : Prop :=
  let s := (m.engine now).resumed d
  (∃ f y, m.save s { x with token } = (.error f, y) ∧ m.resume now key none token x = (.error f, y)) ∨
    ∃ y, m.save s { x with token } = (.ok (), y) ∧
      let run := (m.engine now).runTrace w s y
      m.resume now key none token x = (run.2.1.map (⟨w, ·⟩), run.2.2) ∧
        (Engine.begun run.1).head? = if m.cancelled y then none else Engine.stepOf? w d

theorem goesOnAtStep (hshows : m.Shows key d x) (hget : Library.get x.files m.directories d.name = .ok w)
    (hopen : d.completed = false) (now : String) (token : Token) : m.GoesOnAtStep now key w d token x := by
  rcases resume_cases (shows_iff.mp hshows now) hget none token with
    ⟨hdone, -⟩ | ⟨-, f, hrefused, -⟩ | ⟨-, t, hopened, hresume⟩
  · rw [hopen] at hdone
    cases hdone
  · cases hrefused
  · obtain rfl := Except.ok.inj hopened
    rcases hresume with hfailed | ⟨y, hsave, hresume⟩
    · exact .inl hfailed
    · rw [← Engine.runTrace_snd] at hresume
      have hfirst := Engine.head?_begun_runTrace (s := (m.engine now).resumed d) (m.engine now) w hopen y
      exact .inr ⟨y, hsave, hresume, hfirst⟩

/-- The operation is a run of a session from a world. Wherever it stops dead, the session is loaded that was saved
last, and that one goes on with the step at which it is. -/
structure RunsSafely (m : Manager γ) (now : String) (key : SessionKey) (w : Workflow) (s : Session) (x : World γ)
    (result : Except Fault Standing × World γ) : Prop where
  result_eq : result =
    (((m.engine now).runTrace w s x).2.1.map (⟨w, ·⟩), ((m.engine now).runTrace w s x).2.2)
  ending_eq : ((m.engine now).runTrace w s x).2 = (m.engine now).run w s x
  safe : (m.engine now).CrashSafe w (fun d x => m.Shows key d.stored x) s ((m.engine now).runTrace w s x).1
    ((m.engine now).runTrace w s x).2
  goesOn : ∀ p q, ((m.engine now).runTrace w s x).1 = p ++ q → (Engine.lastSaved s p).completed = false →
    ∀ z, m.Shows key (Engine.lastSaved s p).stored z →
      Library.get z.files m.directories (Engine.lastSaved s p).name = .ok w → ∀ now' token cancelled,
        ({ m with cancelled }).GoesOnAtStep now' key w (Engine.lastSaved s p).stored token z

theorem runsSafely_run (hkeeps : m.KeepsFile key) (hs : s.key.SharesFile key) (hpaused : s.paused = false)
    (hshows : m.Shows key s.stored x) (now : String) (w : Workflow) :
    m.RunsSafely now key w s x
      (((m.engine now).run w s x).1.map (⟨w, ·⟩), ((m.engine now).run w s x).2) where
  result_eq := by rw [Engine.runTrace_snd]
  ending_eq := Engine.runTrace_snd _ _ _ _
  safe := Engine.crashSafe_runTrace (durable hkeeps now hs) w rfl hpaused hshows
  goesOn p q _ hopen z hz hget now' token cancelled :=
    @goesOnAtStep γ { m with cancelled } w _ key z hz hget hopen now' token

theorem history_reopened {e : Engine (World γ)} {answer : Option Value} (h : e.reopened w d answer = .ok t) :
    t.history = d.history ∨
      ∃ step r, Engine.stepOf? w d = some step ∧ r.stepId = step.id ∧ t.history = d.history ++ [r] := by
  cases answer with
  | none =>
    obtain rfl := Except.ok.inj h
    exact .inl rfl
  | some a =>
    obtain ⟨step, q, value, shown, hstep, -, -, rfl⟩ := Engine.answered_eq_ok h
    obtain ⟨r, hid, hhistory⟩ := Engine.history_afterAnswer e w d step (Step.answerVariable step.id q) value shown
    exact .inr ⟨step, r, hstep, hid, hhistory⟩

/-- An operation ends before it saves anything, or it saves the session with which it begins and is a run from
there, which is safe wherever it stops dead. A session that goes on begins with the history that was loaded, and
with the record of the answer if there is one. -/
theorem launch_and_resume_run_safely (hkeeps : m.KeepsFile key) (now : String) (token : Token) (x : World γ) :
    (∀ w given id, (⟨w.name, id⟩ : SessionKey) = key →
      (∃ f, key.path = .error f ∧ m.launch now w given id token x = (.error f, x)) ∨
      (∃ f y, m.save (initial w given id now) x = (.error f, y) ∧
        m.launch now w given id token x = (.error f, y)) ∨
      ∃ y, m.save (initial w given id now) x = (.ok (), y) ∧
        m.RunsSafely now key w (initial w given id now) { y with token } (m.launch now w given id token x)) ∧
    ∀ w d answer, m.Shows key d x → Library.get x.files m.directories d.name = .ok w →
      (d.completed = true ∧ m.resume now key answer token x = (.ok ⟨w, d⟩, { x with token })) ∨
      (∃ f, (m.engine now).reopened w d answer = .error f ∧
        m.resume now key answer token x = (.error f, { x with token })) ∨
      ∃ t, (m.engine now).reopened w d answer = .ok t ∧
        (t.history = d.history ∨
          ∃ step r, Engine.stepOf? w d = some step ∧ r.stepId = step.id ∧ t.history = d.history ++ [r]) ∧
        ((∃ f y, m.save ((m.engine now).resumed t) { x with token } = (.error f, y) ∧ m.Shows key d y ∧
          m.resume now key answer token x = (.error f, y)) ∨
        ∃ y, m.save ((m.engine now).resumed t) { x with token } = (.ok (), y) ∧
          m.RunsSafely now key w ((m.engine now).resumed t) y (m.resume now key answer token x)) := by
  refine ⟨fun w given id hid => ?_, fun w d answer hshows hget => ?_⟩
  · subst hid
    rcases launch_cases m now w given id token x with hpath | hsave | ⟨y, hsave, hlaunch⟩
    · exact .inl hpath
    · exact .inr (.inl hsave)
    · have hshows := Shows.of_save (.refl _) hsave
      rw [hlaunch]
      exact .inr (.inr ⟨y, hsave, runsSafely_run (x := { y with token }) hkeeps (.refl _) rfl hshows now w⟩)
  · have hs := key_of_shows hshows
    rcases resume_cases (shows_iff.mp hshows now) hget answer token with
      ⟨hdone, hresume⟩ | ⟨-, f, hrefused, hresume⟩ | ⟨hopen, t, hopened, hresume⟩
    · exact .inl ⟨hdone, hresume⟩
    · exact .inr (.inl ⟨f, hrefused, hresume⟩)
    · refine .inr (.inr ⟨t, hopened, history_reopened hopened, ?_⟩)
      rcases hresume with ⟨f, y, hsave, hresume⟩ | ⟨y, hsave, hresume⟩
      · exact .inl ⟨f, y, hsave, Shows.of_save_error (x := { x with token }) hshows hsave, hresume⟩
      · have ht := (Engine.preserves_key (m.engine now) w d.key).reopened rfl hopen hopened
        rw [hresume]
        exact .inr ⟨y, hsave, runsSafely_run hkeeps (ht ▸ hs) rfl (Shows.of_save (ht ▸ hs) hsave) now w⟩

theorem keepsFile_bare (key : SessionKey) : bare.KeepsFile key :=
  Services.all_onPartners _ (fun _ _ _ _ _ hload => hload) fun _ _ _ _ _ hload => hload

/-- The question is asked in a run that is safe wherever it stops dead. -/
theorem asking_runs_safely :
    bare.KeepsFile ⟨"demo", "s"⟩ ∧ ∃ y, bare.save (initial .asking [] "s" "t") .empty = (.ok (), y) ∧
      bare.RunsSafely "t" ⟨"demo", "s"⟩ .asking (initial .asking [] "s" "t") { y with token := {} }
        (bare.launch "t" .asking [] "s" {} .empty) := by
  have hkeeps := keepsFile_bare ⟨"demo", "s"⟩
  have hwrite (data : List UInt8) : (bare.store.write "demo/s.json" data {}).1 = .ok () := rfl
  obtain ⟨z, hsaved⟩ := exists_save_of_write (m := bare) (s := initial .asking [] "s" "t") (x := .empty) rfl
    (exists_fileText_of_pending rfl rfl rfl rfl) hwrite
  refine ⟨hkeeps, ?_⟩
  rcases (launch_and_resume_run_safely hkeeps "t" {} .empty).1 .asking [] "s" rfl with
    ⟨f, hpath, -⟩ | ⟨f, y, hsave, -⟩ | hruns
  · have hok : (⟨"demo", "s"⟩ : SessionKey).path = .ok "demo/s.json" := rfl
    rw [hok] at hpath
    cases hpath
  · rw [hsaved] at hsave
    cases (Prod.mk.inj hsave).1
  · exact hruns

end Manager

end Runbook
