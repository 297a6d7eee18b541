import Runbook.Proofs.Execution.Secrecy
import Runbook.Proofs.Manager.Continuation
import Runbook.Proofs.Manager.Interruption

/-! A password stays out of everything but its variable: whatever was answered, the collaborators are asked the same
afterwards, and what is saved and returned is the same but for the variable. -/

namespace Runbook

open Repository

variable {γ : Type} {services : Services γ} {m : Manager γ} {w : Workflow} {v : String} {key k : SessionKey}
  {s t : Session} {x y : World γ}

/-! ## Worlds -/

namespace World

/-- The worlds show nothing but a variable of a session: the collaborators and the token are the same, what was saved
is the same but for the variable, and the files differ in the contents of those of the session at most. -/
structure SameBut (v : String) (k : SessionKey) (x y : World γ) : Prop where
  partners_eq : y.partners = x.partners
  token_eq : y.token = x.token
  saves : List.Forall₂ (Session.SameBut v) x.saves y.saves
  files : Files.Alike k.Names x.files y.files

theorem SameBut.refl (v : String) (k : SessionKey) (x : World γ) : SameBut v k x x :=
  ⟨rfl, rfl, List.forall₂_same.mpr fun s _ => .refl v s, .refl _ _⟩

theorem SameBut.withToken (h : SameBut v k x y) (token : Token) :
    SameBut v k { x with token } { y with token } := ⟨h.partners_eq, rfl, h.saves, h.files⟩

/-- Collaborators that see their own part do the same in such worlds. -/
theorem respects_sameBut (v : String) (k : SessionKey) (services : Services γ) :
    services.onPartners.All (Act.Respects (SameBut v k)) := by
  refine services.all_onPartners (fun α act x y h => ?_) fun dir file x y h => ⟨?_, h⟩
  · unfold onPartners
    rw [Act.within_apply, Act.within_apply, h.partners_eq]
    exact ⟨rfl, rfl, h.token_eq, h.saves, h.files⟩
  · unfold fileExists
    rw [h.files.isThereFrom]

/-- Whether an operation is asked to stop depends on the collaborators, the token and the count of saved sessions. -/
def StopsAlike (cancelled : World γ → Bool) : Prop :=
  ∀ x y, x.partners = y.partners → x.token = y.token → x.saves.length = y.saves.length → cancelled x = cancelled y

theorem SameBut.cancelled_eq (h : SameBut v k x y) {cancelled : World γ → Bool} (hstop : StopsAlike cancelled) :
    cancelled y = cancelled x :=
  hstop y x h.partners_eq h.token_eq h.saves.length_eq.symm

end World

namespace Manager

/-! ## Two runs with different passwords -/

/-- Two runs are at the same point: their sessions were saved last, and nothing but the variable differs. -/
structure Paired (m : Manager γ) (v : String) (k : SessionKey) (s t : Session) (x y : World γ) : Prop where
  same : Session.SameBut v s t
  key_eq : s.key = k
  worlds : World.SameBut v k x y
  left : m.IsLast s x
  right : m.IsLast t y

/-- Two runs end with the same fault, or with the sessions that were saved last. -/
inductive PairedEnd (m : Manager γ) (v : String) (k : SessionKey) :
    Except Fault Session × World γ → Except Fault Session × World γ → Prop where
  | fault {s t : Session} {x y : World γ} (f : Fault) (h : m.Paired v k s t x y) :
      PairedEnd m v k (.error f, x) (.error f, y)
  | session {s t : Session} {x y : World γ} (h : m.Paired v k s t x y) : PairedEnd m v k (.ok s, x) (.ok t, y)

/-- The engine works for the manager, and is asked to stop alike in worlds that are alike. -/
structure Drives (m : Manager γ) (e : Engine (World γ)) : Prop where
  services_eq : e.services = m.services
  save_eq : e.save = m.save
  stops : World.StopsAlike e.cancelled

namespace Paired

variable {e : Engine (World γ)} {step : Step}

/-- Sessions that are the same but for the variable are saved in both worlds or in neither. -/
theorem save (h : m.Paired v k s t x y) {a b : Session} (hab : Session.SameBut v a b) (ha : a.key = k) :
    (∃ f, m.save a x = (.error f, x) ∧ m.save b y = (.error f, y)) ∨
      ∃ x' y', m.save a x = (.ok (), x') ∧ m.save b y = (.ok (), y') ∧ m.Paired v k a b x' y' := by
  have ht : t.key = k := h.same.key_eq.trans h.key_eq
  have hworlds : World.SameButFile k x y := ⟨h.worlds.partners_eq, h.worlds.files⟩
  rcases save_both h.left h.right h.key_eq ht hworlds ha (hab.key_eq.trans ha) (fileText_cases hab.fileText_eq) with
    hrefused | ⟨x', y', hx, hy, hnext⟩
  · exact .inl hrefused
  · have htokens : y'.token = x'.token := by
      rw [token_of_save hx, token_of_save hy, h.worlds.token_eq]
    have hsaves : List.Forall₂ (Session.SameBut v) x'.saves y'.saves := by
      rw [(save_eq_ok hx).2.1, (save_eq_ok hy).2.1]
      exact .cons hab h.worlds.saves
    exact .inr ⟨x', y', hx, hy, hab, ha, ⟨hnext.partners_eq, htokens, hsaves, hnext.files⟩, .of_save hx, .of_save hy⟩

/-- A step that does not read the variable comes to the same in both runs. -/
theorem perform (h : m.Paired v k s t x y) (he : m.Drives e) (hservices : m.services = services.onPartners)
    (hw : w.Conceals v) (hstep : step ∈ w.steps) :
    (e.performed t step y).1 = (e.performed s step x).1 ∧
      m.Paired v k s t (e.performed s step x).2 (e.performed t step y).2 := by
  have hown : e.services = services.onPartners := he.services_eq.trans hservices
  rw [Engine.performed_eq_of_sameBut hw h.same hstep y]
  have hrespects := e.performed_all (Act.closed_respects _) (hown ▸ World.respects_sameBut v k services) s step
    x y h.worlds
  have hmoves := e.performed_all World.closed_sameStore (hown ▸ World.moves_onPartners services) s step
  exact ⟨hrespects.1.symm, { h with
    worlds := hrespects.2
    left := h.left.of_sameStore (hmoves x)
    right := h.right.of_sameStore (hmoves y) }⟩

/-- What the runs come to is saved in both or in neither. -/
theorem settle (h : m.Paired v k s t x y) (he : m.Drives e) {a b : Session × Except Fault Session}
    (hab : SameSettled v a b) (ha : a.1.key = k) (hleft : ∀ u, a.2 = .ok u → u = a.1)
    (hright : ∀ u, b.2 = .ok u → u = b.1) : m.PairedEnd v k (e.settle a x) (e.settle b y) := by
  rw [Engine.settle_apply, Engine.settle_apply, he.save_eq]
  rcases h.save hab.saved ha with ⟨f, hx, hy⟩ | ⟨x', y', hx, hy, hnext⟩
  · rw [hx, hy]
    exact .fault f h
  · rw [hx, hy]
    obtain ⟨a, r⟩ := a
    obtain ⟨b, r'⟩ := b
    cases hab.ending with
    | fault f => exact .fault f hnext
    | session hst =>
      obtain rfl := hleft _ rfl
      obtain rfl := hright _ rfl
      exact .session hnext

theorem runStep (h : m.Paired v k s t x y) (he : m.Drives e) (hservices : m.services = services.onPartners)
    (hw : w.Conceals v) (hstep : Engine.stepOf? w s = some step) :
    m.PairedEnd v k (e.runStep w s step x) (e.runStep w t step y) := by
  obtain ⟨hresult, hmid⟩ := h.perform he hservices hw (Engine.mem_steps_of_stepOf? hstep)
  have hkey (stop : Bool) : (e.settled w s step stop (e.performed s step x).1).1.key = k :=
    (Engine.key_of_turn (Engine.turn_settled hstep stop x)).trans h.key_eq
  have hsettled (stop : Bool) : SameSettled v (e.settled w s step stop (e.performed s step x).1)
      (e.settled w t step stop (e.performed s step x).1) := Engine.sameSettled_settled h.same stop _
  have hsettle (stop : Bool) := hmid.settle he (hsettled stop) (hkey stop)
    (fun u hu => (Engine.settled_eq_ok hu).1) fun u hu => (Engine.settled_eq_ok hu).1
  rw [Engine.runStep_eq, Engine.runStep_eq]
  dsimp only
  rw [hresult, hmid.worlds.cancelled_eq he.stops]
  split
  · rename_i f habort
    exact .fault f hmid
  · exact hsettle _

/-- Two runs of a workflow that does not read the variable come to the same but for it. -/
theorem runFrom (he : m.Drives e) (hservices : m.services = services.onPartners) (hw : w.Conceals v) (fuel : ℕ)
    (h : m.Paired v k s t x y) : m.PairedEnd v k (e.runFrom w fuel s x) (e.runFrom w fuel t y) := by
  induction fuel generalizing s t x y with
  | zero => exact .session h
  | succ fuel ih =>
    rw [Engine.runFrom_succ, Engine.runFrom_succ, h.same.completed_eq, h.worlds.cancelled_eq he.stops,
      Engine.stepOf?_eq_of_sameBut h.same]
    split_ifs
    · exact .session h
    · exact h.settle he (Engine.sameSettled_stopping h.same) h.key_eq (fun u hu => (Except.ok.inj hu).symm)
        fun u hu => (Except.ok.inj hu).symm
    · cases hstep : Engine.stepOf? w s with
      | none =>
        dsimp only
        rw [Engine.unknownStep_eq_of_sameBut h.same]
        exact h.settle he (Engine.sameSettled_failing h.same _) h.key_eq (fun u hu => nomatch hu)
          fun u hu => nomatch hu
      | some step =>
        dsimp only
        have hnext := h.runStep he hservices hw hstep
        rcases hleft : e.runStep w s step x with ⟨r, x'⟩
        rcases hright : e.runStep w t step y with ⟨r', y'⟩
        rw [hleft, hright] at hnext
        cases hnext with
        | fault f h' => exact .fault f h'
        | session h' =>
          dsimp only
          rw [h'.same.paused_eq]
          split_ifs
          · exact .session h'
          · exact ih h'

theorem run (h : m.Paired v k s t x y) (hpaused : s.paused = false) (he : m.Drives e)
    (hservices : m.services = services.onPartners) (hw : w.Conceals v) :
    m.PairedEnd v k (e.run w s x) (e.run w t y) := by
  have hbound : e.stepBound w t = e.stepBound w s := by
    unfold Engine.stepBound
    rw [h.same.iterations_eq]
  rw [Engine.run_apply hpaused, Engine.run_apply (h.same.paused_eq.trans hpaused), hbound]
  exact h.runFrom he hservices hw _

end Paired

/-! ## Requests -/

/-- The worlds are one and the same, or the session was saved last in both and nothing but the variable differs. -/
inductive Even (m : Manager γ) (v : String) (key : SessionKey) : World γ → World γ → Prop where
  | same (x : World γ) : Even m v key x x
  | paired {k : SessionKey} {s t : Session} {x y : World γ} (hk : k.SharesFile key) (h : m.Paired v k s t x y) :
      Even m v key x y

namespace Even

theorem partners_eq (h : m.Even v key x y) : y.partners = x.partners := by
  cases h with
  | same => rfl
  | paired hk h => exact h.worlds.partners_eq

theorem saves (h : m.Even v key x y) : List.Forall₂ (Session.SameBut v) x.saves y.saves := by
  cases h with
  | same => exact (World.SameBut.refl v key x).saves
  | paired hk h => exact h.worlds.saves

theorem withToken (h : m.Even v key x y) (token : Token) : m.Even v key { x with token } { y with token } := by
  cases h with
  | same => exact .same _
  | paired hk h =>
    exact .paired hk { h with
      worlds := h.worlds.withToken token
      left := ⟨h.left.saved, h.left.head_eq⟩
      right := ⟨h.right.saved, h.right.head_eq⟩ }

/-- What is loaded is the same but for the variable. -/
theorem load (h : m.Even v key x y) (now : String) :
    SameResult v (Repository.load m.store x.files now key) (Repository.load m.store y.files now key) := by
  cases h with
  | same => exact .refl v _
  | @paired k s t _ _ hk h =>
    have ht : t.key.SharesFile key := by rwa [h.same.key_eq, h.key_eq]
    rw [load_of_sharesFile h.left.saved (h.key_eq ▸ hk), load_of_sharesFile h.right.saved ht]
    exact .session h.same.stored

/-- Sessions that are the same but for the variable are saved in both worlds or in neither. -/
theorem save (h : m.Even v key x y) {now : String} {d a b : Session}
    (hload : Repository.load m.store x.files now key = .ok d) (hab : Session.SameBut v a b) (ha : a.key = d.key) :
    (∃ f x' y', m.save a x = (.error f, x') ∧ m.save b y = (.error f, y') ∧ m.Even v key x' y') ∨
      ∃ x' y', m.save a x = (.ok (), x') ∧ m.save b y = (.ok (), y') ∧ m.Paired v d.key a b x' y' := by
  cases h with
  | @paired k s t _ _ hk h =>
    rw [load_of_sharesFile h.left.saved (h.key_eq ▸ hk)] at hload
    obtain rfl := Except.ok.inj hload
    have hd : s.stored.key = k := h.key_eq
    rw [hd] at ha ⊢
    rcases h.save hab ha with ⟨f, hx, hy⟩ | hsaved
    · exact .inl ⟨f, x, y, hx, hy, .paired hk h⟩
    · exact .inr hsaved
  | same =>
    have hb : b.key = d.key := hab.key_eq.trans ha
    obtain ⟨hresult, hfiles⟩ := @save_alike m.store _ _ d.key a b (.refl _ x.files) ha hb hab.fileText_eq
    rcases save_steps m a x with ⟨f, hsave, hx⟩ | ⟨e, f, hsave, hx⟩
    · rcases save_steps m b x with ⟨g, hsave', hy⟩ | ⟨e', g, hsave', hy⟩
      · rw [hsave, hsave'] at hfiles
        have hworlds : World.SameBut v d.key { x with files := f, saves := a :: x.saves }
            { x with files := g, saves := b :: x.saves } :=
          ⟨rfl, rfl, .cons hab (World.SameBut.refl v d.key x).saves, hfiles⟩
        exact .inr ⟨_, _, hx, hy, hab, ha, hworlds, .of_save hx, .of_save hy⟩
      · rw [hsave, hsave'] at hresult
        cases hresult
    · have hsave' := save_of_save_error hsave (hb.trans ha.symm) hab.fileText_eq
      refine .inl ⟨e, _, _, hx, ?_, .same _⟩
      rw [save_apply, hsave']

end Even

/-- The same fault, or sessions of the same workflow that are the same but for the variable. -/
inductive SameStanding (v : String) : Except Fault Standing → Except Fault Standing → Prop where
  | fault (f : Fault) : SameStanding v (.error f) (.error f)
  | standing (w : Workflow) {s t : Session} (h : Session.SameBut v s t) : SameStanding v (.ok ⟨w, s⟩) (.ok ⟨w, t⟩)

/-- The ends of two runs as results of operations. -/
theorem PairedEnd.standing {a b : Except Fault Session × World γ} (h : m.PairedEnd v k a b) (hk : k.SharesFile key)
    (w : Workflow) :
    SameStanding v (a.1.map (⟨w, ·⟩)) (b.1.map (⟨w, ·⟩)) ∧ m.Even v key a.2 b.2 := by
  cases h with
  | fault f h => exact ⟨.fault f, .paired hk h⟩
  | session h => exact ⟨.standing w h.same, .paired hk h⟩

/-- A request to go on, with the same answer or with two answers to the password, comes to the same but for the
variable. -/
theorem Even.resume (h : m.Even v key x y) (hservices : m.services = services.onPartners) (hw : w.Conceals v)
    {cancelled : World γ → Bool} (hstop : World.StopsAlike cancelled) {now : String} {answer answer' : Option Value}
    (hx : ∀ d, Repository.load m.store x.files now key = .ok d →
      Library.get x.files m.directories d.name = .ok w ∧ Engine.SameAnswer w d v answer answer')
    (hy : ∀ d, Repository.load m.store y.files now key = .ok d → Library.get y.files m.directories d.name = .ok w)
    (token : Token) :
    SameStanding v (({ m with cancelled }).resume now key answer token x).1
        (({ m with cancelled }).resume now key answer' token y).1 ∧
      m.Even v key (({ m with cancelled }).resume now key answer token x).2
        (({ m with cancelled }).resume now key answer' token y).2 := by
  set a : Manager γ := { m with cancelled }
  have hdrives : m.Drives (a.engine now) := ⟨rfl, rfl, hstop⟩
  have hnext := h.withToken token
  rcases (h.load now).or with ⟨f, hload, hload'⟩ | ⟨d, d', hload, hload', hsame⟩
  · have hx : a.resume now key answer token x = (.error f, x) := by
      rw [resume_apply, show Repository.load a.store x.files now key = .error f from hload]
    have hy : a.resume now key answer' token y = (.error f, y) := by
      rw [resume_apply, show Repository.load a.store y.files now key = .error f from hload']
    rw [hx, hy]
    exact ⟨.fault f, h⟩
  · obtain ⟨hget, hanswer⟩ := hx d hload
    have hget' := hy d' hload'
    cases hdone : d.completed with
    | true =>
      rw [resume_of_completed (m := a) hload hget hdone,
        resume_of_completed (m := a) hload' hget' (hsame.completed_eq.trans hdone)]
      exact ⟨.standing w hsame, hnext⟩
    | false =>
      have hopen := hsame.completed_eq.trans hdone
      rcases (Engine.sameResult_reopened (e := a.engine now) hsame hanswer).or with
        ⟨f, hf, hf'⟩ | ⟨u, u', hu, hu', husame⟩
      · rw [resume_of_refused (m := a) hload hget hdone hf, resume_of_refused (m := a) hload' hget' hopen hf']
        exact ⟨.fault f, hnext⟩
      · have hkey : u.key = d.key := (Engine.preserves_key (a.engine now) w d.key).reopened rfl hdone hu
        rcases hnext.save hload (husame.resumed (e := a.engine now)) hkey with
          ⟨f, x', y', hxsave, hysave, hend⟩ | ⟨x', y', hxsave, hysave, hpaired⟩
        · rw [resume_of_unsaved (m := a) hload hget hdone hu hxsave,
            resume_of_unsaved (m := a) hload' hget' hopen hu' hysave]
          exact ⟨.fault f, hend⟩
        · rw [resume_of_saved (m := a) hload hget hdone hu hxsave,
            resume_of_saved (m := a) hload' hget' hopen hu' hysave]
          exact (hpaired.run rfl hdrives hservices hw).standing (key_of_load hload) w

/-- The same requests to go on with a session in one world twice, but for the answers to a password, with what they
come to. Each is asked to stop when it pleases, and the workflow that is found for the session stays the same. -/
inductive Twins (m : Manager γ) (w : Workflow) (v : String) (key : SessionKey) :
    List (Except Fault Standing × Except Fault Standing) → World γ → World γ → Prop where
  | begun (x : World γ) : Twins m w v key [] x x
  | resumed {rs : List (Except Fault Standing × Except Fault Standing)} {x y : World γ} (h : Twins m w v key rs x y)
      (now : String) (token : Token) (cancelled : World γ → Bool) (hstop : World.StopsAlike cancelled)
      {answer answer' : Option Value}
      (hx : ∀ d, Repository.load m.store x.files now key = .ok d →
        Library.get x.files m.directories d.name = .ok w ∧ Engine.SameAnswer w d v answer answer')
      (hy : ∀ d, Repository.load m.store y.files now key = .ok d → Library.get y.files m.directories d.name = .ok w) :
      Twins m w v key
        (rs ++ [((({ m with cancelled }).resume now key answer token x).1,
          (({ m with cancelled }).resume now key answer' token y).1)])
        (({ m with cancelled }).resume now key answer token x).2
        (({ m with cancelled }).resume now key answer' token y).2

/-- Whatever was answered to a password, the collaborators are asked the same, and what is saved, returned and
loaded is the same but for its variable, if no step of the workflow reads that. What refuses an answer does not
depend on it either. -/
theorem password_shows_in_its_variable (hservices : m.services = services.onPartners) (hw : w.Conceals v)
    {rs : List (Except Fault Standing × Except Fault Standing)} (h : m.Twins w v key rs x y) :
    (y.partners = x.partners ∧ List.Forall₂ (Session.SameBut v) x.saves y.saves ∧
      (∀ r ∈ rs, SameStanding v r.1 r.2) ∧
      ∀ now, SameResult v (Repository.load m.store x.files now key) (Repository.load m.store y.files now key)) ∧
    ∀ (step : String) (q : Question), q.inputType = .password → ∀ a b f g,
      q.accept step a = .error f → q.accept step b = .error g → f = g := by
  have hall : m.Even v key x y ∧ ∀ r ∈ rs, SameStanding v r.1 r.2 := by
    induction h with
    | begun x => exact ⟨.same x, List.forall_mem_nil _⟩
    | resumed h now token cancelled hstop hx hy ih =>
      obtain ⟨hresult, hnext⟩ := ih.1.resume hservices hw hstop hx hy token
      refine ⟨hnext, fun r hr => ?_⟩
      rcases List.mem_append.mp hr with hr | hr
      · exact ih.2 r hr
      · rw [List.mem_singleton.mp hr]
        exact hresult
  refine ⟨⟨hall.1.partners_eq, hall.1.saves, hall.2, hall.1.load⟩, fun step q hq a b f g hf hg => ?_⟩
  obtain ⟨refusal, hrefusal⟩ := q.exists_refusal hq step
  have heq {a : Value} {f : Fault} (hf : q.accept step a = .error f) : f = refusal := by
    rcases hrefusal a with ⟨p, hp⟩ | hp
    · cases hp.symm.trans hf
    · exact Except.error.inj (hf.symm.trans hp)
  rw [heq hf, heq hg]

/-! ## A workflow that asks for a password -/

/-- The file of the workflow. -/
def vault : Files where
  nodes := [
    (["workflows"], .directory),
    (["workflows", "demo.yaml"], .file (Text.Utf8.encode <|
      "\x7bname: demo, steps: [{id: ask, action: interactive, prompt: Key, inputType: password, variable: key}, " ++
        "{id: use, action: push}]\x7d"))]

/-- The files with that of a session. -/
def lockedVault (bytes : List UInt8) : Files :=
  { vault with nodes := vault.nodes ++ [
      (["state"], .directory), (["state", "demo"], .directory), (["state", "demo", "s.json"], .file bytes)] }

/-- A session that waits for the password. -/
def locked : Session where
  name := "demo"
  id := "s"
  currentStep := some "ask"
  paused := true
  createdAt := "t"
  updatedAt := "t"

theorem find?_lockedVault (bytes : List UInt8) :
    Library.find? (lockedVault bytes) ["workflows"] "demo" = .ok (some (shelfFile "demo.yaml")) := by
  have hdir : (lockedVault bytes).isDirectory ⟨false, ["workflows"]⟩ = .ok true := rfl
  have hlocate : (lockedVault bytes).locate ⟨false, ["workflows"]⟩ = .ok (["workflows"], some .directory) := rfl
  have hhome : (lockedVault bytes).expandHome (.ofText "workflows") = .ok ⟨false, ["workflows"]⟩ := rfl
  have hnames : (lockedVault bytes).namesIn ["workflows"] = ["demo.yaml"] :=
    List.mergeSort_of_pairwise (List.pairwise_singleton _ _)
  have hfiles : Library.files (lockedVault bytes) ["workflows"] = .ok [shelfFile "demo.yaml"] := by
    unfold Library.files Library.filesIn
    simp only [hdir, hlocate, hhome, bind, Except.bind, Except.mapError, hnames]
    rfl
  exact (Library.find?_eq_some_iff hfiles).mpr (.inl (by decide))

/-- The step asks for a password, and two answers to it are taken. -/
def takesPasswords (step : Step) (v : String) (a b : Value) : Bool :=
  match step.task with
  | .interactive q =>
    q.inputType = .password && Step.answerVariable step.id q = v && (q.accept step.id a).isOk &&
      (q.accept step.id b).isOk
  | _ => false

/-- The workflow conceals the password, and two answers to it are taken. -/
theorem get_lockedVault (bytes : List UInt8) :
    ∃ w, Library.get (lockedVault bytes) ["workflows"] "demo" = .ok w ∧ w.Conceals "key" ∧
      Engine.GivesPassword w locked "key" (.text "one") (.text "two") := by
  have hload : (Library.load vault (shelfFile "demo.yaml")).toOption.map (fun w =>
      (w.steps.all (fun step => step.task.templates.all (fun t => !(Template.placeholders t).contains "key") &&
          step.task.conditions.isEmpty),
        (Engine.stepOf? w locked).map fun step => takesPasswords step "key" (.text "one") (.text "two"))) =
      some (true, some true) := by decide +kernel
  obtain ⟨w, hw, hfields⟩ := exists_ok_of_toOption hload
  obtain ⟨hreads, hasks⟩ := Prod.mk.inj hfields
  have hsame : (lockedVault bytes).readText (shelfFile "demo.yaml") = vault.readText (shelfFile "demo.yaml") := rfl
  refine ⟨w, ?_, ⟨fun step hstep t ht => ?_, fun step hstep c hc => ?_⟩, ?_⟩
  · rw [Library.get_of_find? (find?_lockedVault bytes), Library.load, Library.Same.document_eq hsame, ← Library.load,
      hw]
  · have hquiet := List.all_eq_true.mp hreads step hstep
    simp only [Bool.and_eq_true, List.all_eq_true] at hquiet
    simpa using hquiet.1 t ht
  · have hquiet := List.all_eq_true.mp hreads step hstep
    simp only [Bool.and_eq_true, List.isEmpty_iff] at hquiet
    rw [hquiet.2] at hc
    cases hc
  · obtain ⟨step, hstep, htask⟩ := Option.map_eq_some_iff.mp hasks
    unfold takesPasswords at htask
    split at htask
    · rename_i q hq
      simp only [Bool.and_eq_true, decide_eq_true_eq] at htask
      obtain ⟨⟨⟨htype, hname⟩, hone⟩, htwo⟩ := htask
      exact ⟨step, q, hstep, hq, htype, hname, hone.trans htwo.symm⟩
    · cases htask

/-- Two passwords, given to the session that waits, show in its variable alone. -/
theorem passwords_show_in_their_variable :
    ∃ (w : Workflow) (x : World Unit), shelved.IsLast locked x ∧ Library.get x.files ["workflows"] "demo" = .ok w ∧
      w.Conceals "key" ∧
      let m := shelvedUntil fun _ => false
      let one := m.resume "u" ⟨"demo", "s"⟩ (some (.text "one")) {} x
      let two := m.resume "u" ⟨"demo", "s"⟩ (some (.text "two")) {} x
      List.Forall₂ (Session.SameBut "key") one.2.saves two.2.saves ∧ SameStanding "key" one.1 two.1 := by
  have hwrite (data : List UInt8) : bare.store.write "demo/s.json" data vault = (.ok (), lockedVault data) := rfl
  have htext := @exists_fileText_of_pending locked rfl rfl rfl rfl
  obtain ⟨x, hsave⟩ := exists_save_of_write (m := shelved) (s := locked) (x := ⟨vault, {}, [], ()⟩) rfl htext
    fun data => congrArg Prod.fst (hwrite data)
  have hlast : shelved.IsLast locked x := .of_save hsave
  have hfiles : ∃ bytes, x.files = lockedVault bytes := by
    obtain ⟨text, htext⟩ := htext
    have hsaved := save_files hsave
    rw [Repository.save_apply, show locked.key.path = .ok "demo/s.json" from rfl, htext] at hsaved
    exact ⟨_, (Prod.mk.inj (hsaved.symm.trans (hwrite _))).2⟩
  obtain ⟨bytes, hbytes⟩ := hfiles
  obtain ⟨w, hget, hw, hgives⟩ := get_lockedVault bytes
  rw [← hbytes] at hget
  refine ⟨w, x, hlast, hget, hw, ?_⟩
  have hfound (d : Session) (hd : load shelved.store x.files "u" ⟨"demo", "s"⟩ = .ok d) :
      d = locked ∧ Library.get x.files shelved.directories d.name = .ok w := by
    obtain rfl := Except.ok.inj ((load_of_saved hlast.saved "u").symm.trans hd)
    exact ⟨rfl, hget⟩
  have hanswer (d : Session) (hd : load shelved.store x.files "u" ⟨"demo", "s"⟩ = .ok d) :
      Library.get x.files shelved.directories d.name = .ok w ∧
        Engine.SameAnswer w d "key" (some (.text "one")) (some (.text "two")) := by
    obtain ⟨rfl, hw⟩ := hfound d hd
    exact ⟨hw, .password hgives⟩
  have htwins := (Twins.begun (m := shelved) x).resumed "u" {} (fun _ => false) (fun _ _ _ _ _ => rfl) hanswer
    fun d hd => (hfound d hd).2
  obtain ⟨⟨-, hsaves, hresults, -⟩, -⟩ := password_shows_in_its_variable (m := shelved) rfl hw htwins
  exact ⟨hsaves, hresults _ (List.mem_append_right _ List.mem_cons_self)⟩

end Manager

end Runbook
