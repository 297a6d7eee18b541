import Runbook.Proofs.Execution.Turn
import Runbook.Proofs.Manager.Operations
import Runbook.Proofs.Manager.Partners
import Runbook.Proofs.Session.Repository

/-! The worlds to which the operations on one session lead, and what holds of the session in all of them. -/

namespace Runbook

open Repository

variable {γ : Type}

namespace World

/-- Nothing was saved of a session between the two worlds, and its file is as it was. -/
def Untouched (store : Store) (key : SessionKey) (x y : World γ) : Prop :=
  y.saves.filter (·.key = key) = x.saves.filter (·.key = key) ∧
    nodeOf store y.files key = nodeOf store x.files key

theorem Untouched.refl (store : Store) (key : SessionKey) (x : World γ) : Untouched store key x x :=
  ⟨rfl, rfl⟩

theorem Untouched.trans {store : Store} {key : SessionKey} {x y z : World γ}
    (h : Untouched store key x y) (k : Untouched store key y z) : Untouched store key x z :=
  ⟨k.1.trans h.1, k.2.trans h.2⟩

theorem closed_untouched {store : Store} {key : SessionKey} :
    Act.Closed (Act.Moves (@Untouched γ store key)) :=
  Act.closed_moves (Untouched.refl store key) fun _ _ _ => Untouched.trans

end World

namespace Manager

variable {m : Manager γ} {w : Workflow} {id : String} {x y : World γ}

/-- Operations on one session, with others between them that leave it alone. Each operation has its own time
and is asked to stop when it pleases; the workflow that is found for a session stays the same. -/
inductive Reached (m : Manager γ) (w : Workflow) (id : String) : World γ → Prop where
  | fresh {x : World γ} (hsaves : ∀ s ∈ x.saves, s.key ≠ ⟨w.name, id⟩)
      (hfile : nodeOf m.store x.files ⟨w.name, id⟩ = none) : Reached m w id x
  | elsewhere {x y : World γ} (h : Reached m w id x) (hsame : World.Untouched m.store ⟨w.name, id⟩ x y) :
      Reached m w id y
  | started {x : World γ} (h : Reached m w id x) (now : String) (given : Bindings) (asked : Option String)
      (token : Token) (cancelled : World γ → Bool) (hid : (m.idOr asked x).1 = .ok id) :
      Reached m w id (({ m with cancelled }).start now w given asked token x).2
  | resumed {x : World γ} (h : Reached m w id x) (now : String) (key : SessionKey) (answer : Option Value)
      (token : Token) (cancelled : World γ → Bool) (hkey : key.path = (⟨w.name, id⟩ : SessionKey).path)
      (hfound : ∀ v, Library.get x.files m.directories w.name = .ok v → v = w) :
      Reached m w id (({ m with cancelled }).resume now key answer token x).2

/-- The collaborators and new ids leave the session alone. -/
structure LeavesAlone (m : Manager γ) (key : SessionKey) : Prop where
  services : m.services.All (Act.Moves (World.Untouched m.store key))
  newId : Act.Moves (World.Untouched m.store key) String m.newId

/-- Collaborators that see their own part of the world leave every session alone. -/
theorem leavesAlone_of_onPartners {v : Services γ} {act : Act γ String}
    (hservices : m.services = v.onPartners) (hnewId : m.newId = World.onPartners act) (key : SessionKey) :
    m.LeavesAlone key where
  services := hservices ▸ v.all_onPartners (fun _ _ x => World.Untouched.refl m.store key x)
    fun _ _ x => World.Untouched.refl m.store key x
  newId := hnewId ▸ fun x => World.Untouched.refl m.store key x

theorem leavesAlone_bare (key : SessionKey) : bare.LeavesAlone key :=
  @leavesAlone_of_onPartners Unit bare _ (pure "s") rfl rfl key

/-- What was saved of the session has the property, and so has what its file holds. -/
def Holds (m : Manager γ) (key : SessionKey) (P : Session → Prop) (x : World γ) : Prop :=
  (∀ s ∈ x.saves, s.key = key → P s) ∧
    ∀ bytes, nodeOf m.store x.files key = some (.file bytes) →
      ∀ now s, decode now bytes = .ok s → s.key = key ∧ P s

variable {key : SessionKey} {P : Session → Prop}

theorem Holds.untouched (h : m.Holds key P x) (hsame : World.Untouched m.store key x y) :
    m.Holds key P y := by
  obtain ⟨hsaves, hnode⟩ := hsame
  refine ⟨fun s hs hkey => h.1 s ?_ hkey, fun bytes hbytes => h.2 bytes (hnode ▸ hbytes)⟩
  have hmem : s ∈ y.saves.filter (·.key = key) := List.mem_filter.mpr ⟨hs, by simpa using hkey⟩
  rw [hsaves] at hmem
  exact List.mem_of_mem_filter hmem

theorem Holds.token (h : m.Holds key P x) (token : Token) : m.Holds key P { x with token } := h

theorem Holds.of_save {s : Session} (h : m.Holds s.key P x) (hP : P s)
    (hstored : ∀ text, fileText s = .ok text → P s.stored) (hsave : m.save s x = (.ok (), y)) :
    m.Holds s.key P y := by
  have hsaves : y.saves = s :: x.saves := (save_eq_ok hsave).2.1
  have hfiles := save_files hsave
  rcases save_cases m.store s x.files with ⟨f, text, hfile, htext, hnode⟩ | ⟨e, f, hfile, -⟩
  · obtain rfl : f = y.files := (Prod.mk.inj (hfile.symm.trans hfiles)).2
    refine ⟨fun t ht hkey => ?_, fun bytes hbytes now t ht => ?_⟩
    · rw [hsaves] at ht
      rcases List.mem_cons.mp ht with rfl | ht
      · exact hP
      · exact h.1 t ht hkey
    · obtain rfl := FileNode.file.inj (Option.some.inj (hnode.symm.trans hbytes))
      obtain rfl := Except.ok.inj ((decode_fileText htext now).symm.trans ht)
      exact ⟨rfl, hstored text htext⟩
  · cases (Prod.mk.inj (hfile.symm.trans hfiles)).1

/-- A save that fails changes nothing of what was saved. -/
theorem untouched_of_save_error {s : Session} {e : Fault} (hsave : m.save s x = (.error e, y)) :
    World.Untouched m.store s.key x y := by
  rw [save_apply] at hsave
  rcases save_cases m.store s x.files with ⟨f, text, hfile, -, -⟩ | ⟨e', f, hfile, hnode⟩
  · rw [hfile] at hsave
    cases (Prod.mk.inj hsave).1
  · rw [hfile] at hsave
    obtain ⟨-, rfl⟩ := Prod.mk.inj hsave
    exact ⟨rfl, hnode⟩

/-- What a property of sessions needs to hold in all worlds that are reached. -/
structure Invariant (m : Manager γ) (w : Workflow) (id : String) (P : Session → Prop) : Prop where
  initial : ∀ given now, P (Repository.initial w given id now)
  preserves : ∀ now cancelled, ({ m with cancelled }.engine now).Preserves w P
  stored : ∀ s text, P s → fileText s = .ok text → P s.stored

theorem Invariant.and {Q : Session → Prop} (hP : m.Invariant w id P) (hQ : m.Invariant w id Q) :
    m.Invariant w id fun s => P s ∧ Q s where
  initial given now := ⟨hP.initial given now, hQ.initial given now⟩
  preserves now cancelled := (hP.preserves now cancelled).and (hQ.preserves now cancelled)
  stored s text h htext := ⟨hP.stored s text h.1 htext, hQ.stored s text h.2 htext⟩

/-- What it needs if it is read back only with sessions of a kind. -/
structure InvariantWhere (m : Manager γ) (w : Workflow) (id : String) (C P : Session → Prop) : Prop where
  initial : ∀ given now, P (Repository.initial w given id now)
  preserves : ∀ now cancelled, ({ m with cancelled }.engine now).Preserves w P
  stored : ∀ s text, C s → P s → fileText s = .ok text → P s.stored

theorem Invariant.anywhere (h : m.Invariant w id P) : m.InvariantWhere w id (fun _ => True) P where
  initial := h.initial
  preserves := h.preserves
  stored s text _ := h.stored s text

variable {C : Session → Prop} {r : Except Fault Standing × World γ}

theorem InvariantWhere.preserves_of (h : m.InvariantWhere w id C P) (now : String) (cancelled : World γ → Bool)
    {v : Workflow} (hv : v = w) :
    ({ m with cancelled }.engine now).Preserves v fun s => s.key = (⟨w.name, id⟩ : SessionKey) ∧ P s :=
  (Engine.preserves_key _ v _).and (hv ▸ h.preserves now cancelled)

/-- Whatever was saved of the session is of the kind. -/
def AllSaved (key : SessionKey) (C : Session → Prop) (x : World γ) : Prop := ∀ s ∈ x.saves, s.key = key → C s

theorem AllSaved.of_untouched (h : AllSaved key C y) (hsame : World.Untouched m.store key x y) :
    AllSaved key C x := by
  intro s hs hkey
  have hmem : s ∈ x.saves.filter (·.key = key) := List.mem_filter.mpr ⟨hs, by simpa using hkey⟩
  rw [← hsame.1] at hmem
  exact h s (List.mem_of_mem_filter hmem) hkey

theorem AllSaved.of_save {s : Session} (h : AllSaved key C (m.save s x).2) : AllSaved key C x := by
  intro t ht hkey
  rcases save_steps m s x with ⟨f, -, hsave⟩ | ⟨e, f, -, hsave⟩
  · exact h t (hsave ▸ List.mem_cons_of_mem s ht) hkey
  · exact h t (hsave ▸ ht) hkey

/-- The saves of sessions that have a property keep it, if reading back preserves it for sessions of the kind. -/
theorem Holds.save_where {s : Session} (hs : s.key = key ∧ P s)
    (hstored : ∀ text, C s → fileText s = .ok text → P s.stored) (h : AllSaved key C x → m.Holds key P x)
    (hsaved : AllSaved key C (m.save s x).2) : m.Holds key P (m.save s x).2 := by
  obtain ⟨rfl, hP⟩ := hs
  have hbefore := h hsaved.of_save
  rcases hsave : m.save s x with ⟨e | u, y⟩
  · exact hbefore.untouched (untouched_of_save_error hsave)
  · rw [hsave] at hsaved
    have hmem : s ∈ y.saves := (save_eq_ok hsave).2.1 ▸ List.mem_cons_self
    exact hbefore.of_save hP (fun text => hstored text (hsaved s hmem rfl)) hsave

/-- A property that reading back preserves is kept by the saves of sessions that have it. -/
theorem Holds.save (hstored : ∀ s text, P s → fileText s = .ok text → P s.stored) {s : Session}
    (hs : s.key = key ∧ P s) (h : m.Holds key P x) : m.Holds key P (m.save s x).2 :=
  Holds.save_where hs (fun text (_ : True) => hstored s text hs.2) (fun _ => h) fun _ _ _ => trivial

/-- Engines with the workflow of the session keep the invariant of it as long as what they save is of the kind. -/
theorem guards (hP : m.InvariantWhere w id C P) (halone : m.LeavesAlone ⟨w.name, id⟩) (now : String)
    (cancelled : World γ → Bool) :
    ({ m with cancelled }).Guards now (fun v s => v = w ∧ s.key = (⟨w.name, id⟩ : SessionKey) ∧ P s)
      fun x => AllSaved ⟨w.name, id⟩ C x → m.Holds ⟨w.name, id⟩ P x where
  keeps _ := {
    turn := fun s t ⟨hv, hs⟩ hdone hpaused hfailed hturn =>
      ⟨hv, (hP.preserves_of now cancelled hv).turn s t hs hdone hpaused hfailed hturn⟩
    answered := fun s a t ⟨hv, hs⟩ hdone ha => ⟨hv, (hP.preserves_of now cancelled hv).answered s a t hs hdone ha⟩
    resumed := fun s ⟨hv, hs⟩ hdone => ⟨hv, (hP.preserves_of now cancelled hv).resumed s hs hdone⟩
    perform := fun s step x h hsaved => by
      have hsame := (m.engine now).performed_all World.closed_untouched halone.services s step x
      exact (h (hsaved.of_untouched hsame)).untouched hsame
    save := fun s _ ⟨_, hs⟩ h hsaved => Holds.save_where hs (hP.stored s · · hs.2) h hsaved }
  token _ token h hsaved := (h hsaved).token token

theorem load_holds (h : m.Holds key P x) {now : String} {other : SessionKey} (hkey : other.path = key.path)
    {s : Session} (hload : Repository.load m.store x.files now other = .ok s) : s.key = key ∧ P s := by
  obtain ⟨bytes, hnode, hdecode, -⟩ := load_eq_ok hload
  refine h.2 bytes ?_ now s hdecode
  rw [← hnode, nodeOf, nodeOf, hkey]

/-- What a start or a resumption of the session in a world comes to. -/
inductive Operation (m : Manager γ) (w : Workflow) (id : String) (x : World γ) :
    Except Fault Standing × World γ → Prop where
  | start (now : String) (given : Bindings) (asked : Option String) (token : Token) (cancelled : World γ → Bool)
      (hid : (m.idOr asked x).1 = .ok id) : Operation m w id x (({ m with cancelled }).start now w given asked token x)
  | resume (now : String) (key : SessionKey) (answer : Option Value) (token : Token) (cancelled : World γ → Bool)
      (hkey : key.path = (⟨w.name, id⟩ : SessionKey).path)
      (hfound : ∀ v, Library.get x.files m.directories w.name = .ok v → v = w) :
      Operation m w id x (({ m with cancelled }).resume now key answer token x)

/-- No operation takes back what was saved. -/
theorem Operation.allSaved (h : m.Operation w id x r) (halone : m.LeavesAlone ⟨w.name, id⟩)
    (hsaved : AllSaved ⟨w.name, id⟩ C r.2) : AllSaved ⟨w.name, id⟩ C x := by
  have hguards (now : String) (cancelled : World γ → Bool) : ({ m with cancelled }).Guards now (fun _ _ => True)
      fun y => AllSaved ⟨w.name, id⟩ C y → AllSaved ⟨w.name, id⟩ C x := {
    keeps := fun _ => {
      turn := fun _ _ _ _ _ _ _ => trivial
      answered := fun _ _ _ _ _ _ => trivial
      resumed := fun _ _ _ => trivial
      perform := fun s step y h hsaved => h <| hsaved.of_untouched <|
        (m.engine now).performed_all World.closed_untouched halone.services s step y
      save := fun _ _ _ h hsaved => h (AllSaved.of_save (m := m) hsaved) }
    token := fun _ _ h hsaved => h hsaved }
  cases h with
  | start now given asked token cancelled hid =>
    have hmoves := idOr_moves (World.Untouched.refl m.store _) halone.newId asked x
    exact ((hguards now cancelled).start (fun h => h.of_untouched hmoves) (fun _ _ => trivial) token fun h => h).1
      hsaved
  | resume now key answer token cancelled hkey hfound =>
    exact ((hguards now cancelled).resume (fun _ _ _ _ => trivial) answer token fun h => h).1 hsaved

/-- An operation on a session of which the invariant holds ends with a session of which it holds. -/
theorem Operation.endsAt (h : m.Operation w id x r) (hP : m.InvariantWhere w id C P)
    (halone : m.LeavesAlone ⟨w.name, id⟩) (hx : AllSaved ⟨w.name, id⟩ C x → m.Holds ⟨w.name, id⟩ P x)
    (hsaved : AllSaved ⟨w.name, id⟩ C r.2) :
    EndsAt (fun v s => v = w ∧ s.key = (⟨w.name, id⟩ : SessionKey) ∧ P s) (m.Holds ⟨w.name, id⟩ P) r := by
  have hbefore := hx (h.allSaved halone hsaved)
  cases h with
  | start now given asked token cancelled hid =>
    have hmoves := idOr_moves (World.Untouched.refl m.store _) halone.newId asked x
    have hnew (i : String) (hi : (m.idOr asked x).1 = .ok i) :
        w = w ∧ (initial w given i now).key = (⟨w.name, id⟩ : SessionKey) ∧ P (initial w given i now) := by
      obtain rfl : id = i := Except.ok.inj (hid.symm.trans hi)
      exact ⟨rfl, rfl, hP.initial given now⟩
    have hends := (guards hP halone now cancelled).start (fun _ => hbefore.untouched hmoves) hnew token
      fun _ => hbefore
    exact ⟨hends.1 hsaved, hends.2⟩
  | resume now key answer token cancelled hkey hfound =>
    have hloaded (s : Session) (v : Workflow) (hload : load m.store x.files now key = .ok s)
        (hget : Library.get x.files m.directories s.name = .ok v) :
        v = w ∧ s.key = (⟨w.name, id⟩ : SessionKey) ∧ P s := by
      obtain ⟨hskey, hs⟩ := load_holds hbefore hkey hload
      rw [show s.name = w.name from congrArg SessionKey.workflow hskey] at hget
      exact ⟨hfound v hget, hskey, hs⟩
    have hends := (guards hP halone now cancelled).resume hloaded answer token fun _ => hbefore
    exact ⟨hends.1 hsaved, hends.2⟩

/-- An invariant of the sessions holds of all that was saved in a world that is reached, and of what the file
of the session holds. -/
theorem Reached.holds_where (hP : m.InvariantWhere w id C P) (halone : m.LeavesAlone ⟨w.name, id⟩)
    (h : m.Reached w id x) (hsaved : AllSaved ⟨w.name, id⟩ C x) : m.Holds ⟨w.name, id⟩ P x := by
  induction h with
  | fresh hsaves hfile =>
    refine ⟨fun s hs hkey => absurd hkey (hsaves s hs), fun bytes hbytes => ?_⟩
    rw [hfile] at hbytes
    cases hbytes
  | elsewhere _ hsame ih => exact (ih (hsaved.of_untouched hsame)).untouched hsame
  | started _ now given asked token cancelled hid ih =>
    exact ((Operation.start now given asked token cancelled hid).endsAt hP halone ih hsaved).1
  | resumed _ now key answer token cancelled hkey hfound ih =>
    exact ((Operation.resume now key answer token cancelled hkey hfound).endsAt hP halone ih hsaved).1

theorem Reached.holds (hP : m.Invariant w id P) (halone : m.LeavesAlone ⟨w.name, id⟩)
    (h : m.Reached w id x) : m.Holds ⟨w.name, id⟩ P x :=
  h.holds_where hP.anywhere halone fun _ _ _ => trivial

end Manager

end Runbook
