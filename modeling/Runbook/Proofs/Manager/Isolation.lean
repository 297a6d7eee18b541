import Runbook.Proofs.Manager.Reached
import Runbook.Proofs.Session.Untimed

/-! Calls that are addressed to one session leave the sessions with other files alone, and return none of
them. -/

namespace Runbook

open Repository

variable {γ : Type} {m : Manager γ} {w : Workflow} {s : Session} {k l : SessionKey} {x y : World γ}

/-- A call that is addressed to one session. -/
inductive Call where
  | save (s : Session)
  | load (now : String) (key : SessionKey)
  | delete (key : SessionKey)
  | start (now : String) (w : Workflow) (given : Bindings) (asked : Option String) (token : Token)
  | startNamed (now name : String) (given : Bindings) (asked : Option String) (token : Token)
  | resume (now : String) (key : SessionKey) (answer : Option Value) (token : Token)
  | abandon (key : SessionKey)

namespace Call

/-- What a call does, with the session that it returns. The status of a session is what is loaded. -/
def perform (m : Manager γ) : Call → Act (World γ) (Option Session)
  | .save s => do
    m.save s
    return none
  | .load now key => do return some (← m.loadSession now key)
  | .delete key => do
    let _ ← m.delete key
    return none
  | .start now w given asked token => do return some (← m.start now w given asked token).session
  | .startNamed now name given asked token => do
    return some (← m.startNamed now name given asked token).session
  | .resume now key answer token => do return some (← m.resume now key answer token).session
  | .abandon key => do
    m.abandon key
    return none

/-- The session to which a call is addressed; for a start it is the one that is to be. -/
def IsAddressedTo (m : Manager γ) (x : World γ) : Call → SessionKey → Prop
  | .save saved, k => k = saved.key
  | .load _ key, k => k = key
  | .delete key, k => k = key
  | .start _ w _ asked _, k => ∃ id, (m.idOr asked x).1 = .ok id ∧ k = ⟨w.name, id⟩
  | .startNamed _ name _ asked _, k =>
    ∃ w id, Library.get x.files m.directories name = .ok w ∧ (m.idOr asked x).1 = .ok id ∧ k = ⟨w.name, id⟩
  | .resume _ key _ _, k => k = key
  | .abandon key, k => k = key

end Call

/-- The session with which a call ends, if any. -/
def Call.returned : Except Fault (Option Session) → List Session
  | .ok (some s) => [s]
  | _ => []

theorem Call.mem_returned {r : Except Fault (Option Session)} : s ∈ Call.returned r ↔ r = .ok (some s) := by
  unfold Call.returned
  split
  · rw [List.mem_singleton, Except.ok.injEq, Option.some.injEq]
    exact eq_comm
  · rename_i hr
    exact ⟨nofun, fun h => (hr s h).elim⟩

/-! ## Operations on one session -/

namespace World.Untouched

/-- A save touches no session with another file. -/
theorem save (hother : ¬s.key.SharesFile l) (x : World γ) : Untouched m.store l x (m.save s x).2 := by
  have hkey : s.key ≠ l := fun heq => hother (heq ▸ SessionKey.SharesFile.refl l)
  have hfile := nodeOf_save_of_other hother m.store x.files
  rw [Manager.save_apply]
  rcases hsave : Repository.save m.store s x.files with ⟨e | u, f⟩
  · rw [hsave] at hfile
    exact ⟨rfl, hfile⟩
  · rw [hsave] at hfile
    refine ⟨?_, hfile⟩
    dsimp only
    rw [List.filter_cons_of_neg (by simpa using hkey)]

/-- Neither does a deletion. -/
theorem delete (hother : ¬k.SharesFile l) (x : World γ) : Untouched m.store l x (m.delete k x).2 :=
  ⟨rfl, nodeOf_delete_of_other hother m.store x.files⟩

end World.Untouched

namespace Manager

theorem key_of_load {store : Store} {f : Files} {now : String} (h : load store f now k = .ok s) :
    s.key.SharesFile k := by
  obtain ⟨-, -, -, hbelongs⟩ := load_eq_ok h
  exact belongs_iff_sharesFile.mp hbelongs

theorem abandon_world (m : Manager γ) (key : SessionKey) (x : World γ) :
    (m.abandon key x).2 = (m.delete key x).2 := by
  unfold abandon
  rw [Act.bind_apply]
  cases (m.delete key x).1 with
  | error e => rfl
  | ok found => cases found <;> rfl

end Manager

/-! ## Calls -/

namespace Call

variable {c : Call} {I : World γ → Prop} {K : SessionKey → Prop}

/-- The call leaves the world as it should be and returns, if any, a session of such a key. -/
def EndsAt (I : World γ → Prop) (K : SessionKey → Prop) (r : Except Fault (Option Session) × World γ) : Prop :=
  I r.2 ∧ ∀ s, r.1 = .ok (some s) → K s.key

theorem bind_pure_apply {α β : Type} (act : Act (World γ) α) (f : α → β) (x : World γ) :
    (act >>= fun a => pure (f a)) x = ((act x).1.map f, (act x).2) := by
  rw [Act.bind_apply]
  cases (act x).1 <;> rfl

theorem endsAt_none {α : Type} {act : Act (World γ) α} (hI : I (act x).2) :
    EndsAt I K ((act >>= fun _ => pure none) x) := by
  rw [bind_pure_apply]
  refine ⟨hI, fun s hs => ?_⟩
  cases hr : (act x).1 with
  | error e =>
    rw [hr] at hs
    cases hs
  | ok a =>
    rw [hr] at hs
    cases Except.ok.inj hs

theorem endsAt_some {α : Type} {act : Act (World γ) α} {f : α → Session} (hI : I (act x).2)
    (hK : ∀ a, (act x).1 = .ok a → K (f a).key) : EndsAt I K ((act >>= fun a => pure (some (f a))) x) := by
  rw [bind_pure_apply]
  refine ⟨hI, fun s hs => ?_⟩
  cases hr : (act x).1 with
  | error e =>
    rw [hr] at hs
    cases hs
  | ok a =>
    rw [hr] at hs
    obtain rfl := Option.some.inj (Except.ok.inj hs)
    exact hK a hr

/-- The keys with the file of a session to which the call is addressed. -/
def Concerns (m : Manager γ) (x : World γ) (c : Call) (l : SessionKey) : Prop :=
  ∃ k, c.IsAddressedTo m x k ∧ l.SharesFile k

/-- A call leaves the world as it should be if the engines for such sessions do, and returns a session only
with the file of the one to which it is addressed. -/
theorem perform_endsAt (h : ∀ now, m.Guards now (fun _ s => c.Concerns m x s.key) I)
    (hnew : ∀ asked, I (m.idOr asked x).2) (hsave : ∀ s, c.Concerns m x s.key → I (m.save s x).2)
    (hdelete : ∀ k, c.Concerns m x k → I (m.delete k x).2) (hI : I x) :
    EndsAt I (c.Concerns m x) (c.perform m x) := by
  have hself (k : SessionKey) (hk : c.IsAddressedTo m x k) : c.Concerns m x k := ⟨k, hk, .refl k⟩
  unfold perform
  cases c with
  | save s => exact endsAt_none (hsave s (hself _ rfl))
  | load now key => exact endsAt_some hI fun s hs => ⟨key, rfl, Manager.key_of_load hs⟩
  | delete key => exact endsAt_none (hdelete key (hself key rfl))
  | start now w given asked token =>
    have hids (id : String) (hid : (m.idOr asked x).1 = .ok id) := hself ⟨w.name, id⟩ ⟨id, hid, rfl⟩
    have hend : Manager.EndsAt _ I (m.start now w given asked token x) :=
      (h now).start (hnew asked) hids token hI
    exact endsAt_some hend.1 hend.2
  | startNamed now name given asked token =>
    cases hget : Library.get x.files m.directories name with
    | error e =>
      have happly : m.startNamed now name given asked token x = (.error e, x) := by
        rw [Manager.startNamed_apply, hget]
      refine endsAt_some ?_ ?_ <;> rw [happly]
      · exact hI
      · exact fun st hst => nomatch hst
    | ok w =>
      have happly : m.startNamed now name given asked token x = m.start now w given asked token x := by
        rw [Manager.startNamed_apply, hget]
      have hids (id : String) (hid : (m.idOr asked x).1 = .ok id) :=
        hself ⟨w.name, id⟩ ⟨w, id, hget, hid, rfl⟩
      have hend : Manager.EndsAt _ I (m.start now w given asked token x) :=
        (h now).start (hnew asked) hids token hI
      refine endsAt_some ?_ ?_ <;> rw [happly]
      · exact hend.1
      · exact hend.2
  | resume now key answer token =>
    have hend := (h now).resume (fun s w hload _ => ⟨key, rfl, Manager.key_of_load hload⟩) answer token hI
    exact endsAt_some hend.1 hend.2
  | abandon key =>
    refine endsAt_none ?_
    rw [Manager.abandon_world]
    exact hdelete key (hself key rfl)

end Call

namespace Manager

/-- Engines for sessions of some keys save no other sessions. -/
theorem preserves_keys (m : Manager γ) (now : String) (w : Workflow) (K : SessionKey → Prop) :
    (m.engine now).Preserves w fun s => K s.key where
  turn _ _ h _ _ _ hturn := Engine.key_of_turn hturn ▸ h
  answered s a t h hdone ha := (Engine.preserves_key _ w s.key).answered s a t rfl hdone ha ▸ h
  resumed _ h _ := h

/-- The engines for sessions with other files leave a session alone. -/
theorem guards_untouched (halone : m.LeavesAlone l) {K : SessionKey → Prop} (hK : ∀ k, K k → ¬k.SharesFile l)
    (now : String) (x : World γ) :
    m.Guards now (fun _ s => K s.key) (World.Untouched m.store l x) where
  keeps w := {
    toPreserves := preserves_keys m now w K
    perform := fun s step y h =>
      h.trans ((m.engine now).performed_all World.closed_untouched halone.services s step y)
    save := fun s y hs h => h.trans (.save (hK s.key hs) y) }
  token _ _ h := h

theorem guards_keys (m : Manager γ) (now : String) (K : SessionKey → Prop) :
    m.Guards now (fun _ s => K s.key) fun _ => True where
  keeps w := {
    toPreserves := preserves_keys m now w K
    perform := fun _ _ _ _ => trivial
    save := fun _ _ _ _ => trivial }
  token _ _ h := h

end Manager

namespace Call

variable {c : Call}

/-- A call touches no session with another file than that of the session to which it is addressed. -/
theorem perform_untouched (halone : m.LeavesAlone l) (hother : ∀ k, c.IsAddressedTo m x k → ¬k.SharesFile l) :
    World.Untouched m.store l x (c.perform m x).2 := by
  have hrefl := World.Untouched.refl (γ := γ) m.store l
  have hconcerns (k : SessionKey) (hk : c.Concerns m x k) : ¬k.SharesFile l := by
    obtain ⟨k', hk', hshares⟩ := hk
    exact fun hl => hother k' hk' (hshares.symm.trans hl)
  refine (perform_endsAt (fun now => Manager.guards_untouched halone hconcerns now x) ?_ ?_ ?_ (hrefl x)).1
  · exact fun asked => Manager.idOr_moves hrefl halone.newId asked x
  · exact fun s hs => .save (hconcerns s.key hs) x
  · exact fun k hk => .delete (hconcerns k hk) x

/-- A call returns a session only with the file of the one to which it is addressed. -/
theorem key_of_perform (h : (c.perform m x).1 = .ok (some s)) :
    ∃ k, c.IsAddressedTo m x k ∧ s.key.SharesFile k :=
  (perform_endsAt (fun now => m.guards_keys now _) (fun _ => trivial) (fun _ _ => trivial)
    (fun _ _ => trivial) trivial).2 s h

end Call

namespace Manager

/-- Calls in turn that are addressed to sessions with other files than one session has, and the sessions that
they return. Each is asked to stop when it pleases. -/
inductive Elsewhere (m : Manager γ) (l : SessionKey) (x : World γ) : List Session → World γ → Prop where
  | none : Elsewhere m l x [] x
  | call {y : World γ} {ss : List Session} (h : Elsewhere m l x ss y)
      (cancelled : World γ → Bool) (c : Call)
      (hother : ∀ k, c.IsAddressedTo { m with cancelled } y k → ¬k.SharesFile l) :
      Elsewhere m l x (ss ++ Call.returned (c.perform { m with cancelled } y).1)
        (c.perform { m with cancelled } y).2

/-- Whatever the world, calls that are addressed to sessions with other files leave a session alone: it is
neither saved nor deleted, and not returned. A session that is loaded has the file of the key. -/
theorem isolated (halone : m.LeavesAlone l) {ss : List Session} (h : m.Elsewhere l x ss y) :
    World.Untouched m.store l x y ∧ (∀ s ∈ ss, s.key ≠ l) ∧
      ∀ now k s, load m.store y.files now k = .ok s → s.key.SharesFile k := by
  refine ⟨?_, ?_, fun now k s => key_of_load⟩
  · induction h with
    | none => exact World.Untouched.refl m.store l x
    | call _ cancelled c hother ih =>
      have halone' : ({ m with cancelled } : Manager γ).LeavesAlone l := ⟨halone.services, halone.newId⟩
      have hstep := c.perform_untouched halone' hother
      exact ih.trans hstep
  · induction h with
    | none => exact nofun
    | call _ cancelled c hother ih =>
      intro s hs
      rcases List.mem_append.mp hs with hs | hs
      · exact ih s hs
      · obtain ⟨k, hk, hshares⟩ := Call.key_of_perform (Call.mem_returned.mp hs)
        rintro rfl
        exact hother k hk hshares.symm

/-- A session is started and given up while another one waits. -/
theorem isolated_asking :
    let x := (bare.save (initial .asking [] "s" "t") .empty).2
    let y := ((Call.start "u" .asking [] (some "r") {}).perform { bare with cancelled := bare.cancelled } x).2
    let z := ((Call.abandon ⟨"demo", "r"⟩).perform { bare with cancelled := bare.cancelled } y).2
    World.Untouched bare.store ⟨"demo", "s"⟩ x z := by
  intro x y z
  have hother : ¬(⟨"demo", "r"⟩ : SessionKey).SharesFile ⟨"demo", "s"⟩ := by simp [SessionKey.SharesFile]
  have hstarted := (Elsewhere.none (m := bare) (l := ⟨"demo", "s"⟩) (x := x)).call bare.cancelled
    (.start "u" .asking [] (some "r") {}) (by
      rintro k ⟨id, hid, rfl⟩
      obtain rfl : "r" = id := Except.ok.inj hid
      exact hother)
  have hgiven := hstarted.call bare.cancelled (.abandon ⟨"demo", "r"⟩) (by
    rintro k rfl
    exact hother)
  exact (isolated (leavesAlone_bare _) hgiven).1

/-- A session under a name with a blank in it. -/
def spaced : Session := initial { Workflow.asking with name := "a b" } [] "s" "t"

/-- Two keys share a file, so that under one of them the session of the other is loaded. -/
theorem exists_shared_file :
    ∃ (k l : SessionKey) (path path' : String) (x : World Unit) (s : Session),
      k ≠ l ∧ k.path = .ok path ∧ l.path = .ok path' ∧ s.key = l ∧ (bare.loadSession "u" k x).1 = .ok s := by
  obtain ⟨text, htext⟩ := @exists_fileText_of_pending spaced rfl rfl rfl rfl
  have hwritten (data : List UInt8) : (bare.store.write "a_b/s.json" data {}).1 = .ok () := rfl
  have hsave : Repository.save bare.store spaced {} =
      (.ok (), (bare.store.write "a_b/s.json" (Text.Utf8.encode text) {}).2) := by
    rw [Repository.save_apply, htext]
    exact Prod.ext (hwritten _) rfl
  have hshares : spaced.key.SharesFile ⟨"a_b", "s"⟩ := ⟨rfl, rfl⟩
  have hloaded := load_of_sharesFile (saved_of_save hsave) hshares "u"
  exact ⟨⟨"a_b", "s"⟩, ⟨"a b", "s"⟩, "a_b/s.json", "a_b/s.json", ⟨_, {}, [], ()⟩, spaced, by decide, rfl, rfl,
    rfl, hloaded⟩

end Manager

end Runbook
