import Runbook.Proofs.Execution.Bound
import Runbook.Proofs.Execution.Untimed
import Runbook.Proofs.Files.Alike
import Runbook.Proofs.Manager.Crash

/-! A session that is asked to stop between its steps and goes on later comes to the same as one that is never
asked: the collaborators are asked the same, and what is saved last is the same, times apart. -/

namespace Runbook

open Repository Session

variable {γ : Type} {v : Services γ} {m : Manager γ} {w : Workflow} {s t : Session} {key k : SessionKey}
  {x y : World γ}

/-! ## Worlds -/

namespace World

/-- The collaborators are in the same state, and the files differ in the contents of those of a session at
most. -/
structure SameButFile (k : SessionKey) (x y : World γ) : Prop where
  partners_eq : y.partners = x.partners
  files : Files.Alike k.Names x.files y.files

theorem SameButFile.refl (k : SessionKey) (x : World γ) : SameButFile k x x := ⟨rfl, .refl _ _⟩

theorem SameButFile.trans {z : World γ} (h : SameButFile k x y) (h' : SameButFile k y z) : SameButFile k x z :=
  ⟨h'.partners_eq.trans h.partners_eq, h.files.trans h'.files⟩

theorem SameButFile.symm (h : SameButFile k x y) : SameButFile k y x := ⟨h.partners_eq.symm, h.files.symm⟩

/-- Collaborators that see their own part do the same, whatever stands in the file of a session. -/
theorem respects_onPartners (k : SessionKey) (v : Services γ) :
    v.onPartners.All (Act.Respects (SameButFile k)) := by
  refine v.all_onPartners (fun α act x y h => ?_) fun dir file x y h => ⟨?_, h⟩
  · unfold onPartners
    rw [Act.within_apply, Act.within_apply, h.partners_eq]
    exact ⟨rfl, rfl, h.files⟩
  · unfold fileExists
    rw [h.files.isThereFrom]

/-- Neither the files nor what was saved has changed. -/
structure SameStore (x y : World γ) : Prop where
  files_eq : y.files = x.files
  saves_eq : y.saves = x.saves

/-- The sessions that were saved between two worlds. -/
def savedSince (x y : World γ) : List Session := y.saves.take (y.saves.length - x.saves.length)

theorem mem_savedSince {before after : List Session} (hy : y.saves = before ++ s :: after)
    (hx : x.saves <:+ after) : s ∈ savedSince x y := by
  have hle := hx.length_le
  have hlength : y.saves.length = before.length + (after.length + 1) := by
    rw [hy, List.length_append, List.length_cons]
  obtain ⟨n, hn⟩ : ∃ n, y.saves.length - x.saves.length = (before ++ [s]).length + n :=
    ⟨after.length - x.saves.length, by rw [List.length_append, List.length_singleton]; omega⟩
  have hsplit : y.saves = (before ++ [s]) ++ after := by rw [hy, List.append_assoc, List.singleton_append]
  unfold savedSince
  rw [hn, hsplit, List.take_length_add_append]
  simp

theorem closed_sameStore : Act.Closed (Act.Moves (@SameStore γ)) :=
  Act.closed_moves (fun _ => ⟨rfl, rfl⟩) fun _ _ _ h h' =>
    ⟨h'.files_eq.trans h.files_eq, h'.saves_eq.trans h.saves_eq⟩

theorem moves_onPartners (v : Services γ) : v.onPartners.All (Act.Moves (@SameStore γ)) :=
  v.all_onPartners (fun _ _ _ => ⟨rfl, rfl⟩) fun _ _ _ => ⟨rfl, rfl⟩

end World

namespace Manager

/-- The manager, asked to stop as soon as so many sessions were saved, if ever. -/
def askedAfter (m : Manager γ) (bound : Option ℕ) : Manager γ :=
  { m with cancelled := fun x => bound.any fun n => decide (n ≤ x.saves.length) }

/-! ## What was saved last -/

/-- The session is what was saved last, and another one can be saved in its place. -/
structure IsLast (m : Manager γ) (s : Session) (x : World γ) : Prop where
  saved : Saved m.store s x.files
  head_eq : x.saves.head? = some s

theorem IsLast.of_save (h : m.save s x = (.ok (), y)) : m.IsLast s y := by
  obtain ⟨hsaved, hsaves, -⟩ := save_eq_ok h
  exact ⟨hsaved, by rw [hsaves, List.head?_cons]⟩

theorem IsLast.of_sameStore (h : m.IsLast s x) (hsame : World.SameStore x y) : m.IsLast s y :=
  ⟨hsame.files_eq.symm ▸ h.saved, hsame.saves_eq.symm ▸ h.head_eq⟩

/-- Where a session was saved, nothing happens to another one of its key that cannot be written. -/
theorem IsLast.save_eq_error (h : m.IsLast s x) (hkey : t.key = s.key) {f : Fault} (htext : fileText t = .error f) :
    m.save t x = (.error f, x) := by
  obtain ⟨path, -, hpath, -⟩ := h.saved.ready
  rw [save_apply, Repository.save_apply, hkey, hpath, htext]

/-- One that can be written is saved. -/
theorem IsLast.exists_save (h : m.IsLast s x) (hkey : t.key = s.key) (htext : ∃ text, fileText t = .ok text) :
    ∃ y, m.save t x = (.ok (), y) ∧ World.SameButFile s.key x y := by
  obtain ⟨f, hsave, -, halike⟩ := save_of_saved h.saved hkey htext
  have happly : m.save t x = (.ok (), { x with files := f, saves := t :: x.saves }) := by
    rw [save_apply, hsave]
  exact ⟨_, happly, rfl, halike⟩

/-- In worlds that are the same but for the file of a session, two sessions of its key are both saved or neither is. -/
theorem save_both (hleft : m.IsLast s x) (hright : m.IsLast t y) (hs : s.key = k) (ht : t.key = k)
    (h : World.SameButFile k x y) {a b : Session} (ha : a.key = k) (hb : b.key = k)
    (htext : (∃ f, fileText a = .error f ∧ fileText b = .error f) ∨
      (∃ text, fileText a = .ok text) ∧ ∃ text, fileText b = .ok text) :
    (∃ f, m.save a x = (.error f, x) ∧ m.save b y = (.error f, y)) ∨
      ∃ x' y', m.save a x = (.ok (), x') ∧ m.save b y = (.ok (), y') ∧ World.SameButFile k x' y' := by
  have hkey : a.key = s.key := ha.trans hs.symm
  have hkey' : b.key = t.key := hb.trans ht.symm
  rcases htext with ⟨f, hf, hg⟩ | ⟨hf, hg⟩
  · exact .inl ⟨f, hleft.save_eq_error hkey hf, hright.save_eq_error hkey' hg⟩
  · obtain ⟨x', hx, hxx'⟩ := hleft.exists_save hkey hf
    obtain ⟨y', hy, hyy'⟩ := hright.exists_save hkey' hg
    rw [hs] at hxx'
    rw [ht] at hyy'
    exact .inr ⟨x', y', hx, hy, hxx'.symm.trans (h.trans hyy')⟩

/-- What differs from a session that was saved in no value can be saved. -/
theorem IsLast.exists_fileText (h : m.IsLast s x) (hvars : t.variables = s.variables)
    (hhistory : t.history = s.history) (hlast : t.lastError = s.lastError) (hiterations : t.iterations = s.iterations) :
    ∃ text, fileText t = .ok text := by
  obtain ⟨-, text, -, htext, -⟩ := h.saved.ready
  exact Repository.exists_fileText (fileText_congr hvars (by rw [hhistory]) hlast hiterations) ⟨text, htext⟩

/-! ## Two runs side by side -/

/-- What two operations come to is the same: the collaborators were asked the same, and the sessions that were
saved last are the same, times apart. -/
structure SameFinish (m : Manager γ) (k : SessionKey) (a b : Except Fault Session × World γ) : Prop where
  worlds : World.SameButFile k a.2 b.2
  result_eq : b.1.map untimed = a.1.map untimed
  last : ∃ s t, SameButTimes s t ∧ s.key = k ∧ m.IsLast s a.2 ∧ m.IsLast t b.2

/-- Two engines of a manager: the first is never asked to stop, the second as soon as so many sessions were
saved. -/
structure Engines (m : Manager γ) (bound : Option ℕ) (e e' : Engine (World γ)) : Prop where
  services_left : e.services = m.services
  services_right : e'.services = m.services
  save_left : e.save = m.save
  save_right : e'.save = m.save
  maxIterations_eq : e'.maxIterations = e.maxIterations
  cancelled_left : ∀ x, e.cancelled x = false
  cancelled_right : ∀ x, e'.cancelled x = bound.any fun n => decide (n ≤ x.saves.length)

theorem engines_askedAfter (m : Manager γ) (bound : Option ℕ) (now now' : String) :
    m.Engines bound ((m.askedAfter none).engine now) ((m.askedAfter bound).engine now') :=
  ⟨rfl, rfl, rfl, rfl, rfl, fun _ => rfl, fun _ => rfl⟩

/-- Two runs are at the same point, between two steps. -/
structure Abreast (m : Manager γ) (k : SessionKey) (s t : Session) (x y : World γ) : Prop where
  same : SameButTimes s t
  key_eq : s.key = k
  worlds : World.SameButFile k x y
  left : m.IsLast s x
  right : m.IsLast t y
  paused_eq : s.paused = false
  failed_eq : s.failed = false
  lastError_eq : s.lastError = none

namespace Abreast

variable {bound : Option ℕ} {e e' : Engine (World γ)} {step : Step}

theorem sameFinish (h : m.Abreast k s t x y) : m.SameFinish k (.ok s, x) (.ok t, y) :=
  ⟨h.worlds, congrArg Except.ok (untimed_eq_iff.mpr h.same), s, t, h.same, h.key_eq, h.left, h.right⟩

theorem sameFinish_error (h : m.Abreast k s t x y) (f : Fault) : m.SameFinish k (.error f, x) (.error f, y) :=
  ⟨h.worlds, rfl, s, t, h.same, h.key_eq, h.left, h.right⟩

/-- A step comes to the same in both runs, and leaves them abreast. -/
theorem perform (h : m.Abreast k s t x y) (he : m.Engines bound e e') (hservices : m.services = v.onPartners)
    (step : Step) :
    (e'.performed t step y).1 = (e.performed s step x).1 ∧
      m.Abreast k s t (e.performed s step x).2 (e'.performed t step y).2 ∧
      (e'.performed t step y).2.saves = y.saves := by
  have hleft : e.services = v.onPartners := he.services_left.trans hservices
  rw [Engine.performed_eq (he.services_right.trans he.services_left.symm) h.same step y]
  have hrespects := e.performed_all (Act.closed_respects _) (hleft ▸ World.respects_onPartners k v) s step x y
    h.worlds
  have hmoves := e.performed_all World.closed_sameStore (hleft ▸ World.moves_onPartners v) s step
  exact ⟨hrespects.1.symm, { h with
    worlds := hrespects.2
    left := h.left.of_sameStore (hmoves x)
    right := h.right.of_sameStore (hmoves y) }, (hmoves y).saves_eq⟩

/-- What the runs come to is saved in both or in neither. -/
theorem settle (h : m.Abreast k s t x y) (he : m.Engines bound e e') {a b : Session × Except Fault Session}
    (hab : Engine.SameEnd a b) (ha : a.1.key = k) :
    (∃ f, e.settle a x = (.error f, x) ∧ e'.settle b y = (.error f, y)) ∨
    ∃ x' y', e.settle a x = (a.2, x') ∧ e'.settle b y = (b.2, y') ∧ World.SameButFile k x' y' ∧
      m.IsLast a.1 x' ∧ m.IsLast b.1 y' ∧ y'.saves.length = y.saves.length + 1 := by
  have hb : b.1.key = k := hab.saved.key_eq.trans ha
  have ht : t.key = k := h.same.key_eq.trans h.key_eq
  rw [Engine.settle_apply, Engine.settle_apply, he.save_left, he.save_right]
  rcases save_both h.left h.right h.key_eq ht h.worlds ha hb hab.saved.fileText_cases with
    ⟨f, hx, hy⟩ | ⟨x', y', hx, hy, hworlds⟩
  · rw [hx, hy]
    exact .inl ⟨f, rfl, rfl⟩
  · rw [hx, hy]
    have hlength : y'.saves.length = y.saves.length + 1 := by rw [(save_eq_ok hy).2.1, List.length_cons]
    exact .inr ⟨x', y', rfl, rfl, hworlds, .of_save hx, .of_save hy, hlength⟩

theorem sameFinish_settle (h : m.Abreast k s t x y) (he : m.Engines bound e e')
    {a b : Session × Except Fault Session} (hab : Engine.SameEnd a b) (ha : a.1.key = k) :
    m.SameFinish k (e.settle a x) (e'.settle b y) := by
  rcases h.settle he hab ha with ⟨f, hx, hy⟩ | ⟨x', y', hx, hy, hworlds, hleft, hright, -⟩
  · rw [hx, hy]
    exact h.sameFinish_error f
  · rw [hx, hy]
    exact ⟨hworlds, hab.ending, a.1, b.1, hab.saved, ha, hleft, hright⟩

/-- A step that succeeded and after which the run goes on leaves no failure behind. -/
theorem lastError_settled {r : Except Fault Outcome} {u : Session} (h : (e.settled w s step false r).2 = .ok u)
    (hgoes : u.paused = false) : u.lastError = s.lastError := by
  obtain ⟨o, target, iterations, -, rfl⟩ := Engine.settled_eq_success h hgoes
  exact (Engine.kept_afterSuccess e s step o target iterations).2

/-- A pair of runs after a step: both end with the same fault, or they come to sessions that are the same, times
apart, and are abreast again unless the step paused them. -/
structure Stepped (m : Manager γ) (k : SessionKey) (y : World γ) (a b : Except Fault Session × World γ) : Prop where
  finish : m.SameFinish k a b
  cases : (∃ f, a.1 = .error f ∧ b.1 = .error f) ∨
    ∃ s t, a.1 = .ok s ∧ b.1 = .ok t ∧ SameButTimes s t ∧ b.2.saves.length = y.saves.length + 1 ∧
      (s.paused = false → m.Abreast k s t a.2 b.2)

theorem stepped_settle (h : m.Abreast k s t x y) (he : m.Engines bound e e')
    (hstep : Engine.stepOf? w s = some step) (z : World γ) :
    Stepped m k y (e.settle (e.settled w s step false (e.performed s step z).1) x)
      (e'.settle (e'.settled w t step false (e.performed s step z).1) y) := by
  have hsame : Engine.SameEnd (e.settled w s step false (e.performed s step z).1)
      (e'.settled w t step false (e.performed s step z).1) :=
    Engine.sameEnd_settled he.maxIterations_eq h.same false _
  have hkey := (Engine.key_of_turn (Engine.turn_settled (e := e) hstep false z)).trans h.key_eq
  refine ⟨h.sameFinish_settle he hsame hkey, ?_⟩
  rcases h.settle he hsame hkey with ⟨f, hx, hy⟩ | ⟨x', y', hx, hy, hworlds, hleft, hright, hlength⟩
  · exact .inl ⟨f, by rw [hx], by rw [hy]⟩
  · rw [hx, hy]
    have hending := hsame.ending
    cases ha : (e.settled w s step false (e.performed s step z).1).2 with
    | error f =>
      cases hb : (e'.settled w t step false (e.performed s step z).1).2 with
      | error g =>
        rw [ha, hb] at hending
        obtain rfl := Except.error.inj hending
        exact .inl ⟨g, rfl, rfl⟩
      | ok t' =>
        rw [ha, hb] at hending
        cases hending
    | ok s' =>
      cases hb : (e'.settled w t step false (e.performed s step z).1).2 with
      | error g =>
        rw [ha, hb] at hending
        cases hending
      | ok t' =>
        obtain ⟨rfl, hfailed⟩ := Engine.settled_eq_ok ha
        obtain ⟨rfl, -⟩ := Engine.settled_eq_ok hb
        refine .inr ⟨_, _, rfl, rfl, hsame.saved, hlength, fun hgoes => ?_⟩
        refine ⟨hsame.saved, hkey, hworlds, hleft, hright, hgoes, ?_, ?_⟩
        · rw [hgoes, h.failed_eq] at hfailed
          exact hfailed.resolve_left Bool.false_ne_true
        · exact (lastError_settled ha hgoes).trans h.lastError_eq

/-- The same becomes of the same step in both runs. -/
theorem runStep (h : m.Abreast k s t x y) (he : m.Engines bound e e') (hservices : m.services = v.onPartners)
    (hstep : Engine.stepOf? w s = some step) (hgo : e'.cancelled y = false) :
    Stepped m k y (e.runStep w s step x) (e'.runStep w t step y) := by
  obtain ⟨hresult, hmid, hsaves⟩ := h.perform he hservices step
  have hstop : e'.cancelled (e'.performed t step y).2 = false := by
    rw [he.cancelled_right, hsaves, ← he.cancelled_right, hgo]
  have hsettle := hmid.stepped_settle he hstep x
  have hsettle' : Stepped m k y _ _ := ⟨hsettle.finish, hsaves ▸ hsettle.cases⟩
  rw [Engine.runStep_eq, Engine.runStep_eq]
  dsimp only
  rw [hresult, he.cancelled_left, hstop]
  split
  · rename_i f habort
    exact ⟨hmid.sameFinish_error f, .inl ⟨f, rfl, rfl⟩⟩
  · exact hsettle'

end Abreast

/-! ## A run up to where it is asked to stop -/

/-- The operation ended because it was asked to stop: the session is paused, and was saved as such when as many
sessions were saved before as it took. -/
def WasStopped (bound : Option ℕ) (r : Except Fault Session × World γ) : Prop :=
  ∃ u n, r.1 = .ok u ∧ u.paused = true ∧ u.completed = false ∧ bound = some n ∧ n < r.2.saves.length

variable {bound : Option ℕ} {e e' : Engine (World γ)} {y' : World γ}

theorem not_wasStopped_error {r : Except Fault Session × World γ} {f : Fault} (h : r.1 = .error f) :
    ¬WasStopped bound r := by
  rintro ⟨u, n, hu, -⟩
  rw [h] at hu
  cases hu

/-- A run that goes on was not asked to stop. -/
theorem Abreast.not_wasStopped (h : m.Abreast k s t x y) : ¬WasStopped bound (.ok t, y) := by
  rintro ⟨u, n, hu, hpaused, -⟩
  obtain rfl := Except.ok.inj hu
  rw [h.same.paused_eq, h.paused_eq] at hpaused
  cases hpaused

/-- Where a step ends the run, this was not asked to stop. -/
theorem Engines.not_wasStopped (he : m.Engines bound e e') (hgo : e'.cancelled y = false)
    {r : Except Fault Session × World γ} (hlength : r.2.saves.length = y.saves.length + 1) :
    ¬WasStopped bound r := by
  rintro ⟨u, n, -, -, -, rfl, hcount⟩
  rw [he.cancelled_right] at hgo
  have hmore : ¬n ≤ y.saves.length := of_decide_eq_false hgo
  omega

/-- A run that is asked to stop pauses at once. -/
theorem Abreast.stop (h : m.Abreast k s t x y) (he : m.Engines bound e e') (hopen : s.completed = false)
    (hstop : e'.cancelled y = true) :
    ∃ y', m.save (e'.stopped t) y = (.ok (), y') ∧ e'.settle (e'.stopping t) y = (.ok (e'.stopped t), y') ∧
      WasStopped bound (.ok (e'.stopped t), y') := by
  obtain ⟨y', hsave, -⟩ := h.right.exists_save (t := e'.stopped t) rfl (h.right.exists_fileText rfl rfl rfl rfl)
  refine ⟨y', hsave, ?_, ?_⟩
  · have hfirst : (e'.stopping t).1 = e'.stopped t := rfl
    rw [Engine.settle_apply, he.save_right, hfirst, hsave]
    rfl
  · rw [he.cancelled_right] at hstop
    cases bound with
    | none => cases hstop
    | some n =>
      have hcount : n ≤ y.saves.length := of_decide_eq_true hstop
      refine ⟨e'.stopped t, n, rfl, rfl, h.same.completed_eq.trans hopen, rfl, ?_⟩
      rw [(save_eq_ok hsave).2.1, List.length_cons]
      exact Nat.lt_succ_of_le hcount

/-- What was saved before a run is there after it. -/
theorem keeps_saves (he : m.Engines bound e e') (hservices : m.services = v.onPartners) (w : Workflow)
    (base : List Session) : e.Keeps w (fun _ => True) fun y => base <:+ y.saves where
  turn := fun _ _ _ _ _ _ _ => trivial
  answered := fun _ _ _ _ _ _ => trivial
  resumed := fun _ _ _ => trivial
  perform s step y hy := by
    have hleft : e.services = v.onPartners := he.services_left.trans hservices
    have hmoves := e.performed_all World.closed_sameStore (hleft ▸ World.moves_onPartners v) s step
    rwa [(hmoves y).saves_eq]
  save s y _ hy := by
    rw [he.save_left]
    rcases hsave : m.save s y with ⟨f | u, z⟩
    · rw [(save_eq_error hsave).2.1]
      exact hy
    · rw [(save_eq_ok hsave).2.1]
      exact hy.trans (List.suffix_cons _ _)

/-- A run that is asked to stop somewhere either comes to the same as one that is not, or it stops at a point of
that one. -/
theorem Abreast.runFrom (he : m.Engines bound e e') (hservices : m.services = v.onPartners) (w : Workflow)
    (fuel : ℕ) (h : m.Abreast k s t x y) :
    (m.SameFinish k (e.runFrom w fuel s x) (e'.runFrom w fuel t y) ∧ ¬WasStopped bound (e'.runFrom w fuel t y)) ∨
    ∃ fuel' s' t' x' y' y'', e.runFrom w fuel s x = e.runFrom w fuel' s' x' ∧
      (w.stepIds.Nodup → e.rank w s < fuel → e.rank w s' < fuel') ∧ x.saves <:+ x'.saves ∧
      s'.completed = false ∧ m.Abreast k s' t' x' y' ∧ m.save (e'.stopped t') y' = (.ok (), y'') ∧
      e'.runFrom w fuel t y = (.ok (e'.stopped t'), y'') ∧ WasStopped bound (.ok (e'.stopped t'), y'') := by
  induction fuel generalizing s t x y with
  | zero => exact .inl ⟨h.sameFinish, h.not_wasStopped⟩
  | succ fuel ih =>
    cases hdone : s.completed with
    | true =>
      rw [Engine.runFrom_succ, Engine.runFrom_succ, h.same.completed_eq, hdone, if_pos rfl, if_pos rfl]
      exact .inl ⟨h.sameFinish, h.not_wasStopped⟩
    | false =>
      cases hgo : e'.cancelled y with
      | true =>
        obtain ⟨y', hsave, hsettle, hstopped⟩ := h.stop he hdone hgo
        refine .inr ⟨fuel + 1, s, t, x, y, y', rfl, fun _ hlt => hlt, List.suffix_refl _, hdone, h, hsave, ?_,
          hstopped⟩
        rw [Engine.runFrom_succ, h.same.completed_eq, hdone, if_neg Bool.false_ne_true, hgo, if_pos rfl, hsettle]
      | false =>
        rw [Engine.runFrom_succ, Engine.runFrom_succ, h.same.completed_eq, hdone, if_neg Bool.false_ne_true,
          if_neg Bool.false_ne_true, he.cancelled_left, hgo, if_neg Bool.false_ne_true,
          if_neg Bool.false_ne_true, Engine.stepOf?_eq h.same]
        cases hstep : Engine.stepOf? w s with
        | none =>
          dsimp only
          rw [Engine.unknownStep_eq h.same]
          have hfailing : Engine.SameEnd (e.failing s (Engine.unknownStep w s))
              (e'.failing t (Engine.unknownStep w s)) := Engine.sameEnd_failing h.same _
          refine .inl ⟨h.sameFinish_settle he hfailing h.key_eq, ?_⟩
          rcases h.settle he hfailing h.key_eq with ⟨f, -, hy⟩ | ⟨x', y', -, hy, -⟩
          · exact not_wasStopped_error (congrArg Prod.fst hy)
          · exact not_wasStopped_error (congrArg Prod.fst hy)
        | some step =>
          dsimp only
          obtain ⟨hfinish, hcases⟩ := h.runStep he hservices hstep hgo
          rcases hcases with ⟨f, hx, hy⟩ | ⟨s', t', hx, hy, hsame, hlength, hnext⟩
          · rw [hx, hy]
            exact .inl ⟨⟨hfinish.worlds, rfl, hfinish.last⟩, not_wasStopped_error rfl⟩
          · rw [hx, hy]
            dsimp only
            rw [hsame.paused_eq]
            cases hwaits : s'.paused with
            | true =>
              have hresult : (Except.ok t' : Except Fault Session).map untimed = (Except.ok s').map untimed :=
                congrArg Except.ok (untimed_eq_iff.mpr hsame)
              exact .inl ⟨⟨hfinish.worlds, hresult, hfinish.last⟩, he.not_wasStopped hgo hlength⟩
            | false =>
              rw [if_neg Bool.false_ne_true, if_neg Bool.false_ne_true]
              have hsuffix := ((keeps_saves he hservices w x.saves).runStep trivial hdone h.paused_eq h.failed_eq
                hstep (List.suffix_refl _)).1
              rcases ih (hnext hwaits) with
                hends | ⟨fuel', s'', t'', x', y', y'', heq, hrank, hmore, hrest⟩
              · exact .inl hends
              · refine .inr ⟨fuel', s'', t'', x', y', y'', heq, fun hw hlt => ?_, hsuffix.trans hmore, hrest⟩
                exact hrank hw ((Engine.rank_runStep_lt hw hstep hx hwaits).trans_le (Nat.lt_succ_iff.mp hlt))

theorem stepBound_eq_of_sameButTimes (he : m.Engines bound e e') (h : SameButTimes s t) :
    e'.stepBound w t = e.stepBound w s := by
  unfold Engine.stepBound
  rw [he.maxIterations_eq, h.iterations_eq]

/-- The same of whole runs; a run that stopped has more steps left than the other run has yet to make if the steps
have different ids. -/
theorem Abreast.run (h : m.Abreast k s t x y) (he : m.Engines bound e e') (hservices : m.services = v.onPartners)
    (w : Workflow) :
    (m.SameFinish k (e.run w s x) (e'.run w t y) ∧ ¬WasStopped bound (e'.run w t y)) ∨
    ∃ s' t' x' y' y'', (w.stepIds.Nodup → e.run w s x = e.run w s' x') ∧ x.saves <:+ x'.saves ∧
      x'.saves <:+ (e.run w s x).2.saves ∧ s'.completed = false ∧ m.Abreast k s' t' x' y' ∧
      m.save (e'.stopped t') y' = (.ok (), y'') ∧ e'.run w t y = (.ok (e'.stopped t'), y'') ∧
      WasStopped bound (.ok (e'.stopped t'), y'') := by
  rw [Engine.run_apply h.paused_eq, Engine.run_apply (h.same.paused_eq.trans h.paused_eq),
    stepBound_eq_of_sameButTimes he h.same]
  rcases h.runFrom he hservices w (e.stepBound w s + 1) with
    hends | ⟨fuel, s', t', x', y', y'', heq, hrank, hmore, hopen, hnext, hsave, hstop, hstopped⟩
  · exact .inl hends
  · refine .inr ⟨s', t', x', y', y'', fun hw => ?_, hmore, ?_, hopen, hnext, hsave, hstop, hstopped⟩
    · have henough := hrank hw (Nat.lt_succ_of_le (Engine.rank_le_stepBound e w s))
      rw [heq, Engine.run_eq_runFrom hw hnext.paused_eq henough]
    · rw [heq]
      exact ((keeps_saves he hservices w x'.saves).runFrom fuel trivial hnext.paused_eq hnext.failed_eq
        (List.suffix_refl _)).1

/-! ## Operations that go on after they were asked to stop -/

/-- What an operation on a session comes to in the end, if it goes on without an answer each time it was asked to
stop, is asked to stop in turn, and the same workflow is found for the session each time. -/
inductive Relayed (m : Manager γ) (key : SessionKey) (w : Workflow) :
    Option ℕ → Except Fault Standing × World γ → Except Fault Standing × World γ → Prop where
  | ended {bound : Option ℕ} {r : Except Fault Standing × World γ}
      (hends : ¬WasStopped bound (r.1.map (·.session), r.2)) : Relayed m key w bound r r
  | resumed {bound bound' : Option ℕ} {r r' : Except Fault Standing × World γ} {st : Standing}
      (hstopped : WasStopped bound (r.1.map (·.session), r.2)) (hst : r.1 = .ok st)
      (hget : Library.get r.2.files m.directories st.session.name = .ok w) (now : String) (token : Token)
      (hrest : Relayed m key w bound' ((m.askedAfter bound').resume now key none token r.2) r') :
      Relayed m key w bound r r'

theorem Relayed.eq_of_not_wasStopped {r r' : Except Fault Standing × World γ} (h : m.Relayed key w bound r r')
    (hends : ¬WasStopped bound (r.1.map (·.session), r.2)) : r' = r := by
  cases h with
  | ended => rfl
  | resumed hstopped => exact absurd hstopped hends

/-- The result of a run with its workflow. -/
def standing (w : Workflow) (q : Except Fault Session × World γ) : Except Fault Standing × World γ :=
  (q.1.map (⟨w, ·⟩), q.2)

theorem session_standing (w : Workflow) (q : Except Fault Session × World γ) :
    ((standing w q).1.map (·.session), (standing w q).2) = q := by
  obtain ⟨r, x⟩ := q
  cases r <;> rfl

/-- A session that was saved in place of another one has the same world around it. -/
theorem IsLast.sameButFile_of_save (h : m.IsLast s x) (hkey : t.key = s.key) (hsave : m.save t x = (.ok (), y)) :
    World.SameButFile s.key x y := by
  have htext : ∃ text, fileText t = .ok text := by
    obtain ⟨-, text, -, htext, -⟩ := (IsLast.of_save hsave).saved.ready
    exact ⟨text, htext⟩
  obtain ⟨z, hz, hsame⟩ := h.exists_save hkey htext
  obtain ⟨-, rfl⟩ := Prod.mk.inj (hz.symm.trans hsave)
  exact hsame

/-- A run that stopped abreast of another one goes on abreast of it. -/
theorem Abreast.resume (h : m.Abreast k s t x y) (hk : k.SharesFile key) (hjson : s.IsJson)
    (hopen : s.completed = false) (hsave : m.save (e.stopped t) y = (.ok (), y'))
    (hget : Library.get y'.files m.directories t.name = .ok w) (bound : Option ℕ) (now : String) (token : Token) :
    ∃ t' z, m.Abreast k s t' x z ∧ (m.askedAfter bound).resume now key none token y' =
      standing w (((m.askedAfter bound).engine now).run w t' z) := by
  set d := e.stopped t with hd
  have ht : t.key = k := h.same.key_eq.trans h.key_eq
  have hlast : IsLast m d y' := .of_save hsave
  have hnone : d.lastError = none := h.same.lastError_eq.trans h.lastError_eq
  have hstored : d.stored = d := by
    have hvalues := h.same.isJson hjson
    exact Session.IsJson.stored_eq ⟨hvalues.names, hvalues.variables_, hvalues.outputs⟩ hnone
  have hload : load m.store y'.files now key = .ok d := by
    have hshares : d.key.SharesFile key := ht ▸ hk
    rw [load_of_sharesFile hlast.saved hshares, hstored]
  rcases resume_cases (m := m.askedAfter bound) hload hget none token with
    ⟨hdone, -⟩ | ⟨-, f, hrefused, -⟩ | ⟨-, u, hu, hresume⟩
  · rw [show d.completed = s.completed from h.same.completed_eq, hopen] at hdone
    cases hdone
  · cases hrefused
  · obtain rfl := Except.ok.inj hu
    set t' := ((m.askedAfter bound).engine now).resumed d
    have hlast' : IsLast m d { y' with token } := ⟨hlast.saved, hlast.head_eq⟩
    have htext : ∃ text, fileText t' = .ok text := hlast'.exists_fileText rfl rfl hnone.symm rfl
    obtain ⟨z, hz, hsame⟩ := hlast'.exists_save (t := t') rfl htext
    rcases hresume with ⟨f, z', hfailed, -⟩ | ⟨z', hz', hresume⟩
    · cases (Prod.mk.inj (hz.symm.trans hfailed)).1
    · obtain ⟨-, rfl⟩ := Prod.mk.inj (hz.symm.trans hz')
      have hfirst : World.SameButFile k y y' := ht ▸ h.right.sameButFile_of_save (t := d) rfl hsave
      have htoken : World.SameButFile k y' { y' with token } := ⟨rfl, .refl _ _⟩
      have hsecond : World.SameButFile k { y' with token } z := (show d.key = k from ht) ▸ hsame
      have hworlds := h.worlds.trans (hfirst.trans (htoken.trans hsecond))
      refine ⟨t', z, { h with
        same := { h.same with
          paused_eq := h.paused_eq.symm
          failed_eq := h.failed_eq.symm
          lastError_eq := h.lastError_eq.symm }
        worlds := hworlds
        right := .of_save hz }, hresume⟩

theorem tail_suffix_tail {α : Type} {l r : List α} (h : l <:+ r) : l.tail <:+ r.tail := by
  obtain ⟨before, rfl⟩ := h
  cases before with
  | nil => exact List.suffix_refl _
  | cons a before => exact (List.tail_suffix l).trans (List.suffix_append before l)

/-- However often a run is asked to stop and goes on, it comes to the same as the one that is abreast of it and is
not asked. -/
theorem Relayed.sameFinish (hservices : m.services = v.onPartners) (hk : k.SharesFile key)
    {r r' : Except Fault Standing × World γ} (hrelayed : m.Relayed key w bound r r') {now now' : String}
    (h : m.Abreast k s t x y) {base : World γ} (hbase : base.saves <:+ x.saves.tail)
    (hjson : ∀ u ∈ World.savedSince base (((m.askedAfter none).engine now).run w s x).2, u.IsJson)
    (hr : r = standing w (((m.askedAfter bound).engine now').run w t y)) :
    ∃ q, r' = standing w q ∧ m.SameFinish k (((m.askedAfter none).engine now).run w s x) q := by
  induction hrelayed generalizing s t x y now' with
  | @ended bound r hends =>
    rw [hr, session_standing] at hends
    rcases h.run (engines_askedAfter m bound now now') hservices w with
      ⟨hfinish, -⟩ | ⟨s', t', x', y', y'', -, -, -, -, -, -, hstop, hstopped⟩
    · exact ⟨_, hr, hfinish⟩
    · rw [hstop] at hends
      exact absurd hstopped hends
  | @resumed bound bound' r r' st hstopped hst hget now'' token hrest ih =>
    rw [hr, session_standing] at hstopped
    rcases h.run (engines_askedAfter m bound now now') hservices w with
      ⟨-, hends⟩ | ⟨s', t', x', y', y'', heq, hmore, ⟨before, hbefore⟩, hopen, hnext, hsave, hstop, -⟩
    · exact absurd hstopped hends
    · rw [hstop] at hr
      subst hr
      obtain rfl := Except.ok.inj hst
      -- the session at which the run stopped is one that was saved since
      obtain ⟨after, hafter⟩ := List.head?_eq_some_iff.mp hnext.left.head_eq
      have hbase' : base.saves <:+ x'.saves.tail := hbase.trans (tail_suffix_tail hmore)
      have hmem : s' ∈ World.savedSince base (((m.askedAfter none).engine now).run w s x).2 := by
        rw [hafter, List.tail_cons] at hbase'
        exact World.mem_savedSince (hafter ▸ hbefore).symm hbase'
      obtain ⟨u, z, habreast, hresume⟩ := hnext.resume hk (hjson s' hmem) hopen hsave hget bound' now'' token
      rw [heq (Library.wellFormed_of_get hget).nodup_stepIds] at hjson ⊢
      exact ih habreast hbase' hjson hresume

/-- What two operations in a world come to is the same: the collaborators were asked the same, and results and what
is saved last and shown are the same, times apart. -/
structure Agree (m : Manager γ) (key : SessionKey) (x : World γ) (r r' : Except Fault Standing × World γ) :
    Prop where
  partners_eq : r'.2.partners = r.2.partners
  result_eq : r'.1.map (fun st => (st.workflow, st.session.untimed)) =
    r.1.map fun st => (st.workflow, st.session.untimed)
  last : (r.2.saves = x.saves ∧ r'.2.saves = x.saves) ∨
    ∃ s t, r.2.saves.head? = some s ∧ r'.2.saves.head? = some t ∧ t.untimed = s.untimed ∧
      m.Shows key s.stored r.2 ∧ m.Shows key t.stored r'.2

theorem shows_of_isLast (h : m.IsLast s x) (hs : s.key.SharesFile key) : m.Shows key s.stored x :=
  shows_iff.mpr fun now => load_of_sharesFile h.saved hs now

theorem SameFinish.agree {a b : Except Fault Session × World γ} (h : m.SameFinish k a b) (hk : k.SharesFile key)
    (w : Workflow) (x : World γ) : m.Agree key x (standing w a) (standing w b) := by
  obtain ⟨s, t, hsame, hkey, hleft, hright⟩ := h.last
  have hs : s.key.SharesFile key := hkey ▸ hk
  have ht : t.key.SharesFile key := hsame.key_eq ▸ hs
  refine ⟨h.worlds.partners_eq, ?_, .inr ⟨s, t, hleft.head_eq, hright.head_eq, untimed_eq_iff.mpr hsame,
    shows_of_isLast hleft hs, shows_of_isLast hright ht⟩⟩
  have hresult := congrArg (Except.map fun u => (w, u)) h.result_eq
  obtain ⟨r, x'⟩ := a
  obtain ⟨r', y'⟩ := b
  cases r <;> cases r' <;> exact hresult

/-- The first save of an operation goes through in both worlds or in neither, and the runs that follow begin
abreast. -/
theorem first_save (h : World.SameButFile k x y) (hs : s.key = k) (hsame : SameButTimes s t)
    (hpaused : s.paused = false) (hfailed : s.failed = false) (hlast : s.lastError = none) :
    (∃ f x' y', m.save s x = (.error f, x') ∧ m.save t y = (.error f, y')) ∨
    ∃ x' y', m.save s x = (.ok (), x') ∧ m.save t y = (.ok (), y') ∧ m.Abreast k s t x' y' := by
  obtain ⟨hresult, hfiles⟩ := @save_alike m.store _ _ k s t h.files hs (hsame.key_eq.trans hs) hsame.fileText_eq
  rcases save_steps m s x with ⟨f, hsave, hx⟩ | ⟨e, f, hsave, hx⟩
  · rcases save_steps m t y with ⟨g, hsave', hy⟩ | ⟨e', g, hsave', hy⟩
    · rw [hsave, hsave'] at hfiles
      exact .inr ⟨_, _, hx, hy, hsame, hs, ⟨h.partners_eq, hfiles⟩, .of_save hx, .of_save hy, hpaused, hfailed,
        hlast⟩
    · rw [hsave, hsave'] at hresult
      cases hresult
  · rcases save_steps m t y with ⟨g, hsave', hy⟩ | ⟨e', g, hsave', hy⟩
    · rw [hsave, hsave'] at hresult
      cases hresult
    · rw [hsave, hsave'] at hresult
      obtain rfl := Except.error.inj hresult
      exact .inl ⟨_, _, _, hx, hy⟩

/-- Operations that end with the same fault before anything is saved agree. -/
theorem agree_of_error {x' y' : World γ} (hx : x'.partners = x.partners ∧ x'.saves = x.saves)
    (hy : y'.partners = x.partners ∧ y'.saves = x.saves) (f : Fault) :
    m.Agree key x (.error f, x') (.error f, y') :=
  ⟨hy.1.trans hx.1.symm, rfl, .inl ⟨hx.2, hy.2⟩⟩

theorem Relayed.eq_of_error {r' : Except Fault Standing × World γ} {f : Fault}
    (h : m.Relayed key w bound (.error f, y) r') : r' = (.error f, y) :=
  h.eq_of_not_wasStopped (not_wasStopped_error rfl)

/-- Runs that begin with the same session, times apart, agree, however often one of them is asked to stop and goes
on. -/
theorem Relayed.agree (hservices : m.services = v.onPartners) (hk : k.SharesFile key)
    {now now' : String} {r r' : Except Fault Standing × World γ} (h : m.Abreast k s t x y) {base : World γ}
    (hbase : base.saves <:+ x.saves.tail) (hr : r = standing w (((m.askedAfter none).engine now).run w s x))
    (hjson : ∀ u ∈ World.savedSince base r.2, u.IsJson)
    (hrelayed : m.Relayed key w bound (standing w (((m.askedAfter bound).engine now').run w t y)) r') :
    m.Agree key base r r' := by
  subst hr
  obtain ⟨q, rfl, hfinish⟩ := hrelayed.sameFinish hservices hk h hbase hjson rfl
  exact hfinish.agree hk w base

theorem agree_launch (hservices : m.services = v.onPartners) {given : Bindings} {id : String}
    {now now' : String} {token token' : Token} {r' : Except Fault Standing × World γ}
    (hjson : ∀ u ∈ World.savedSince x ((m.askedAfter none).launch now w given id token x).2, u.IsJson)
    (hrelayed : m.Relayed ⟨w.name, id⟩ w bound ((m.askedAfter bound).launch now' w given id token' x) r') :
    m.Agree ⟨w.name, id⟩ x ((m.askedAfter none).launch now w given id token x) r' := by
  have hsame : SameButTimes (initial w given id now) (initial w given id now') := { SameButTimes.refl _ with }
  have hkey : (initial w given id now).key = ⟨w.name, id⟩ := rfl
  rcases first_save (m := m) (World.SameButFile.refl _ x) hkey hsame rfl rfl rfl with
    ⟨f, x', y', hx, hy⟩ | ⟨x', y', hx, hy, habreast⟩
  · rw [launch_of_unsaved (m := m.askedAfter bound) hy] at hrelayed
    rw [launch_of_unsaved (m := m.askedAfter none) hx, hrelayed.eq_of_error]
    exact agree_of_error (save_eq_error hx).2.symm (save_eq_error hy).2.symm f
  · rw [launch_of_saved (m := m.askedAfter none) hx] at hjson ⊢
    rw [launch_of_saved (m := m.askedAfter bound) hy] at hrelayed
    have hgo : m.Abreast ⟨w.name, id⟩ (initial w given id now) (initial w given id now')
        { x' with token } { y' with token := token' } :=
      { habreast with
        worlds := ⟨habreast.worlds.partners_eq, habreast.worlds.files⟩
        left := ⟨habreast.left.saved, habreast.left.head_eq⟩
        right := ⟨habreast.right.saved, habreast.right.head_eq⟩ }
    have hbase : x.saves <:+ x'.saves.tail := by rw [(save_eq_ok hx).2.1, List.tail_cons]
    exact Relayed.agree hservices (.refl _) hgo hbase rfl hjson hrelayed

theorem agree_resume (hservices : m.services = v.onPartners) {d : Session}
    (hshows : m.Shows key d x) (hget : Library.get x.files m.directories d.name = .ok w) {answer : Option Value}
    {now now' : String} {token token' : Token} {r' : Except Fault Standing × World γ}
    (hjson : ∀ u ∈ World.savedSince x ((m.askedAfter none).resume now key answer token x).2, u.IsJson)
    (hrelayed : m.Relayed key w bound ((m.askedAfter bound).resume now' key answer token' x) r') :
    m.Agree key x ((m.askedAfter none).resume now key answer token x) r' := by
  set a := m.askedAfter none with ha
  set b := m.askedAfter bound with hb
  have hload : load a.store x.files now key = .ok d := shows_iff.mp hshows now
  have hload' : load b.store x.files now' key = .ok d := shows_iff.mp hshows now'
  have hget' : Library.get x.files b.directories d.name = .ok w := hget
  cases hdone : d.completed with
  | true =>
    have hends : ¬WasStopped bound (.ok d, { x with token := token' }) := by
      rintro ⟨u, n, hu, -, hopen, -⟩
      obtain rfl := Except.ok.inj hu
      rw [hdone] at hopen
      cases hopen
    rw [resume_of_completed hload' hget' hdone] at hrelayed
    rw [resume_of_completed hload hget hdone, hrelayed.eq_of_not_wasStopped hends]
    exact ⟨rfl, rfl, .inl ⟨rfl, rfl⟩⟩
  | false =>
    rcases Engine.reopened_cases (a.engine now) (b.engine now') w d answer with
      ⟨f, hf, hf'⟩ | ⟨t, u, ht, hu, hsame⟩
    · rw [resume_of_refused hload' hget' hdone hf'] at hrelayed
      rw [resume_of_refused hload hget hdone hf, hrelayed.eq_of_error]
      have hx (u : Token) : ({ x with token := u } : World γ).partners = x.partners ∧
          ({ x with token := u } : World γ).saves = x.saves := ⟨rfl, rfl⟩
      exact agree_of_error (hx token) (hx token') f
    · have hresumed : SameButTimes ((a.engine now).resumed t) ((b.engine now').resumed u) :=
        Engine.sameButTimes_resumed hsame
      have hkey := (Engine.preserves_key (a.engine now) w d.key).reopened rfl hdone ht
      have htokens : World.SameButFile d.key { x with token } { x with token := token' } := ⟨rfl, .refl _ _⟩
      rcases first_save (m := m) htokens hkey hresumed rfl rfl rfl with
        ⟨f, x', y', hx, hy⟩ | ⟨x', y', hx, hy, habreast⟩
      · rw [resume_of_unsaved hload' hget' hdone hu hy] at hrelayed
        rw [resume_of_unsaved hload hget hdone ht hx, hrelayed.eq_of_error]
        exact agree_of_error (x := x) (save_eq_error hx).2.symm (save_eq_error hy).2.symm f
      · rw [resume_of_saved hload hget hdone ht hx] at hjson ⊢
        rw [resume_of_saved hload' hget' hdone hu hy] at hrelayed
        have hbase : x.saves <:+ x'.saves.tail := by rw [(save_eq_ok hx).2.1, List.tail_cons]
        exact Relayed.agree hservices (key_of_shows hshows) habreast hbase rfl hjson hrelayed

end Manager

end Runbook
