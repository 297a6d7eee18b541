import Runbook.Proofs.Manager.Containment
import Runbook.Proofs.Manager.Requests
import Runbook.Proofs.Manager.Transparency

/-! Requests for one session side by side, each of which holds its own copy of the session while a step is in
execution. Nothing that was saved is lost as long as none goes on blindly in the middle of a step of another. -/

namespace Runbook

open Repository Engine

variable {γ ι : Type} {m : Manager γ} {w : Workflow} {s t d : Session} {step : Step} {key : SessionKey}
  {x₀ x y z : World γ}

/-! ## Documents -/

namespace Session

theorem Extends.trans {u : Session} (h : u.Extends t) (h' : t.Extends s) : u.Extends s := List.IsPrefix.trans h' h

theorem extends_stored_iff : t.Extends s.stored ↔ t.Extends s := by
  rw [Extends, Extends, history_stored_stored]

theorem extends_of_history (h : s.history <+: t.history) : t.Extends s := h.map StepRecord.stored

end Session

namespace Manager

/-- Nothing was lost of a session since a world: each document that was saved extends those before it and what was
shown at first, and the last one is what is shown. -/
structure NothingLost (m : Manager γ) (key : SessionKey) (x₀ x : World γ) : Prop where
  extends_ : (x.savesOf key).Pairwise Session.Extends
  first : ∀ d, m.Shows key d x₀ → ∀ s ∈ x.savesOf key, s.Extends d
  unsaved : x.savesOf key = [] → ∀ d, m.Shows key d x₀ → m.Shows key d x
  shown : ∀ s, (x.savesOf key).head? = some s → m.Shows key s.stored x

theorem savesOf_save (hkey : s.key.SharesFile key) (hsave : m.save s x = (.ok (), y)) :
    y.savesOf key = s :: x.savesOf key := by
  have hbelongs : belongs s key = true := belongs_iff_sharesFile.mpr hkey
  rw [World.savesOf, (save_eq_ok hsave).2.1, List.filter_cons, if_pos hbelongs]
  rfl

namespace NothingLost

theorem spared (h : m.NothingLost key x₀ x) (hspares : m.Spares key x y) : m.NothingLost key x₀ y where
  extends_ := hspares.savesOf_eq ▸ h.extends_
  first := hspares.savesOf_eq ▸ h.first
  unsaved hnone d hd := hspares.shows d (h.unsaved (hspares.savesOf_eq ▸ hnone) d hd)
  shown s hs := hspares.shows _ (h.shown s (hspares.savesOf_eq ▸ hs))

/-- A session that extends what is shown extends every document. -/
theorem extends_saves (h : m.NothingLost key x₀ x) (hext : ∀ d, m.Shows key d x → s.Extends d) :
    ∀ t ∈ x.savesOf key, s.Extends t := by
  intro t ht
  cases hsaves : x.savesOf key with
  | nil =>
    rw [hsaves] at ht
    cases ht
  | cons u rest =>
    have hlast : s.Extends u := Session.extends_stored_iff.mp (hext _ (h.shown u (by rw [hsaves]; rfl)))
    have hpairs := h.extends_
    rw [hsaves] at ht hpairs
    rcases List.mem_cons.mp ht with rfl | ht
    · exact hlast
    · exact hlast.trans ((List.pairwise_cons.mp hpairs).1 t ht)

theorem saved (h : m.NothingLost key x₀ x) (hkey : s.key.SharesFile key) (hext : ∀ d, m.Shows key d x → s.Extends d)
    (hsave : m.save s x = (.ok (), y)) : m.NothingLost key x₀ y := by
  have hsaves := savesOf_save hkey hsave
  have hall := h.extends_saves hext
  refine ⟨?_, fun d hd => ?_, fun hnone => ?_, fun u hu => ?_⟩
  · rw [hsaves]
    exact List.pairwise_cons.mpr ⟨hall, h.extends_⟩
  · rw [hsaves]
    refine List.forall_mem_cons.mpr ⟨?_, h.first d hd⟩
    cases hbefore : x.savesOf key with
    | nil => exact hext d (h.unsaved hbefore d hd)
    | cons u rest =>
      have hu : u ∈ x.savesOf key := hbefore ▸ List.mem_cons_self
      exact (hall u hu).trans (h.first d hd u hu)
  · rw [hsaves] at hnone
    cases hnone
  · rw [hsaves] at hu
    obtain rfl := Option.some.inj hu
    exact .of_save hkey hsave

end NothingLost

/-! ## Slices -/

/-- The copy of a session that goes on is what is shown. -/
structure Carries (m : Manager γ) (key : SessionKey) (s : Session) (x : World γ) : Prop where
  shares : s.key.SharesFile key
  paused : s.paused = false
  shows : m.Shows key s.stored x

theorem Carries.extends_ (h : m.Carries key s x) (hgrows : s.history <+: t.history) (d : Session)
    (hd : m.Shows key d x) : t.Extends d := by
  obtain rfl : s.stored = d := Except.ok.inj ((shows_iff.mp h.shows "").symm.trans (shows_iff.mp hd ""))
  exact Session.extends_stored_iff.mpr (Session.extends_of_history hgrows)

theorem Carries.spared (h : m.Carries key s x) (hspares : m.Spares key x y) : m.Carries key s y :=
  ⟨h.shares, h.paused, hspares.shows _ h.shows⟩

/-- Nothing is lost, and where a step is in execution the copy of the session is what is shown. -/
def GoesOn (m : Manager γ) (key : SessionKey) (x₀ : World γ) (p : Progress × World γ) : Prop :=
  m.NothingLost key x₀ p.2 ∧ ∀ w s step, p.1 = .performing w s step → m.Carries key s p.2

theorem NothingLost.ended (h : m.NothingLost key x₀ y) (r : Except Fault Session) :
    m.GoesOn key x₀ (.ended r, y) := by
  refine ⟨h, fun w s step hperforming => ?_⟩
  cases hperforming

namespace NothingLost

variable {e : Engine (World γ)}

/-- What is saved at the end of a turn extends what is shown. -/
theorem settle (he : e.save = m.save) (h : m.NothingLost key x₀ x) (hs : m.Carries key s x)
    {t : Session × Except Fault Session} (hkey : t.1.key = s.key) (hgrows : s.history <+: t.1.history) :
    m.NothingLost key x₀ (e.settle t x).2 ∧
      ∀ u, (e.settle t x).1 = .ok u → m.Shows key t.1.stored (e.settle t x).2 := by
  have hshares : t.1.key.SharesFile key := hkey ▸ hs.shares
  rw [settle_apply, he]
  rcases hsave : m.save t.1 x with ⟨f | u, y⟩
  · exact ⟨h.spared (.of_save_error hsave), nofun⟩
  · exact ⟨h.saved hshares (hs.extends_ hgrows) hsave, fun _ _ => .of_save hshares hsave⟩

theorem reach (he : e.save = m.save) (h : m.NothingLost key x₀ x) (hs : m.Carries key s x) (w : Workflow) :
    m.GoesOn key x₀ (e.reach w s x) := by
  unfold Engine.reach
  split_ifs
  · exact h.ended _
  · exact (h.settle he hs rfl (List.prefix_refl _)).1.ended _
  · cases stepOf? w s with
    | none => exact (h.settle he hs rfl (List.prefix_refl _)).1.ended _
    | some step =>
      refine ⟨h, fun w' s' step' hperforming => ?_⟩
      cases hperforming
      exact hs

theorem land (he : e.save = m.save) (h : m.NothingLost key x₀ x) (hs : m.Carries key s x) (w : Workflow)
    (step : Step) (r : Except Fault Outcome) : m.GoesOn key x₀ (e.land w s step r x) := by
  have hkey (stop : Bool) : (e.settled w s step stop r).1.key = s.key := key_settled e w s step stop r
  have hsettle (stop : Bool) : m.NothingLost key x₀ (e.settle (e.settled w s step stop r) x).2 ∧
      ∀ u, (e.settle (e.settled w s step stop r) x).1 = .ok u →
        u.key = s.key ∧ m.Shows key u.stored (e.settle (e.settled w s step stop r) x).2 := by
    obtain ⟨record, -, hhistory⟩ := history_settled e w s step stop r
    obtain ⟨hlost, hshown⟩ := h.settle he hs (hkey stop) (hhistory ▸ List.prefix_append _ _)
    refine ⟨hlost, fun u hu => ?_⟩
    obtain ⟨rfl, -⟩ := settled_eq_ok (settle_eq_ok hu)
    exact ⟨hkey stop, hshown _ hu⟩
  have hfinish : m.NothingLost key x₀ (e.finish w s step r x).2 ∧ ∀ u, (e.finish w s step r x).1 = .ok u →
      u.key = s.key ∧ m.Shows key u.stored (e.finish w s step r x).2 := by
    unfold Engine.finish
    cases r with
    | error f =>
      dsimp only
      split_ifs
      · exact ⟨h, nofun⟩
      · exact hsettle _
    | ok o => exact hsettle _
  unfold Engine.land
  rcases hr : e.finish w s step r x with ⟨f | u, y⟩
  · rw [hr] at hfinish
    exact hfinish.1.ended _
  · rw [hr] at hfinish
    obtain ⟨hlost, hshown⟩ := hfinish
    obtain ⟨hu, hshown⟩ := hshown u rfl
    dsimp only
    split_ifs with hwaits
    · exact hlost.ended _
    · exact hlost.reach he ⟨hu ▸ hs.shares, Bool.eq_false_iff.mpr hwaits, hshown⟩ w

end NothingLost

/-- A request opens its session and comes to the first step. -/
def enter (m : Manager γ) (q : Request) (x : World γ) : Progress × World γ :=
  match m.opening q x with
  | (.error f, y) => (.ended (.error f), y)
  | (.ok (w, s), y) => (m.engine q.now).reach w s y

/-- What comes before the run does not ask whether to stop. -/
theorem opening_cancelled (m : Manager γ) (cancelled : World γ → Bool) (q : Request) :
    opening { m with cancelled } q = m.opening q := by
  cases q <;> rfl

theorem Opens.goesOn {q : Request} {r : Except Fault (Workflow × Session) × World γ} (hopens : m.Opens key q x r)
    (heq : m.opening q x = r) (h : m.NothingLost key x₀ x) (cancelled : World γ → Bool) :
    m.GoesOn key x₀ (enter { m with cancelled } q x) := by
  unfold enter
  rw [opening_cancelled, heq]
  cases hopens with
  | refused hspares => exact (h.spared hspares).ended _
  | @completed w d y hspares hdone =>
    dsimp only
    rw [Engine.reach, if_pos hdone]
    exact (h.spared hspares).ended _
  | @saved w s y z token hspares hs hsave =>
    have htoken : m.Spares key z { z with token } := .of_sameStore ⟨rfl, rfl⟩
    have hsaved := (h.spared hspares).saved hs.shares hs.extends_ hsave
    have hshown : m.Shows key s.stored z := .of_save hs.shares hsave
    exact (hsaved.spared htoken).reach rfl ⟨hs.shares, hs.paused, htoken.shows _ hshown⟩ w

/-- Where a step of a session is in execution, a request that does not go on blindly ends at once and leaves the
session alone. -/
theorem Opens.ended {q : Request} {r : Except Fault (Workflow × Session) × World γ} (hopens : m.Opens key q x r)
    (heq : m.opening q x = r) (hblind : ¬q.IsBlind) (hs : m.Carries key s x) (cancelled : World γ → Bool) :
    ∃ p y, enter { m with cancelled } q x = (.ended p, y) ∧ m.Spares key x y := by
  unfold enter
  rw [opening_cancelled, heq]
  cases hopens with
  | refused hspares => exact ⟨_, _, rfl, hspares⟩
  | @completed w d y hspares hdone =>
    dsimp only
    rw [Engine.reach, if_pos hdone]
    exact ⟨_, _, rfl, hspares⟩
  | @saved w t y z token hspares ht hsave =>
    have hpaused := ht.turn.resolve_left hblind _ (hspares.shows _ hs.shows)
    exact absurd (hs.paused.symm.trans hpaused) Bool.false_ne_true

end Manager

/-! ## Requests side by side -/

/-- A world, and how far each of some requests has come in it. -/
structure Scene (ι γ : Type) where
  world : World γ
  progress : ι → Progress

namespace Scene

/-- A step is in execution for the request. -/
def IsPerforming (c : Scene ι γ) (i : ι) : Prop := ∃ w s step, c.progress i = .performing w s step

/-- A request has come so far, and the world with it. -/
def put [DecidableEq ι] (c : Scene ι γ) (i : ι) (p : Progress × World γ) : Scene ι γ :=
  ⟨p.2, Function.update c.progress i p.1⟩

@[simp] theorem world_put [DecidableEq ι] (c : Scene ι γ) (i : ι) (p : Progress × World γ) :
    (c.put i p).world = p.2 := rfl

@[simp] theorem progress_put_self [DecidableEq ι] (c : Scene ι γ) (i : ι) (p : Progress × World γ) :
    (c.put i p).progress i = p.1 := by simp [put]

theorem progress_put_of_ne [DecidableEq ι] {i j : ι} (h : j ≠ i) (c : Scene ι γ) (p : Progress × World γ) :
    (c.put i p).progress j = c.progress j := by simp [put, h]

@[simp] theorem put_put [DecidableEq ι] (c : Scene ι γ) (i : ι) (p q : Progress × World γ) :
    (c.put i p).put i q = c.put i q := by simp [put]

theorem put_eq_self [DecidableEq ι] {c : Scene ι γ} {i : ι} {p : Progress × World γ} (hworld : c.world = p.2)
    (hprogress : c.progress i = p.1) : c.put i p = c := by
  rw [put, ← hworld, ← hprogress, Function.update_eq_self]

/-- How far two requests have come. -/
def pair (x : World γ) (p q : Progress) : Scene Bool γ := ⟨x, fun second => if second then q else p⟩

variable {p q : Progress}

theorem put_pair_first (r : Progress × World γ) : (pair x p q).put false r = pair r.2 r.1 q := by
  rw [put, pair, pair, Scene.mk.injEq]
  exact ⟨rfl, funext fun second => by cases second <;> rfl⟩

theorem put_pair_second (r : Progress × World γ) : (pair x p q).put true r = pair r.2 p r.1 := by
  rw [put, pair, pair, Scene.mk.injEq]
  exact ⟨rfl, funext fun second => by cases second <;> rfl⟩

end Scene

namespace Manager

variable {requests : ι → Request} {allowed : Scene ι γ → ι → Prop} {c c' : Scene ι γ} {i : ι}

/-- What may happen next among requests that are addressed to one session: one begins, the step of one has come to
whatever it has come to, or the world changes and spares the session. Each request is asked to stop when it pleases. -/
inductive Move [DecidableEq ι] (m : Manager γ) (key : SessionKey) (requests : ι → Request)
    (allowed : Scene ι γ → ι → Prop) :
    Scene ι γ → Scene ι γ → Prop where
  | begun {c : Scene ι γ} {i : ι} (cancelled : World γ → Bool) (hwaits : c.progress i = .waiting)
      (hkey : ∀ k, (requests i).call.IsAddressedTo m c.world k → k.SharesFile key) (hallowed : allowed c i) :
      Move m key requests allowed c (c.put i (enter { m with cancelled } (requests i) c.world))
  | landed {c : Scene ι γ} {i : ι} {w : Workflow} {s : Session} {step : Step} (cancelled : World γ → Bool)
      (now : String) (r : Except Fault Outcome) (hstep : c.progress i = .performing w s step) :
      Move m key requests allowed c (c.put i ((engine { m with cancelled } now).land w s step r c.world))
  | elsewhere {c : Scene ι γ} {y : World γ} (h : m.Spares key c.world y) :
      Move m key requests allowed c { c with world := y }

section Moves

variable [DecidableEq ι] {p : Progress × World γ} {now : String} {r : Except Fault Outcome}

theorem Move.enters (hwaits : c.progress i = .waiting)
    (hkey : ∀ k, (requests i).call.IsAddressedTo m c.world k → k.SharesFile key) (hallowed : allowed c i)
    (henter : m.enter (requests i) c.world = p) : m.Move key requests allowed c (c.put i p) :=
  henter ▸ .begun m.cancelled hwaits hkey hallowed

theorem Move.lands (hstep : c.progress i = .performing w s step)
    (hland : (m.engine now).land w s step r c.world = p) : m.Move key requests allowed c (c.put i p) :=
  hland ▸ .landed m.cancelled now r hstep

end Moves

/-- No request goes on blindly while a step of another is in execution, and none starts a session with a new id under
which there is one. -/
def InTurn (m : Manager γ) (key : SessionKey) (requests : ι → Request) (c : Scene ι γ) (i : ι) : Prop :=
  ((requests i).IsBlind → ∀ j, ¬c.IsPerforming j) ∧ ((requests i).IsUnnamed → ∀ d, ¬m.Shows key d c.world)

/-- Nothing was lost so far, one step at most is in execution, and the copy of the session that its request holds is
what is shown. -/
structure Sound (m : Manager γ) (key : SessionKey) (x₀ : World γ) (c : Scene ι γ) : Prop where
  nothingLost : m.NothingLost key x₀ c.world
  carries : ∀ i w s step, c.progress i = .performing w s step → m.Carries key s c.world
  alone : ∀ i j, c.IsPerforming i → c.IsPerforming j → i = j

namespace Sound

/-- The world may change, and the progress of requests for which no step is in execution. -/
theorem spared (h : m.Sound key x₀ c) (hspares : m.Spares key c.world y) {progress : ι → Progress}
    (hsame : ∀ i w s step, progress i = .performing w s step → c.progress i = .performing w s step) :
    m.Sound key x₀ ⟨y, progress⟩ where
  nothingLost := h.nothingLost.spared hspares
  carries i w s step hi := (h.carries i w s step (hsame i w s step hi)).spared hspares
  alone i j := by
    rintro ⟨w, s, step, hi⟩ ⟨w', s', step', hj⟩
    exact h.alone i j ⟨w, s, step, hsame i w s step hi⟩ ⟨w', s', step', hsame j w' s' step' hj⟩

variable [DecidableEq ι]

/-- A request goes on where no step of another is in execution. -/
theorem put {p : Progress × World γ} (hp : m.GoesOn key x₀ p) (hothers : ∀ j, j ≠ i → ¬c.IsPerforming j) :
    m.Sound key x₀ (c.put i p) := by
  have hself (j : ι) (w : Workflow) (s : Session) (step : Step) (hj : (c.put i p).progress j = .performing w s step) :
      j = i ∧ p.1 = .performing w s step := by
    by_cases hji : j = i
    · subst hji
      exact ⟨rfl, (c.progress_put_self j p).symm.trans hj⟩
    · exact absurd ⟨w, s, step, (Scene.progress_put_of_ne hji c p).symm.trans hj⟩ (hothers j hji)
  refine ⟨hp.1, fun j w s step hj => hp.2 w s step (hself j w s step hj).2, ?_⟩
  rintro j k ⟨w, s, step, hj⟩ ⟨w', s', step', hk⟩
  rw [(hself j w s step hj).1, (hself k w' s' step' hk).1]

theorem move (hnew : Act.Moves World.SameStore String m.newId) (h : m.Sound key x₀ c)
    (hmove : m.Move key requests (m.InTurn key requests) c c') : m.Sound key x₀ c' := by
  cases hmove with
  | @begun i cancelled hwaits hkey hallowed =>
    obtain ⟨hblind, hunnamed⟩ := hallowed
    have hopens := opens_opening hnew hkey hunnamed
    by_cases hbusy : ∃ j, c.IsPerforming j
    -- What is shown is a session that does not wait, so neither an answer nor a start is taken.
    · obtain ⟨j, w, s, step, hj⟩ := hbusy
      obtain ⟨r, y, heq, hspares⟩ :=
        hopens.ended rfl (fun hb => hblind hb j ⟨w, s, step, hj⟩) (h.carries j w s step hj) cancelled
      rw [heq]
      refine h.spared hspares fun k w' s' step' hk => ?_
      by_cases hki : k = i
      · subst hki
        cases (c.progress_put_self k (.ended r, y)).symm.trans hk
      · exact (Scene.progress_put_of_ne hki c (.ended r, y)).symm.trans hk
    · exact put (hopens.goesOn rfl h.nothingLost cancelled) fun j _ hj => hbusy ⟨j, hj⟩
  | @landed i w s step cancelled now r hstep =>
    have hland := NothingLost.land (m := m) (e := engine { m with cancelled } now) rfl h.nothingLost
      (h.carries i w s step hstep) w step r
    exact put hland fun j hji hj => hji (h.alone j i hj ⟨w, s, step, hstep⟩)
  | elsewhere hspares => exact h.spared hspares fun _ _ _ _ hi => hi

theorem moves (hnew : Act.Moves World.SameStore String m.newId) (h : m.Sound key x₀ c)
    (hmoves : Relation.ReflTransGen (m.Move key requests (m.InTurn key requests)) c c') : m.Sound key x₀ c' := by
  induction hmoves with
  | refl => exact h
  | tail _ hmove ih => exact ih.move hnew hmove

end Sound

/-! ## Requests alone -/

section Alone

variable [DecidableEq ι]

/-- A run with nothing beside it is a series of moves. -/
theorem moves_of_alone {now : String} (hspares : m.services.All (Act.Moves (m.Spares key))) {p : Progress × World γ}
    {r : Except Fault Session × World γ} (halone : (m.engine now).Alone p r) :
    ∀ c : Scene ι γ, c.world = p.2 → c.progress i = p.1 →
      Relation.ReflTransGen (m.Move key requests allowed) c (c.put i (ends r)) := by
  have hclosed : Act.Closed (Act.Moves (m.Spares key)) :=
    Act.closed_moves (Spares.refl m key) fun _ _ _ h h' => h.trans h'
  induction halone with
  | ended r =>
    intro c hworld hprogress
    rw [Scene.put_eq_self hworld hprogress]
  | @landed w s step x r _ ih =>
    intro c hworld hprogress
    set e := m.engine now
    -- A slice is two moves: the collaborators change the world, and then the step lands in it.
    have hperformed : m.Spares key x (e.performed s step x).2 :=
      e.performed_all hclosed hspares s step x
    have hlanded : m.Move key requests allowed { c with world := (e.performed s step x).2 } _ :=
      .landed m.cancelled now (e.performed s step x).1 hprogress
    have hrest :=
      ih _ (Scene.world_put { c with world := (e.performed s step x).2 } i _) (Scene.progress_put_self _ _ _)
    rw [Scene.put_put] at hrest
    exact .head (.elsewhere (hworld ▸ hperformed)) (.head hlanded hrest)

/-- With nothing beside it, a request comes by such moves to what the manager makes of it. -/
theorem request_moves (hspares : m.services.All (Act.Moves (m.Spares key)))
    (hnew : Act.Moves World.SameStore String m.newId) (hwaits : c.progress i = .waiting)
    (hkey : ∀ k, (requests i).call.IsAddressedTo m c.world k → k.SharesFile key) (hturn : m.InTurn key requests c i)
    (hw : ∀ w s y, m.opening (requests i) c.world = (.ok (w, s), y) → w.stepIds.Nodup) :
    ∃ r : Except Fault Session × World γ, (requests i).call.perform m c.world = (r.1.map some, r.2) ∧
      Relation.ReflTransGen (m.Move key requests (m.InTurn key requests)) c (c.put i (ends r)) := by
  have hbegun : m.Move key requests (m.InTurn key requests) c (c.put i (m.enter (requests i) c.world)) :=
    .begun m.cancelled hwaits hkey hturn
  have hopens := opens_opening hnew hkey hturn.2
  have hperform : (requests i).call.perform m c.world = _ := congrFun (m.perform_request (requests i)) c.world
  rw [Act.bind_apply] at hperform
  rcases heq : m.opening (requests i) c.world with ⟨f | ⟨w, s⟩, y⟩
  · rw [heq] at hperform
    have henter : m.enter (requests i) c.world = (.ended (.error f), y) := by rw [enter, heq]
    rw [henter] at hbegun
    exact ⟨(.error f, y), hperform, .single hbegun⟩
  · have hs : s.completed = true ∨ s.paused = false := by
      rw [heq] at hopens
      cases hopens with
      | completed _ hdone => exact .inl hdone
      | saved _ _ hs _ => exact .inr hs.paused
    have henter : m.enter (requests i) c.world = (m.engine (requests i).now).reach w s y := by rw [enter, heq]
    have halone := alone_run (e := m.engine (requests i).now) (hw w s y heq) hs y
    rw [← henter] at halone
    refine ⟨(m.engine (requests i).now).run w s y, ?_, ?_⟩
    · rw [hperform, heq]
      dsimp only
      rw [Act.bind_apply]
      cases ((m.engine (requests i).now).run w s y).1 <;> rfl
    · have hrest := @moves_of_alone γ ι m key requests (m.InTurn key requests) i _ _ hspares _ _ halone
        (c.put i (m.enter (requests i) c.world)) rfl (Scene.progress_put_self _ _ _)
      rw [Scene.put_put] at hrest
      exact .head hbegun hrest

end Alone

/-! ## Steps that fail -/

section Entering

variable {q : Request} {now : String} {given : Bindings} {asked : Option String} {id : String} {token : Token}

/-- A new session is opened by a save. -/
theorem opening_start (hfree : ∀ i, asked = some i → (m.checkFree now w ⟨w.name, i⟩ x).1 = .ok ())
    (hid : m.idOr asked x = (.ok id, x)) (hsave : m.save (initial w given id now) x = (.ok (), y)) :
    m.opening (.start now w given asked token) x = (.ok (w, initial w given id now), { y with token }) := by
  have hfresh : m.openFresh now w given id token x = (.ok (w, initial w given id now), { y with token }) := by
    obtain ⟨path, -, hpath, -⟩ := (save_eq_ok hsave).1.ready
    have hfree : (discard (Act.ofExcept (initial w given id now).key.path) : Act (World γ) Unit) x = (.ok (), x) := by
      rw [hpath]
      rfl
    rw [openFresh, Act.bind_ok hfree, Act.bind_ok hsave]
    rfl
  unfold opening openStart
  cases asked with
  | none =>
    dsimp only
    exact (Act.bind_ok hid _).trans hfresh
  | some i =>
    have hcheck : m.checkFree now w ⟨w.name, i⟩ x = (.ok (), x) := Prod.ext (hfree i rfl) (checkFree_world m now w _ x)
    dsimp only
    rw [Act.bind_ok hcheck, Act.bind_ok hid, hfresh]

/-- A new session that can be written is opened where the store takes it. -/
theorem exists_opening_start {path : String}
    (hfree : ∀ i, asked = some i → (m.checkFree now w ⟨w.name, i⟩ x).1 = .ok ())
    (hid : m.idOr asked x = (.ok id, x)) (hpath : (initial w given id now).key.path = .ok path)
    (htext : ∃ text, fileText (initial w given id now) = .ok text)
    (hwrite : ∀ data, (m.store.write path data x.files).1 = .ok ()) :
    ∃ y, m.save (initial w given id now) x = (.ok (), y) ∧
      m.opening (.start now w given asked token) x = (.ok (w, initial w given id now), { y with token }) := by
  obtain ⟨y, hsave⟩ := exists_save_of_write hpath htext hwrite
  exact ⟨y, hsave, opening_start hfree hid hsave⟩

/-- A session that is shown is opened by a save if it is not completed. -/
theorem opening_resume (hload : load m.store x.files now key = .ok d)
    (hget : Library.get x.files m.directories d.name = .ok w) (hopen : d.completed = false)
    (hsave : m.save ((m.engine now).resumed d) { x with token } = (.ok (), y)) :
    m.opening (.resume now key none token) x = (.ok (w, (m.engine now).resumed d), y) := by
  have hloaded : m.loadSession now key x = (.ok d, x) := Prod.ext hload rfl
  have hfound : m.get d.name x = (.ok w, x) := Prod.ext hget rfl
  have hopened : (Act.ofExcept ((m.engine now).reopened w d none) : Act (World γ) Session) { x with token } =
      (.ok d, { x with token }) := rfl
  rw [opening, openResume, Act.bind_ok hloaded, Act.bind_ok hfound, Act.bind_ok (Act.change_apply _ x), hopen,
    if_neg Bool.false_ne_true, Act.bind_ok hopened, Act.bind_ok hsave]
  rfl

/-- The session comes to its step. -/
theorem enter_of_opening (hopening : m.opening q x = (.ok (w, s), y)) (hopen : s.completed = false)
    (hgo : m.cancelled y = false) (hstep : stepOf? w s = some step) : m.enter q x = (.performing w s step, y) := by
  have hgo' : (m.engine q.now).cancelled y = false := hgo
  rw [enter, hopening]
  dsimp only
  rw [Engine.reach, hopen, if_neg Bool.false_ne_true, hgo', if_neg Bool.false_ne_true, hstep]

/-- A step that fails ends the run with one record more, if the session holds values of JSON that can be written. -/
theorem exists_land_of_failure (now : String) (w : Workflow) (step : Step) {f : Fault} (hlast : m.IsLast t x)
    (hkey : s.key = t.key) (hs : s.IsPortable) (hshort : Json.IsShort s.iterations) (habrupt : isAbrupt f = false)
    (hgo : m.cancelled x = false) :
    ∃ p y d record, (m.engine now).land w s step (.error f) x = (.ended p, y) ∧ m.save d x = (.ok (), y) ∧
      d.key = s.key ∧ d.history = s.history ++ [record] ∧ record.timestamp = now := by
  set e := m.engine now
  set d := (e.settledFailure w s step none f false).1
  have hrecorded := recorded_settledFailure e w s step none f false
  have htext : ∃ text, fileText d = .ok text := by
    rcases fileText_of_isPortable (isPortable_settledFailure (e := e) hs w step f false) with ⟨-, htext⟩ | ⟨hlong, -⟩
    · exact htext
    · exact absurd (hrecorded.iterations_eq ▸ hshort) hlong
  obtain ⟨y, hsave, -⟩ := hlast.exists_save (hrecorded.key_eq.trans hkey) htext
  have hgo' : e.cancelled x = false := hgo
  have hsaving : e.save d x = (.ok (), y) := hsave
  refine ⟨.error (.failure (raisedFailure w s step f)), y, d, _, ?_, hsave, hrecorded.key_eq, rfl, rfl⟩
  have hsettle : e.settle (e.settledFailure w s step none f false) x =
      (.error (.failure (raisedFailure w s step f)), y) := by
    rw [Engine.settle_apply, hsaving]
    rfl
  have hfinish : e.finish w s step (.error f) x = (.error (.failure (raisedFailure w s step f)), y) := by
    rw [Engine.finish, habrupt, if_neg Bool.false_ne_true, hgo']
    exact hsettle
  rw [Engine.land, hfinish]

end Entering

/-- Starts a session of one command. -/
def startMaking : Request := .start "t" making [] (some "s") {}

theorem checkFree_empty : ((raising .runtime).checkFree "t" making ⟨"demo", "s"⟩ .empty).1 = .ok () := by
  have hmissing : ((raising .runtime).loadSession "t" ⟨"demo", "s"⟩ World.empty).1 =
      .error (.failure (notFound ⟨"demo", "s"⟩ (some "demo") (some (IncidentKind.label .fileMissing)))) := rfl
  unfold checkFree
  rw [Act.bind_apply, Act.observe_apply, hmissing]
  rfl

/-- The command fails when nothing else is under way. -/
theorem exists_failed_making :
    ∃ y z r d record, let m := raising .runtime
      let s := initial making [] "s" "t"
      m.enter startMaking .empty = (.performing making s makeStep, y) ∧ m.IsLast s y ∧
        (m.engine "t").slice making s makeStep y = (.ended r, z) ∧ m.IsLast d z ∧
        z.savesOf ⟨"demo", "s"⟩ = [d, s] ∧ d.key = ⟨"demo", "s"⟩ ∧ d.history = [record] := by
  have hwrite (data : List UInt8) : (bare.store.write "demo/s.json" data {}).1 = .ok () := rfl
  have htext : ∃ text, fileText (initial making [] "s" "t") = .ok text := exists_fileText_of_pending rfl rfl rfl rfl
  obtain ⟨y, hsave, hopening⟩ : ∃ y, (raising .runtime).save (initial making [] "s" "t") .empty = (.ok (), y) ∧
      (raising .runtime).opening startMaking .empty =
        (.ok (making, initial making [] "s" "t"), { y with token := {} }) :=
    exists_opening_start (fun i hi => Option.some.inj hi ▸ checkFree_empty) rfl rfl htext hwrite
  have hlast : (raising .runtime).IsLast (initial making [] "s" "t") { y with token := {} } :=
    (IsLast.of_save hsave).of_sameStore ⟨rfl, rfl⟩
  have hshares : (initial making [] "s" "t").key.SharesFile ⟨"demo", "s"⟩ := .refl _
  have hsaves : y.savesOf ⟨"demo", "s"⟩ = [initial making [] "s" "t"] := savesOf_save hshares hsave
  have hportable : (initial making [] "s" "t").IsPortable :=
    ⟨⟨List.nodup_nil, List.forall_mem_nil _⟩, List.forall_mem_nil _, nofun⟩
  obtain ⟨r, z, d, record, hland, hsaved, hkey, hhistory, -⟩ := exists_land_of_failure "t" making makeStep
    (f := .ofKind .runtime "boom") hlast rfl hportable (by decide) rfl rfl
  refine ⟨_, z, r, d, record, enter_of_opening hopening rfl rfl rfl, hlast, hland, .of_save hsaved, ?_, hkey, hhistory⟩
  rw [savesOf_save (hkey ▸ hshares) hsaved]
  exact congrArg _ hsaves

/-! ## Requests in turn -/

/-- However requests for one session take turns, and whatever their steps come to, each document that is saved extends
those before it and what was shown at first, and no two of them have a step in execution at the same time. -/
theorem nothing_is_lost_in_turn [DecidableEq ι] (hnew : Act.Moves World.SameStore String m.newId)
    (hidle : ∀ i, ¬c.IsPerforming i) (hunsaved : c.world.savesOf key = [])
    (hmoves : Relation.ReflTransGen (m.Move key requests (m.InTurn key requests)) c c') :
    m.NothingLost key c.world c'.world ∧ ∀ i j, c'.IsPerforming i → c'.IsPerforming j → i = j := by
  have hsound : m.Sound key c.world c := by
    refine ⟨⟨?_, fun d _ s hs => ?_, fun _ d hd => hd, fun s hs => ?_⟩, fun i w s step hi => ?_, fun i _ hi => ?_⟩
    · rw [hunsaved]
      exact .nil
    · rw [hunsaved] at hs
      cases hs
    · rw [hunsaved] at hs
      cases hs
    · exact absurd ⟨w, s, step, hi⟩ (hidle i)
    · exact absurd hi (hidle i)
  have hend := hsound.moves hnew hmoves
  exact ⟨hend.nothingLost, hend.alone⟩

/-- Two requests start the same session: the second is refused while the command of the first is in execution. -/
theorem second_start_is_refused :
    ∃ (y z : World Unit) (s d : Session) (f : Fault) (r : Except Fault Session),
      let m := raising .runtime
      let requests (second : Bool) : Request := if second then .start "u" making [] (some "s") {} else startMaking
      let start : Scene Bool Unit := .pair .empty .waiting .waiting
      let busy : Scene Bool Unit := .pair y (.performing making s makeStep) (.ended (.error f))
      let stop : Scene Bool Unit := .pair z (.ended r) (.ended (.error f))
      (∀ i, ¬start.IsPerforming i) ∧ start.world.savesOf ⟨"demo", "s"⟩ = [] ∧
        Relation.ReflTransGen (m.Move ⟨"demo", "s"⟩ requests (m.InTurn ⟨"demo", "s"⟩ requests)) start busy ∧
        m.Move ⟨"demo", "s"⟩ requests (m.InTurn ⟨"demo", "s"⟩ requests) busy stop ∧
        z.savesOf ⟨"demo", "s"⟩ = [d, s] ∧ m.NothingLost ⟨"demo", "s"⟩ .empty z := by
  obtain ⟨y, z, r, d, record, henter, hlast, hland, -, hsaves, -⟩ := exists_failed_making
  have hrefused : ∃ f, (raising .runtime).enter (.start "u" making [] (some "s") {}) y = (.ended (.error f), y) := by
    have hworld := checkFree_world (raising .runtime) "u" making ⟨"demo", "s"⟩ y
    cases hfree : ((raising .runtime).checkFree "u" making ⟨"demo", "s"⟩ y).1 with
    | ok u => exact (not_shows_of_checkFree (.refl _) hfree _ (shows_of_isLast hlast (.refl _))).elim
    | error f =>
      have hopening : (raising .runtime).opening (.start "u" making [] (some "s") {}) y = (.error f, y) :=
        Act.bind_error (Prod.ext hfree hworld) _
      exact ⟨f, by rw [enter, hopening]⟩
  obtain ⟨f, hrefused⟩ := hrefused
  refine ⟨y, z, initial making [] "s" "t", d, f, r, ?_⟩
  intro m requests start busy stop
  have hkey (now : String) (x : World Unit) (k : SessionKey)
      (hk : (Request.start now making [] (some "s") {}).call.IsAddressedTo m x k) : k.SharesFile ⟨"demo", "s"⟩ := by
    obtain ⟨id, hid, rfl⟩ := hk
    obtain rfl : "s" = id := Except.ok.inj hid
    exact .refl _
  have hidle (i : Bool) : ¬start.IsPerforming i := by
    rintro ⟨w, t, step, hi⟩
    cases i <;> cases hi
  have hfirst : m.Move ⟨"demo", "s"⟩ requests (m.InTurn ⟨"demo", "s"⟩ requests) start _ :=
    .enters (i := false) rfl (hkey "t" _) ⟨nofun, nofun⟩ henter
  rw [Scene.put_pair_first] at hfirst
  have hsecond : m.Move ⟨"demo", "s"⟩ requests (m.InTurn ⟨"demo", "s"⟩ requests) _ _ :=
    .enters (i := true) (c := .pair y (.performing making (initial making [] "s" "t") makeStep) .waiting) rfl
      (hkey "u" _) ⟨nofun, nofun⟩ hrefused
  rw [Scene.put_pair_second] at hsecond
  have hthird : m.Move ⟨"demo", "s"⟩ requests (m.InTurn ⟨"demo", "s"⟩ requests) busy _ :=
    .lands (i := false) rfl hland
  rw [Scene.put_pair_first] at hthird
  have hmoves := (Relation.ReflTransGen.single hfirst).tail hsecond
  exact ⟨hidle, rfl, hmoves, hthird, hsaves,
    (nothing_is_lost_in_turn (fun _ => ⟨rfl, rfl⟩) hidle rfl (hmoves.tail hthird)).1⟩

/-! ## Requests out of turn -/

theorem not_extends_of_length (h : t.history.length < s.history.length) : ¬t.Extends s := by
  intro hext
  have hle := hext.length_le
  simp only [Session.stored, List.length_map] at hle
  omega

theorem not_extends_of_timestamps {p q : StepRecord} (hs : s.history = [p]) (ht : t.history = [q])
    (h : p.timestamp ≠ q.timestamp) : ¬t.Extends s := by
  intro hext
  have hbegins : [p.stored] <+: [q.stored] := by
    rw [Session.Extends, Session.stored, Session.stored, hs, ht] at hext
    exact hext
  have hsame : p.stored.timestamp = q.stored.timestamp :=
    congrArg StepRecord.timestamp (List.cons.inj (hbegins.eq_of_length rfl)).1
  exact h hsame

/-- A manager that finds the workflows of the shelf and whose runner raises. -/
def crowded : Manager Unit := { raising .runtime with directories := ["workflows"] }

namespace IsSmall

/-- The command of the step fails, whoever comes to it. -/
theorem exists_raised (h : IsSmall w step) : ∃ f, isAbrupt f = false ∧
    ∀ now s x, (crowded.engine now).performed s step x = (.error f, x) := by
  unfold Engine.performed Execution.perform
  rcases h.action_eq with haction | haction
  all_goals
    obtain ⟨message, base, htask⟩ := exists_git_of_action haction
    simp only [Step.fill, htask, Task.fill]
    exact ⟨_, rfl, fun _ _ _ => rfl⟩

/-- A request goes on with the session at whose step the command of another is in execution. -/
theorem exists_entered_twice (h : IsSmall w step) {dir : String}
    (hpath : (⟨w.name, "s"⟩ : SessionKey).path = .ok (dir ++ "/s.json"))
    (hwrite : ∀ data, bare.store.write (dir ++ "/s.json") data shelf = (.ok (), stocked dir data))
    (hget : ∀ f, Library.Same ["workflows"] shelf f → Library.get f ["workflows"] w.name = .ok w) :
    ∃ y z, let s := initial w [] "s" "t"
      let t := (crowded.engine "u").resumed s
      crowded.enter (.start "t" w [] none {}) shelfWorld = (.performing w s step, y) ∧
        crowded.enter (.resume "u" ⟨w.name, "s"⟩ none {}) y = (.performing w t step, z) ∧
        crowded.cancelled z = false ∧ crowded.IsLast t z ∧ z.savesOf ⟨w.name, "s"⟩ = [t, s] := by
  have htext := @exists_fileText_of_pending (initial w [] "s" "t") (by rw [initial, h.variables_eq]; rfl) rfl rfl rfl
  have hstep := h.stepOf?_initial
  obtain ⟨y, hsave, hopening⟩ : ∃ y, crowded.save (initial w [] "s" "t") shelfWorld = (.ok (), y) ∧
      crowded.opening (.start "t" w [] none {}) shelfWorld =
        (.ok (w, initial w [] "s" "t"), { y with token := {} }) :=
    exists_opening_start (fun _ hnone => by cases hnone) rfl hpath htext fun data => congrArg Prod.fst (hwrite data)
  have hlast : crowded.IsLast (initial w [] "s" "t") { y with token := {} } :=
    (IsLast.of_save hsave).of_sameStore ⟨rfl, rfl⟩
  have hload : load crowded.store y.files "u" ⟨w.name, "s"⟩ = .ok (initial w [] "s" "t") :=
    (load_of_saved hlast.saved "u").trans (congrArg _ h.isPortable_initial.stored_eq)
  have hsame : Library.Same ["workflows"] shelf y.files :=
    same_of_save (s := initial w [] "s" "t") hpath hwrite (save_files hsave)
  set t := (crowded.engine "u").resumed (initial w [] "s" "t")
  obtain ⟨z, hagain, -⟩ := hlast.exists_save (t := t) rfl (hlast.exists_fileText rfl rfl rfl rfl)
  have hgo : crowded.cancelled z = false := congrArg Token.cancelled (token_of_save hagain)
  have hresuming : crowded.opening (.resume "u" ⟨w.name, "s"⟩ none {}) { y with token := {} } = (.ok (w, t), z) :=
    opening_resume hload (hget _ hsame) rfl hagain
  refine ⟨_, z, enter_of_opening hopening rfl rfl hstep, enter_of_opening hresuming rfl hgo hstep, hgo,
    .of_save hagain, ?_⟩
  exact (savesOf_save (.refl _) hagain).trans (congrArg _ (savesOf_save (.refl _) hsave))

end IsSmall

/-- Two requests that get in each other's way. A request without an answer goes on with the session that another one
has just started: the step is in execution for both, and the record of the one is lost with the save of the other. A
new session takes the place of one that has failed, since its id was not asked for. -/
theorem exists_update_that_is_lost :
    (∃ (w : Workflow) (step : Step) (s t d u : Session) (x y z z' : World Unit) (r r' : Except Fault Session),
      crowded.enter (.start "t" w [] none {}) shelfWorld = (.performing w s step, x) ∧
        crowded.enter (.resume "u" ⟨w.name, "s"⟩ none {}) x = (.performing w t step, y) ∧
        (crowded.engine "t").slice w s step y = (.ended r, z) ∧
        (crowded.engine "u").slice w t step z = (.ended r', z') ∧
        z'.savesOf ⟨w.name, "s"⟩ = [u, d, t, s] ∧ ¬u.Extends d) ∧
    ∃ (s d u : Session) (x y z : World Unit) (r : Except Fault Session),
      (raising .runtime).enter startMaking .empty = (.performing making s makeStep, x) ∧
        ((raising .runtime).engine "t").slice making s makeStep x = (.ended r, y) ∧
        (raising .runtime).enter (.start "u" making [] none {}) y = (.performing making u makeStep, z) ∧
        z.savesOf ⟨"demo", "s"⟩ = [u, d, s] ∧ ¬u.Extends d := by
  constructor
  · obtain ⟨w, step, hload, hname, -, hsmall⟩ :=
      @load_small "b.yaml" "c" "other" "pull" (by decide +kernel) rfl (.inr rfl)
    have hpath : (⟨w.name, "s"⟩ : SessionKey).path = .ok ("c" ++ "/s.json") := by
      rw [hname]
      rfl
    have hfind : Library.find? shelf ["workflows"] "b" = .ok (some (shelfFile "b.yaml")) := find?_shelf (by decide)
    have hfound := (Library.find?_name_iff files_shelf hfind hload).mpr (leadsBack_second hload hname)
    obtain ⟨x, y, hstart, hresume, hgo, hlast, hsaves⟩ :=
      hsmall.exists_entered_twice hpath (fun _ => rfl) fun f hsame => hsame.get_eq hfound hload
    set s := initial w [] "s" "t"
    set t := (crowded.engine "u").resumed s
    -- Both copies are older than either record, so the second to land does not have the first.
    obtain ⟨f, habrupt, hraised⟩ := hsmall.exists_raised
    have hs : s.IsPortable := hsmall.isPortable_initial
    have ht : t.IsPortable := ⟨hs.variables_, hs.outputs, nofun⟩
    have hshort : Json.IsShort 0 := by decide
    obtain ⟨r, z, d, first, hland, hsave, hkey, hhistory, htime⟩ :=
      exists_land_of_failure "t" w step hlast (s := s) rfl hs hshort habrupt hgo
    obtain ⟨r', z', u, second, hland', hsave', hkey', hhistory', htime'⟩ :=
      exists_land_of_failure "u" w step (.of_save hsave) (s := t) hkey.symm ht hshort habrupt
        ((congrArg Token.cancelled (token_of_save hsave)).trans hgo)
    refine ⟨w, step, s, t, d, u, x, y, z, z', r, r', hstart, hresume, ?_, ?_, ?_, ?_⟩
    · rw [slice, hraised]
      exact hland
    · rw [slice, hraised]
      exact hland'
    · rw [savesOf_save (hkey' ▸ .refl _) hsave', savesOf_save (hkey ▸ .refl _) hsave, hsaves]
    · refine not_extends_of_timestamps hhistory hhistory' ?_
      rw [htime, htime']
      decide
  · obtain ⟨x, y, r, d, record, henter, -, hland, hlast, hsaves, hkey, hhistory⟩ := exists_failed_making
    have htext : ∃ text, fileText (initial making [] "s" "u") = .ok text := exists_fileText_of_pending rfl rfl rfl rfl
    obtain ⟨z, hsave, -⟩ := hlast.exists_save (t := initial making [] "s" "u") hkey.symm htext
    have hopening : (raising .runtime).opening (.start "u" making [] none {}) y =
        (.ok (making, initial making [] "s" "u"), { z with token := {} }) := opening_start nofun rfl hsave
    refine ⟨_, d, _, x, y, _, _, henter, hland, enter_of_opening hopening rfl rfl rfl, ?_, ?_⟩
    · exact (savesOf_save (s := initial making [] "s" "u") (.refl _) hsave).trans (congrArg _ hsaves)
    · refine not_extends_of_length ?_
      rw [hhistory]
      exact Nat.zero_lt_one

end Manager

end Runbook
