import Runbook.Proofs.Manager.Containment
import Runbook.Proofs.Manager.Crash

/-! Keys of sessions as they are written: they are read as what was written, and what a session is started as leads back
to the file in which it stands. -/

namespace Runbook

open Text

/-! ## Keys and texts -/

namespace SessionKey

theorem parse?_eq_some_iff_split {text : String} {k : SessionKey} :
    parse? text = some k ↔ splitLast? text '/' = some (k.workflow, k.id) ∧ k.workflow ≠ "" ∧ k.id ≠ "" := by
  obtain ⟨workflow, id⟩ := k
  unfold parse?
  rcases splitLast? text '/' with _ | ⟨start, ending⟩
  · simp
  · dsimp only
    split_ifs with hempty
    · simp only [Bool.or_eq_true, String.isEmpty_iff] at hempty
      simp only [Option.some.injEq, Prod.mk.injEq, false_iff]
      rintro ⟨⟨rfl, rfl⟩, hstart, hending⟩
      exact hempty.elim hstart hending
    · simp only [Bool.or_eq_true, String.isEmpty_iff, not_or] at hempty
      simp only [Option.some.injEq, SessionKey.mk.injEq, Prod.mk.injEq, iff_self_and]
      rintro ⟨rfl, rfl⟩
      exact hempty

/-- A text is a key if there is something on both sides of its last slash. -/
theorem parse?_eq_some_iff {text : String} {k : SessionKey} :
    parse? text = some k ↔ text = k.display ∧ '/' ∉ k.id.toList ∧ k.workflow ≠ "" ∧ k.id ≠ "" := by
  rw [parse?_eq_some_iff_split, splitLast?_eq_some_iff, and_assoc]
  rfl

theorem parse?_display {k : SessionKey} {path : String} (hname : k.workflow ≠ "") (hpath : k.path = .ok path) :
    parse? k.display = some k := by
  obtain ⟨hid, -⟩ := path_eq_ok hpath
  have hslash : '/' ∉ k.id.toList := notMem_of_isValidId hid (by decide) (by decide)
  exact parse?_eq_some_iff.mpr ⟨rfl, hslash, hname, id_ne_empty hid⟩

theorem parse_eq_ok_iff {text : String} {k : SessionKey} : parse text = .ok k ↔ parse? text = some k := by
  unfold parse
  cases parse? text <;> simp

theorem display_of_parse {text : String} {k : SessionKey} (h : parse text = .ok k) : k.display = text :=
  (parse?_eq_some_iff.mp (parse_eq_ok_iff.mp h)).1.symm

end SessionKey

/-! ## The session that a run ends with is saved -/

namespace Engine

variable {σ : Type} {e : Engine σ} {w : Workflow} {s t : Session} {step : Step} {x : σ}

/-- What holds of a session once it is saved. -/
def ShowsSaves (e : Engine σ) (I : Session → σ → Prop) : Prop :=
  ∀ s x, (e.save s x).1 = .ok () → I s (e.save s x).2

namespace ShowsSaves

variable {I : Session → σ → Prop}

theorem settle (h : e.ShowsSaves I) {r : Session × Except Fault Session} (hr : ∀ t, r.2 = .ok t → t = r.1)
    (hok : (e.settle r x).1 = .ok t) : I t (e.settle r x).2 := by
  obtain rfl := hr t (settle_eq_ok hok)
  rw [settle_apply] at hok ⊢
  cases hsave : (e.save r.1 x).1 with
  | error f =>
    rw [hsave] at hok
    cases hok
  | ok u => exact h _ x hsave

theorem runStep (h : e.ShowsSaves I) (hok : (e.runStep w s step x).1 = .ok t) : I t (e.runStep w s step x).2 := by
  rw [runStep_eq] at hok ⊢
  dsimp only at hok ⊢
  cases habort : abort? (e.performed s step x).1 with
  | some f =>
    rw [habort] at hok
    cases hok
  | none =>
    rw [habort] at hok
    exact h.settle (fun u hu => (settled_eq_ok hu).1) hok

/-- A run that begins with a session that is saved ends with one that is. -/
theorem runFrom (h : e.ShowsSaves I) (fuel : ℕ) (hI : I s x) (hok : (e.runFrom w fuel s x).1 = .ok t) :
    I t (e.runFrom w fuel s x).2 := by
  induction fuel generalizing s x with
  | zero =>
    obtain rfl := Except.ok.inj hok
    exact hI
  | succ fuel ih =>
    rw [runFrom_succ] at hok ⊢
    split_ifs at hok ⊢
    · obtain rfl := Except.ok.inj hok
      exact hI
    · exact h.settle (fun u hu => (Except.ok.inj hu).symm) hok
    · cases hstep : stepOf? w s with
      | none =>
        rw [hstep] at hok
        exact h.settle (fun u hu => nomatch hu) hok
      | some step =>
        rw [hstep] at hok
        dsimp only at hok ⊢
        cases hr : (e.runStep w s step x).1 with
        | error f =>
          rw [hr] at hok
          cases hok
        | ok u =>
          rw [hr] at hok
          dsimp only at hok ⊢
          have hu := h.runStep hr
          split_ifs at hok ⊢
          · obtain rfl := Except.ok.inj hok
            exact hu
          · exact ih hu hok

theorem run (h : e.ShowsSaves I) (hpaused : s.paused = false) (hI : I s x) (hok : (e.run w s x).1 = .ok t) :
    I t (e.run w s x).2 := by
  have hself : { s with paused := false } = s := by
    rw [← hpaused]
  unfold Engine.run at hok ⊢
  split_ifs at hok ⊢
  · obtain rfl := Except.ok.inj hok
    exact hI
  · rw [hself] at hok ⊢
    exact h.runFrom _ hI hok

end ShowsSaves

end Engine

/-! ## Deleting what was saved -/

theorem Repository.delete_of_saved {store : Store} {s : Session} {f : Files} {path : String} (h : Saved store s f)
    (hpath : s.key.path = .ok path) :
    delete store s.key f = (.ok true, f.erase (store.placeBelow f path)) := by
  obtain ⟨path', text, hpath', -, hready, hnode⟩ := h.ready
  obtain rfl := Except.ok.inj (hpath.symm.trans hpath')
  have hlast := Store.isLasting_placeBelow hpath store f
  have hread := Store.read_of_ready hready Files.not_mem_resolve_dots hlast.1 (fits_of_ready hpath hready) hnode
  rw [delete_apply, hpath]
  dsimp only
  rw [Store.delete_apply, hready.placeOf]
  dsimp only
  rw [Files.read_eq_ok_iff.mp (Store.read_eq_ok_iff_read.mp hread).2]

namespace Manager

open Repository

variable {γ : Type} {m : Manager γ} {w : Workflow} {t : Session} {x y : World γ}

/-- The operation on the session with a key that is given as it is written. -/
def addressed {α : Type} (op : SessionKey → Act (World γ) α) (text : String) : Act (World γ) α := do
  op (← Act.ofExcept (keyOf text))

theorem keyOf_eq_ok {text : String} {key : SessionKey} (h : SessionKey.parse? text = some key) :
    keyOf text = .ok key := by
  unfold keyOf
  rw [h]

theorem addressed_eq {α : Type} {text : String} {key : SessionKey} (h : keyOf text = .ok key)
    (op : SessionKey → Act (World γ) α) : addressed op text = op key := by
  unfold addressed
  rw [h]
  exact pure_bind key op

/-- The text stands for the session: it is read as its key, whatever is to be done with it, and under this key there is
the file in which the session stands. -/
structure LeadsTo (m : Manager γ) (text : String) (s : Session) (x : World γ) : Prop where
  key : keyOf text = .ok s.key
  addressed : ∀ (α : Type) (op : SessionKey → Act (World γ) α), addressed op text = op s.key
  saved : Saved m.store s x.files
  loaded : ∀ now, Manager.addressed (m.loadSession now) text x = (.ok s.stored, x)
  abandoned : ∀ path, s.key.path = .ok path →
    Manager.addressed m.abandon text x = (.ok (), { x with files := x.files.erase (m.store.placeBelow x.files path) })

theorem leadsTo_display {s : Session} (hname : s.name ≠ "") (h : Saved m.store s x.files) :
    m.LeadsTo s.key.display s x := by
  obtain ⟨path, -, hpath, -⟩ := h.ready
  have hkey : keyOf s.key.display = .ok s.key := keyOf_eq_ok (SessionKey.parse?_display hname hpath)
  refine ⟨hkey, fun α op => addressed_eq hkey op, h, fun now => ?_, fun path hpath => ?_⟩
  · rw [addressed_eq hkey]
    have hload := load_of_saved h now
    exact Prod.ext hload rfl
  · have hdelete : m.delete s.key x =
        (.ok true, { x with files := x.files.erase (m.store.placeBelow x.files path) }) := by
      unfold delete World.onFiles
      rw [Act.within_apply, delete_of_saved h hpath]
    rw [addressed_eq hkey, abandon, Act.bind_ok hdelete]
    rfl

/-- A run that is started ends with a session that is saved, under the name of its workflow. -/
theorem saved_of_launch {now id : String} {given : Bindings} {token : Token} {st : Standing}
    (h : m.launch now w given id token x = (.ok st, y)) :
    Saved m.store st.session y.files ∧ st.workflow = w ∧ st.session.name = w.name := by
  have hshows : (m.engine now).ShowsSaves fun s x => Saved m.store s x.files :=
    fun s x hsave => (save_eq_ok (Prod.ext hsave rfl)).1
  have hkeeps : (m.engine now).Keeps w (·.key = ⟨w.name, id⟩) fun _ => True :=
    { Engine.preserves_key _ w _ with perform := fun _ _ _ _ => trivial, save := fun _ _ _ _ => trivial }
  rcases launch_cases m now w given id token x with ⟨f, -, hlaunch⟩ | ⟨f, z, -, hlaunch⟩ | ⟨z, hsave, hlaunch⟩
  · cases (Prod.mk.inj (h.symm.trans hlaunch)).1
  · cases (Prod.mk.inj (h.symm.trans hlaunch)).1
  · obtain ⟨hresult, rfl⟩ := Prod.mk.inj (h.symm.trans hlaunch)
    cases hrun : ((m.engine now).run w (initial w given id now) { z with token }).1 with
    | error f =>
      rw [hrun] at hresult
      cases hresult
    | ok t =>
      rw [hrun] at hresult
      obtain rfl := Except.ok.inj hresult
      have hfirst : Saved m.store (initial w given id now) { z with token }.files := (save_eq_ok hsave).1
      have hkey := (hkeeps.run rfl rfl rfl trivial).2 t hrun
      exact ⟨hshows.run rfl hfirst hrun, rfl, congrArg SessionKey.workflow hkey⟩

theorem saved_of_start {now : String} {given : Bindings} {asked : Option String} {token : Token} {st : Standing}
    (h : m.start now w given asked token x = (.ok st, y)) :
    Saved m.store st.session y.files ∧ st.workflow = w ∧ st.session.name = w.name := by
  rcases start_cases m now w given asked token x with ⟨e, i, -, hstart⟩ | ⟨e, -, hstart⟩ | ⟨id, -, hstart⟩
  · cases (Prod.mk.inj (h.symm.trans hstart)).1
  · cases (Prod.mk.inj (h.symm.trans hstart)).1
  · exact saved_of_launch (hstart.symm.trans h)

theorem saved_of_startNamed {now name : String} {given : Bindings} {asked : Option String} {token : Token}
    {st : Standing} (h : m.startNamed now name given asked token x = (.ok st, y)) :
    Saved m.store st.session y.files ∧ st.session.name = st.workflow.name := by
  rw [startNamed_apply] at h
  cases hget : Library.get x.files m.directories name with
  | error e =>
    rw [hget] at h
    cases (Prod.mk.inj h).1
  | ok w =>
    rw [hget] at h
    obtain ⟨hsaved, hworkflow, hname⟩ := saved_of_start h
    exact ⟨hsaved, hname.trans (congrArg Workflow.name hworkflow.symm)⟩

theorem session_of_toValue {st : Standing} {v : Value} (h : st.toValue = .ok v) :
    v.get? "session" = some (.text st.session.key.display) := by
  unfold Standing.toValue at h
  cases hstate : st.session.toValue with
  | error e =>
    rw [hstate] at h
    cases h
  | ok state =>
    rw [hstate] at h
    obtain rfl := Except.ok.inj h
    rfl

/-- A key with a valid id is read as what was written, and a text that is read as a key is what is written for it. So
the text that a run shows for its session leads to the very file that the run saved. -/
theorem written_key_leads_to_session :
    (∀ (key : SessionKey) (path : String), key.workflow ≠ "" → key.path = .ok path →
      SessionKey.parse key.display = .ok key) ∧
    (∀ (text : String) (key : SessionKey), SessionKey.parse text = .ok key → key.display = text) ∧
    ∀ (m : Manager γ) (now : String) (given : Bindings) (asked : Option String) (token : Token) (x y : World γ)
      (st : Standing), st.workflow.name ≠ "" →
      (∃ w, m.start now w given asked token x = (.ok st, y)) ∨
        (∃ name, m.startNamed now name given asked token x = (.ok st, y)) →
      m.LeadsTo st.session.key.display st.session y ∧
        ∀ v, st.toValue = .ok v → v.get? "session" = some (.text st.session.key.display) := by
  refine ⟨fun key path hname hpath => ?_, fun text key hparse => SessionKey.display_of_parse hparse, ?_⟩
  · exact SessionKey.parse_eq_ok_iff.mpr (SessionKey.parse?_display hname hpath)
  · intro m now given asked token x y st hname hrun
    have hsaved : Saved m.store st.session y.files ∧ st.session.name = st.workflow.name := by
      rcases hrun with ⟨w, hstart⟩ | ⟨name, hstart⟩
      · obtain ⟨hsaved, hworkflow, hsession⟩ := saved_of_start hstart
        exact ⟨hsaved, hsession.trans (congrArg Workflow.name hworkflow.symm)⟩
      · exact saved_of_startNamed hstart
    have hsession : st.session.name ≠ "" := hsaved.2 ▸ hname
    exact ⟨leadsTo_display hsession hsaved.1, fun v hv => session_of_toValue hv⟩

/-- A session that is asked to stop at once is shown as it stops. -/
theorem launch_of_cancelled {now id : String} {given : Bindings} {token : Token} (hstop : ∀ x, m.cancelled x = true)
    (hsave : m.save (initial w given id now) x = (.ok (), y))
    (hstopped : (m.save ((m.engine now).stopped (initial w given id now)) { y with token }).1 = .ok ()) :
    (m.launch now w given id token x).1 = .ok ⟨w, (m.engine now).stopped (initial w given id now)⟩ := by
  have hsaves : (m.engine now).save = m.save := rfl
  rw [launch_of_saved hsave, Engine.run_eq_of_cancelled rfl rfl (hstop _), Engine.settle_apply]
  simp only [Engine.stopping, hsaves, hstopped]
  rfl

/-- A manager whose operations are asked to stop at once. -/
def idle : Manager Unit := { bare with cancelled := fun _ => true }

/-- A workflow with a slash in its name. -/
def nested : Workflow := { Workflow.asking with name := "a/b" }

/-- A session under a name with a slash is started and stops at once, and the text that is shown for it leads to it. -/
theorem nested_key_leads_to_session :
    SessionKey.parse "a/b/s" = .ok ⟨"a/b", "s"⟩ ∧
      ∃ st y, idle.start "t" nested [] none {} .empty = (.ok st, y) ∧ st.session.key.display = "a/b/s" ∧
        idle.LeadsTo "a/b/s" st.session y := by
  have hpath : (initial nested [] "s" "t").key.path = .ok "a_b/s.json" := rfl
  have hwrite (data : List UInt8) : (idle.store.write "a_b/s.json" data {}).1 = .ok () := rfl
  obtain ⟨z, hsave⟩ := exists_save_of_write (m := idle) (x := .empty) hpath
    (exists_fileText_of_pending rfl rfl rfl rfl) hwrite
  obtain ⟨f, hagain, -, -⟩ := save_of_saved (t := (idle.engine "t").stopped (initial nested [] "s" "t"))
    (save_eq_ok hsave).1 rfl (exists_fileText_of_pending rfl rfl rfl rfl)
  have hstart : (idle.start "t" nested [] none {} .empty).1 =
      .ok ⟨nested, (idle.engine "t").stopped (initial nested [] "s" "t")⟩ := by
    have hid : (idle.idOr none World.empty).1 = .ok "s" := rfl
    have hworld : (idle.idOr none World.empty).2 = .empty := rfl
    rw [start_of_free (fun i (hi : none = some i) => nomatch hi) hid, hworld]
    exact launch_of_cancelled (fun _ => rfl) hsave (by rw [save_apply, hagain])
  have hleads := written_key_leads_to_session (γ := Unit)
  have hparse := hleads.1 ⟨"a/b", "s"⟩ "a_b/s.json" (by decide) hpath
  have hdisplay : ((idle.engine "t").stopped (initial nested [] "s" "t")).key.display = "a/b/s" := rfl
  have hstarted := hleads.2.2 idle "t" [] none {} .empty _ _ (by decide) (.inl ⟨nested, Prod.ext hstart rfl⟩)
  exact ⟨hparse, _, _, Prod.ext hstart rfl, hdisplay, hdisplay ▸ hstarted.1⟩

end Manager

end Runbook
