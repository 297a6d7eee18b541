import Runbook.Proofs.Session.Atomicity
import Runbook.Proofs.Session.Confinement

/-! No key leads out of a store: it is refused, or what is done under it is done strictly below the root. Only the keys
that lead to the root itself are let pass there. -/

namespace Runbook.Store

open Text

variable {s : Store} {f g : Files} {key : String} {place : Place}

/-! ## Places below the root -/

/-- The place is strictly below the root. -/
def IsInside (s : Store) (f : Files) (q : Place) : Prop := s.rootPlace f <+: q ∧ q ≠ s.rootPlace f

theorem isInside_append {rest : List String} (h : rest ≠ []) : s.IsInside f (s.rootPlace f ++ rest) :=
  ⟨List.prefix_append _ _, by simpa using h⟩

theorem IsInside.exists_rest (h : s.IsInside f place) : ∃ rest, rest ≠ [] ∧ place = s.rootPlace f ++ rest := by
  obtain ⟨⟨rest, rfl⟩, hne⟩ := h
  exact ⟨rest, by simpa using hne, rfl⟩

/-- A temporary file beside a place strictly below the root is there as well. -/
theorem IsInside.tempNumbered (h : s.IsInside f place) (n : ℕ) : s.IsInside f (tempNumbered place n) := by
  obtain ⟨rest, hrest, rfl⟩ := h.exists_rest
  rw [Store.tempNumbered, List.dropLast_append_of_ne_nil hrest, List.append_assoc]
  exact isInside_append (List.append_ne_nil_of_right_ne_nil _ (List.cons_ne_nil _ _))

theorem rootPlace_prefix_of_placeOf (h : s.placeOf f key = .ok place) : s.rootPlace f <+: place := by
  obtain ⟨-, -, hbelow⟩ := placeOf_eq_ok_iff.mp h
  exact hbelow

/-! ## What is refused -/

/-- Nothing is done under the key, which is refused with the error. -/
structure Refuses (s : Store) (f : Files) (key : String) (e : Fault) : Prop where
  read : s.read f key = .error e
  write (t : Trouble) (data : List UInt8) : writeWith t s key data f = (.error e, f)
  death (t : Trouble) (data : List UInt8) : dying t s key data f = (.error e, f)
  delete : s.delete key f = (.error e, f)

theorem refuses_of_placeOf {e : Fault} (h : s.placeOf f key = .error e) : s.Refuses f key e := by
  have hprepare (t : Trouble) : prepare t s key f = (.error e, f) := by rw [prepare_apply, h]
  constructor
  · unfold read
    rw [h]
    rfl
  · intro t data
    rw [writeWith_apply, hprepare]
  · exact fun t data => Act.bind_error (hprepare t) _
  · rw [delete_apply, h]

/-! ## What is let pass -/

/-- What is done under the key is done strictly below the root, but that directories are made on the way there. -/
structure StaysInside (s : Store) (f : Files) (key : String) : Prop where
  /-- The contents of files elsewhere do not matter. -/
  read (g : Files) (h : Files.Alike (fun q => ¬s.IsInside f q) f g) : s.read g key = s.read f key
  write (t : Trouble) (data : List UInt8) :
    Files.ChangesOnly (s.IsInside f) (s.placeBelow f key).dropLast f (writeWith t s key data f).2
  /-- This goes for the temporary file too, which stays if the process dies. -/
  death (t : Trouble) (data : List UInt8) :
    Files.ChangesOnly (s.IsInside f) (s.placeBelow f key).dropLast f (dying t s key data f).2
  midway (data : List UInt8) (g : Files) (h : Midway s key data f g) :
    Files.ChangesOnly (s.IsInside f) (s.placeBelow f key).dropLast f g
  delete : Files.ChangesOnly (s.IsInside f) [] f (s.delete key f).2

/-- A process that dies in a write has changed the file of the key, and left a temporary file beside it. -/
theorem changesOnly_dying (t : Trouble) (s : Store) (key : String) (data : List UInt8) (f : Files) :
    ∃ n, Files.ChangesOnly (fun q => q = s.placeBelow f key ∨ q = tempNumbered (s.placeBelow f key) n)
      (s.placeBelow f key).dropLast f (dying t s key data f).2 := by
  unfold dying
  rcases prepare_cases t s key f with ⟨e, k, n, hprepare, hdirs⟩ | ⟨place, k, hprepare, hplace, hdirs, -, -, -⟩
  · rw [Act.bind_error hprepare]
    exact ⟨0, (Files.ChangesOnly.makeDirectories hdirs).mono nofun (List.take_prefix _ _)⟩
  · obtain rfl := (placeOf_eq_ok hplace).1
    obtain ⟨n, hn, -, -⟩ := tempFor_spec k (s.placeBelow f key)
    have hmade : Files.ChangesOnly (fun q => q = s.placeBelow f key ∨ q = tempNumbered (s.placeBelow f key) n)
        (s.placeBelow f key).dropLast f k :=
      (Files.ChangesOnly.makeDirectories hdirs).mono nofun (List.prefix_refl _)
    rw [Act.bind_ok hprepare]
    dsimp only
    rcases fillAndRename_cases t (tempFor k (s.placeBelow f key)) (s.placeBelow f key) data k with
      ⟨e, part, -, hfill⟩ | ⟨-, -, -, -, -, -, hfill⟩
    · rw [hfill, hn]
      exact ⟨n, hmade.trans (((Files.ChangesOnly.put k _ _ _).trans (.put _ _ _ _)).mono (fun _ => .inr)
        (List.prefix_refl _))⟩
    · rw [hfill, erase_staged]
      exact ⟨n, hmade.trans ((Files.ChangesOnly.put k _ _ _).mono (fun _ => .inl) (List.prefix_refl _))⟩

theorem staysInside_of_isInside (h : s.IsInside f (s.placeBelow f key)) : s.StaysInside f key where
  read g halike := read_congr halike.workDir (halike.read Files.not_mem_resolve_dots (not_not_intro h))
  write t data := (changesOnly_writeWith t s key data f).mono_of_eq h
  death t data := by
    obtain ⟨n, hchanges⟩ := changesOnly_dying t s key data f
    refine hchanges.mono ?_ (List.prefix_refl _)
    rintro q (rfl | rfl)
    · exact h
    · exact h.tempNumbered n
  midway data g hmidway := by
    obtain ⟨n, hchanges⟩ := hmidway.changesOnly
    exact hchanges.mono_of_eq (h.tempNumbered n)
  delete := (changesOnly_delete s key f).mono_of_eq h

/-! ## Every key -/

/-- A key that does not lead to the root is refused, or all that is done under it is done strictly below the root. -/
theorem refuses_or_staysInside (h : s.placeBelow f key ≠ s.rootPlace f) :
    (∃ e, (e = escapes key ∨ e = embeddedNull) ∧ s.Refuses f key e) ∨ s.StaysInside f key := by
  cases hplace : s.placeOf f key with
  | error e => exact .inl ⟨e, fault_of_placeOf hplace, refuses_of_placeOf hplace⟩
  | ok place =>
    refine .inr (staysInside_of_isInside ⟨?_, h⟩)
    rw [← (placeOf_eq_ok hplace).1]
    exact rootPlace_prefix_of_placeOf hplace

/-- A key that goes up and comes back down again stays inside, and one that only goes up is refused. -/
theorem way_down_stays_and_way_up_is_refused :
    let store : Store := ⟨⟨true, ["state"]⟩⟩
    store.StaysInside {} "../state/demo//./s.json" ∧ store.Refuses {} "demo/../.." (escapes "demo/../..") := by
  intro store
  have hdown : store.placeOf {} "../state/demo//./s.json" = .ok ["state", "demo", "s.json"] :=
    placeOf_eq_ok_iff.mpr (by decide +kernel)
  have hup : store.placeOf {} "demo/../.." = .error (escapes "demo/../..") := by
    unfold placeOf
    dsimp only
    rw [if_neg (by decide +kernel), if_neg (by decide +kernel)]
  have hdownBelow : store.placeBelow {} "../state/demo//./s.json" ≠ store.rootPlace {} := by decide +kernel
  have hupBelow : store.placeBelow {} "demo/../.." ≠ store.rootPlace {} := by decide +kernel
  constructor
  · rcases refuses_or_staysInside hdownBelow with ⟨e, -, hrefuses⟩ | hstays
    · have hdelete := hrefuses.delete
      rw [delete_apply, hdown] at hdelete
      cases hdelete
    · exact hstays
  · rcases refuses_or_staysInside hupBelow with ⟨e, -, hrefuses⟩ | hstays
    · have hread := hrefuses.read
      unfold read at hread
      rw [hup] at hread
      obtain rfl := Except.error.inj hread
      exact hrefuses
    · exact refuses_of_placeOf hup

/-- Under a key that leads to the root a file is written there. -/
theorem exists_key_of_root :
    let store : Store := ⟨⟨true, ["state"]⟩⟩
    store.write "" [97] {} = (.ok (), { nodes := [(["state"], .file [97])] }) ∧
      ¬((∃ e, store.Refuses {} "" e) ∨ store.StaysInside {} "") := by
  intro store
  have hplace : store.placeOf {} "" = .ok ["state"] := placeOf_eq_ok_iff.mpr (by decide +kernel)
  have hmade : Made store "" {} ["state"] {} :=
    ⟨hplace, rfl, by decide +kernel, by decide +kernel, by decide +kernel⟩
  have hwrite := write_of_made hmade [97]
  refine ⟨hwrite, ?_⟩
  rintro (⟨e, hrefuses⟩ | hstays)
  · cases hwrite.symm.trans (hrefuses.write .none [97])
  · have hchanges := hstays.write .none [97]
    change Files.ChangesOnly _ _ _ (store.write "" [97] {}).2 at hchanges
    rw [hwrite] at hchanges
    have hnot : ¬store.IsInside {} ["state"] := fun h => h.2 rfl
    rcases hchanges.nodes ["state"] hnot with heq | ⟨-, hdir, -⟩
    · cases heq
    · cases hdir

end Runbook.Store
