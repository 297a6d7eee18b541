import Runbook.Proofs.Decimal.Digits
import Runbook.Proofs.Each
import Runbook.Proofs.Files.Alike
import Runbook.Proofs.Text.Cutting
import Runbook.Session.Store

/-! A write to a store puts its data at one place and leaves the other files alone; after one write another
one succeeds, and what was written is read. -/

namespace Runbook

open Text

namespace Store

/-! ## Temporary places -/

theorem padLeft_natText_injective {m n : ℕ} (h : padLeft 8 '0' (natText m) = padLeft 8 '0' (natText n)) :
    m = n := by
  have hvalue (k : ℕ) : Decimal.digitsValue (padLeft 8 '0' (natText k)) = k := by
    rw [padLeft, Decimal.digitsValue_zeros_append, Decimal.digitsValue_natText]
  rw [← hvalue m, h, hvalue n]

theorem tempNumbered_injective (place : Place) : Function.Injective (tempNumbered place) := by
  intro m n h
  unfold tempNumbered at h
  have hlast := List.cons.inj (List.append_cancel_left h)
  have hchars := congrArg String.toList hlast.1
  simp only [String.toList_append, String.toList_ofList] at hchars
  exact padLeft_natText_injective (List.append_cancel_left (List.append_cancel_right hchars))

theorem tempNumbered_ne_nil (place : Place) (n : ℕ) : tempNumbered place n ≠ [] := by
  simp [tempNumbered]

/-- There are more numbers than files. -/
theorem exists_free (f : Files) (place : Place) :
    ∃ n ≤ f.nodes.length, f.nodeAt (tempNumbered place n) = none := by
  by_contra hnone
  push Not at hnone
  have hsub : (List.range (f.nodes.length + 1)).map (tempNumbered place) ⊆ f.nodes.map (·.1) := by
    intro q hq
    obtain ⟨n, hn, rfl⟩ := List.mem_map.mp hq
    exact Files.mem_nodes_of_nodeAt (tempNumbered_ne_nil place n) (hnone n (by simpa using hn))
  have hnodup : ((List.range (f.nodes.length + 1)).map (tempNumbered place)).Nodup :=
    List.nodup_range.map (tempNumbered_injective place)
  have hlength := (List.subperm_of_subset hnodup hsub).length_le
  simp at hlength

/-- The temporary place is the free one with the least number. -/
theorem tempFor_spec (f : Files) (place : Place) :
    ∃ n, tempFor f place = tempNumbered place n ∧ f.nodeAt (tempNumbered place n) = none ∧
      ∀ k < n, f.nodeAt (tempNumbered place k) ≠ none := by
  obtain ⟨m, hm, hfree⟩ := exists_free f place
  unfold tempFor
  cases hfind : (List.range (f.nodes.length + 1)).find? fun n =>
      (f.nodeAt (tempNumbered place n)).isNone with
  | none =>
    have := List.find?_eq_none.mp hfind m (by simpa using Nat.lt_succ_of_le hm)
    simp [hfree] at this
  | some n =>
    obtain ⟨hn, -, hleast⟩ := List.find?_range_eq_some.mp hfind
    exact ⟨n, rfl, by simpa using hn, fun k hk => by simpa [Option.isSome_iff_ne_none] using hleast k hk⟩

/-- The temporary place depends on nothing but which numbers are free. -/
theorem tempFor_congr {f g : Files} {place : Place}
    (h : ∀ n, f.nodeAt (tempNumbered place n) = none ↔ g.nodeAt (tempNumbered place n) = none) :
    tempFor f place = tempFor g place := by
  obtain ⟨m, hf, hfree, hleast⟩ := tempFor_spec f place
  obtain ⟨n, hg, hfree', hleast'⟩ := tempFor_spec g place
  have hmn : m = n := by
    rcases Nat.lt_trichotomy m n with hlt | heq | hgt
    · exact absurd ((h m).mp hfree) (hleast' m hlt)
    · exact heq
    · exact absurd ((h n).mpr hfree') (hleast n hgt)
  rw [hf, hg, hmn]

/-! ## Directories on the way -/

theorem makeDirectories_cons_of_none {f : Files} {here : Place} {name : String} (hfit : ¬Files.maxName < name.utf8ByteSize)
    (hnode : f.nodeAt (here ++ [name]) = none) (names : List String) :
    f.makeDirectories here (name :: names) =
      (f.put (here ++ [name]) .directory).makeDirectories (here ++ [name]) names := by
  rw [Files.makeDirectories]
  simp only [hfit, if_false, hnode]

theorem makeDirectories_cons_of_directory {f : Files} {here : Place} {name : String}
    (hfit : ¬Files.maxName < name.utf8ByteSize) (hnode : f.nodeAt (here ++ [name]) = some .directory)
    (names : List String) :
    f.makeDirectories here (name :: names) = f.makeDirectories (here ++ [name]) names := by
  rw [Files.makeDirectories]
  simp only [hfit, if_false, hnode]

theorem makeWay_cons (t : Trouble) (here : Place) (fresh : Bool) (name : String) (rest : List String) (f : Files) :
    makeWay t here fresh (name :: rest) f =
      let shown := if fresh then here ++ [name] else here ++ [name] ++ rest
      if Files.maxName < name.utf8ByteSize then
        (.error (.incident (Files.tooLong (Files.placeText shown))), f)
      else
        match f.nodeAt (here ++ [name]) with
        | some .directory => makeWay t (here ++ [name]) fresh rest f
        | some (.file _) =>
          (.error (.incident (if rest.isEmpty then .exists_ (Files.placeText shown)
            else .notDirectory (Files.placeText shown))), f)
        | none =>
          match t.directory (here ++ [name]) with
          | some i => (.error (.incident i), f)
          | none => makeWay t (here ++ [name]) true rest (f.put (here ++ [name]) .directory) := rfl

/-- None of the directories that are missing on the way is prevented. -/
def AllowsWay (t : Trouble) (f : Files) (here : Place) (names : List String) : Prop :=
  ∀ n < names.length, f.nodeAt (here ++ names.take (n + 1)) = none → t.directory (here ++ names.take (n + 1)) = none

theorem AllowsWay.cons {t : Trouble} {f g : Files} {here : Place} {name : String} {rest : List String}
    (hfirst : f.nodeAt (here ++ [name]) = none → t.directory (here ++ [name]) = none)
    (hsame : ∀ q, (here ++ [name]).length < q.length → g.nodeAt q = f.nodeAt q)
    (h : AllowsWay t g (here ++ [name]) rest) : AllowsWay t f here (name :: rest) := by
  intro n hn hnone
  cases n with
  | zero => exact hfirst hnone
  | succ n =>
    have hplace : here ++ (name :: rest).take (n + 1 + 1) = here ++ [name] ++ rest.take (n + 1) := by simp
    have hn' : n < rest.length := by simpa using hn
    rw [hplace] at hnone ⊢
    refine h n hn' ?_
    rw [hsame _ ?_, hnone]
    simp only [List.length_append, List.length_take]
    omega

/-- All directories are made, as they are made together, or the first ones are and the next one fails. -/
theorem makeWay_cases (t : Trouble) (here : Place) (fresh : Bool) (names : List String) (f : Files) :
    (∃ g, makeWay t here fresh names f = (.ok (), g) ∧ f.makeDirectories here names = .ok g ∧
      AllowsWay t f here names) ∨
      ∃ i g n, makeWay t here fresh names f = (.error (.incident i), g) ∧
        f.makeDirectories here (names.take n) = .ok g := by
  induction names generalizing here fresh f with
  | nil => exact .inl ⟨f, rfl, by rw [Files.makeDirectories], nofun⟩
  | cons name rest ih =>
    have hfirst : f.makeDirectories here ((name :: rest).take 0) = .ok f := by
      rw [List.take_zero, Files.makeDirectories]
    rw [makeWay_cons]
    dsimp only
    by_cases hlong : Files.maxName < name.utf8ByteSize
    · rw [if_pos hlong]
      exact .inr ⟨_, f, 0, rfl, hfirst⟩
    · rw [if_neg hlong]
      cases hnode : f.nodeAt (here ++ [name]) with
      | none =>
        dsimp only
        cases hallowed : t.directory (here ++ [name]) with
        | some i => exact .inr ⟨i, f, 0, rfl, hfirst⟩
        | none =>
          rw [makeDirectories_cons_of_none hlong hnode]
          rcases ih (here ++ [name]) true (f.put _ .directory) with ⟨g, hway, hdirs, hallows⟩ | ⟨i, g, n, hway, hdirs⟩
          · refine .inl ⟨g, hway, hdirs, .cons (fun _ => hallowed) (fun q hq => ?_) hallows⟩
            refine Files.nodeAt_put_of_ne _ ?_ _
            rintro rfl
            exact lt_irrefl _ hq
          · refine .inr ⟨i, g, n + 1, hway, ?_⟩
            rw [List.take_succ_cons, makeDirectories_cons_of_none hlong hnode, hdirs]
      | some node =>
        cases node with
        | file a => exact .inr ⟨_, f, 0, rfl, hfirst⟩
        | directory =>
          rw [makeDirectories_cons_of_directory hlong hnode]
          rcases ih (here ++ [name]) fresh f with ⟨g, hway, hdirs, hallows⟩ | ⟨i, g, n, hway, hdirs⟩
          · refine .inl ⟨g, hway, hdirs, .cons (fun hnone => ?_) (fun _ _ => rfl) hallows⟩
            rw [hnode] at hnone
            cases hnone
          · refine .inr ⟨i, g, n + 1, hway, ?_⟩
            rw [List.take_succ_cons, makeDirectories_cons_of_directory hlong hnode, hdirs]

theorem makeWay_of_makeDirectories {here : Place} {names : List String} {f g : Files} (fresh : Bool)
    (h : f.makeDirectories here names = .ok g) : makeWay .none here fresh names f = (.ok (), g) := by
  induction names generalizing here fresh f with
  | nil =>
    rw [Files.makeDirectories] at h
    rw [← Except.ok.inj h]
    rfl
  | cons name rest ih =>
    obtain ⟨hfit, k, hensured, hrest⟩ := Files.makeDirectories_cons_eq_ok h
    rw [makeWay_cons]
    dsimp only
    rw [if_neg (not_lt.mpr hfit)]
    cases hensured with
    | there hnode =>
      rw [hnode]
      exact ih fresh hrest
    | made hnone =>
      rw [hnone]
      exact ih true hrest

/-- Directories are made in files that are alike as far as the same one. -/
theorem makeWay_alike {N : Place → Prop} {f g : Files} (h : Files.Alike N f g) (t : Trouble) (here : Place)
    (fresh : Bool) (names : List String) :
    (makeWay t here fresh names g).1 = (makeWay t here fresh names f).1 ∧
      Files.Alike N (makeWay t here fresh names f).2 (makeWay t here fresh names g).2 := by
  induction names generalizing here fresh f g with
  | nil => exact ⟨rfl, h⟩
  | cons name rest ih =>
    rw [makeWay_cons, makeWay_cons]
    dsimp only
    by_cases hlong : Files.maxName < name.utf8ByteSize
    · rw [if_pos hlong, if_pos hlong]
      exact ⟨rfl, h⟩
    · rw [if_neg hlong, if_neg hlong]
      cases hnode : f.nodeAt (here ++ [name]) with
      | none =>
        rw [(h.none_iff _).mpr hnode]
        dsimp only
        cases t.directory (here ++ [name]) with
        | some i => exact ⟨rfl, h⟩
        | none => exact ih (h.put _ _) _ true
      | some node =>
        cases node with
        | directory =>
          rw [(h.directory_iff _).mpr hnode]
          exact ih h _ fresh
        | file a =>
          obtain ⟨b, hb⟩ := h.exists_file hnode
          rw [hb]
          exact ⟨rfl, h⟩

theorem makeParents_cases (t : Trouble) (place : Place) (f : Files) :
    (∃ g, makeParents t place f = (.ok (), g) ∧ f.makeDirectories [] place.dropLast = .ok g ∧
      AllowsWay t f [] place.dropLast) ∨
      ∃ i g n, makeParents t place f = (.error (.incident i), g) ∧
        f.makeDirectories [] (place.dropLast.take n) = .ok g := by
  unfold makeParents
  dsimp only
  split_ifs
  · exact .inr ⟨_, f, 0, rfl, by rw [List.take_zero, Files.makeDirectories]⟩
  · exact makeWay_cases t [] false place.dropLast f

theorem makeParents_alike {N : Place → Prop} {f g : Files} (h : Files.Alike N f g) (t : Trouble) (place : Place) :
    (makeParents t place g).1 = (makeParents t place f).1 ∧
      Files.Alike N (makeParents t place f).2 (makeParents t place g).2 := by
  unfold makeParents
  dsimp only
  split_ifs
  · exact ⟨rfl, h⟩
  · exact makeWay_alike h t [] false place.dropLast

theorem placeText_le_append (place : Place) (name : String) :
    (Files.placeText place).utf8ByteSize ≤ (Files.placeText (place ++ [name])).utf8ByteSize := by
  have := joinWith_le_append "/" place name
  simp only [Files.placeText, String.utf8ByteSize_append]
  omega

/-- The directories are made where the temporary file fits. -/
theorem makeParents_of_makeDirectories {place : Place} {f g : Files} (h : f.makeDirectories [] place.dropLast = .ok g)
    (hfits : isTooLong (tempFor g place) = false) : makeParents .none place f = (.ok (), g) := by
  obtain ⟨n, hn, -, -⟩ := tempFor_spec g place
  have hshort : ¬Files.maxPath < (Files.placeText place.dropLast).utf8ByteSize := by
    rw [hn] at hfits
    simp only [isTooLong, Bool.or_eq_false_iff, tempNumbered] at hfits
    exact not_lt.mpr ((placeText_le_append place.dropLast _).trans (not_lt.mp (of_decide_eq_false hfits.2)))
  unfold makeParents
  dsimp only
  rw [if_neg hshort]
  exact makeWay_of_makeDirectories false h

/-! ## Places of keys -/

variable {s : Store} {key : String} {data : List UInt8} {f g : Files} {place : Place}

/-- The place that a key names, whether or not the store takes the key. -/
def placeBelow (s : Store) (f : Files) (key : String) : Place := f.resolve (s.root.append (.ofText key))

/-- The names of a key stand behind the root. -/
theorem placeBelow_joinWith {names : List String} (hne : names ≠ []) (h : ∀ name ∈ names, PathName.IsName name)
    (s : Store) (f : Files) : s.placeBelow f (joinWith "/" names) = s.rootPlace f ++ names := by
  have hdots : ".." ∉ names := fun hmem => (h ".." hmem).not_points rfl
  unfold placeBelow rootPlace Files.resolve
  rw [PathName.ofText_joinWith hne h, PathName.append, if_neg Bool.false_ne_true]
  dsimp only
  split_ifs
  · exact PathName.flatten_append hdots
  · rw [← List.append_assoc, PathName.flatten_append hdots]

theorem placeBelow_congr (s : Store) {f g : Files} (h : g.workDir = f.workDir) (key : String) :
    s.placeBelow g key = s.placeBelow f key := by
  unfold placeBelow Files.resolve
  rw [h]

theorem placeOf_congr (s : Store) {f g : Files} (h : g.workDir = f.workDir) (key : String) :
    s.placeOf g key = s.placeOf f key := by
  unfold placeOf rootPlace Files.resolve
  rw [h]

/-- A key is taken where there is no null in the texts and its place is the root or below it. -/
theorem placeOf_eq_ok_iff : s.placeOf f key = .ok place ↔
    place = s.placeBelow f key ∧ (hasNull key = false ∧ hasNull s.root.display = false ∧
      hasNull (Files.placeText place) = false) ∧ s.rootPlace f <+: place := by
  have hnulls (p : Place) : [key, s.root.display, Files.placeText p].any hasNull = false ↔
      hasNull key = false ∧ hasNull s.root.display = false ∧ hasNull (Files.placeText p) = false := by simp
  unfold placeOf
  dsimp only
  constructor
  · intro h
    split_ifs at h with hnull hbelow
    obtain rfl := Except.ok.inj h
    exact ⟨rfl, (hnulls _).mp (Bool.eq_false_of_not_eq_true hnull), List.isPrefixOf_iff_prefix.mp hbelow⟩
  · rintro ⟨rfl, hnull, hbelow⟩
    change (if [key, s.root.display, Files.placeText (s.placeBelow f key)].any hasNull then _ else
      if (s.rootPlace f).isPrefixOf (s.placeBelow f key) then _ else _) = _
    rw [(hnulls _).mpr hnull, if_neg Bool.false_ne_true, if_pos (List.isPrefixOf_iff_prefix.mpr hbelow)]
    rfl

theorem placeOf_eq_ok (h : s.placeOf f key = .ok place) :
    place = s.placeBelow f key ∧ hasNull (Files.placeText place) = false := by
  obtain ⟨heq, ⟨-, -, hnull⟩, -⟩ := placeOf_eq_ok_iff.mp h
  exact ⟨heq, hnull⟩

theorem fault_of_placeOf {e : Fault} (h : s.placeOf f key = .error e) : e = escapes key ∨ e = embeddedNull := by
  unfold placeOf at h
  dsimp only at h
  split_ifs at h with hnull hbelow
  · exact .inr (Except.error.inj h).symm
  · exact .inl (Except.error.inj h).symm

/-- What is read under a key is what is read at its place. -/
theorem read_eq_ok_iff_read {bytes : List UInt8} : s.read f key = .ok bytes ↔
    s.placeOf f key = .ok (s.placeBelow f key) ∧ f.read ⟨true, s.placeBelow f key⟩ = .ok bytes := by
  unfold read
  simp only [bind_eq_ok_iff, mapError_eq_ok_iff]
  constructor
  · rintro ⟨place, hplace, hread⟩
    obtain rfl := (placeOf_eq_ok hplace).1
    exact ⟨hplace, hread⟩
  · exact fun ⟨hplace, hread⟩ => ⟨_, hplace, hread⟩

/-- A place that no temporary file takes. -/
def IsLasting (place : Place) : Prop := place ≠ [] ∧ ∀ n, tempNumbered place n ≠ place

theorem eq_of_cut? {c : Char} {cs before after : List Char} (h : cut? [c] cs = some (before, after)) :
    cs = before ++ c :: after := by
  induction cs generalizing before with
  | nil => cases h
  | cons d cs ih =>
    by_cases hd : c = d
    · subst hd
      simp only [cut?, List.isPrefixOf?, beq_self_eq_true, if_true] at h
      obtain ⟨rfl, rfl⟩ := Prod.mk.inj (Option.some.inj h)
      rfl
    · simp only [cut?, List.isPrefixOf?, beq_eq_false_iff_ne.mpr hd, Bool.false_eq_true, if_false] at h
      obtain ⟨⟨start, rest⟩, hcut, heq⟩ := Option.map_eq_some_iff.mp h
      obtain ⟨rfl, rfl⟩ := Prod.mk.inj heq
      rw [ih hcut, List.cons_append]

/-- A name is its stem alone, or a point stands behind that. -/
theorem splitName_cases (name : String) :
    (PathName.splitName name).1 = name ∨
      ∃ ending, name.toList = (PathName.splitName name).1.toList ++ '.' :: ending := by
  unfold PathName.splitName
  cases hsplit : splitLast? name '.' with
  | none => exact .inl rfl
  | some parts =>
    obtain ⟨stem, ending⟩ := parts
    dsimp only
    split_ifs
    · exact .inl rfl
    · obtain ⟨⟨after, before⟩, hcut, heq⟩ := Option.map_eq_some_iff.mp hsplit
      obtain ⟨rfl, rfl⟩ := Prod.mk.inj heq
      refine .inr ⟨after.reverse, ?_⟩
      have hchars := congrArg List.reverse (eq_of_cut? hcut)
      simpa using hchars

/-- A temporary file has another name than the file. -/
theorem isLasting (h : place ≠ []) : IsLasting place := by
  refine ⟨h, fun n heq => ?_⟩
  obtain ⟨name, hname⟩ := Option.isSome_iff_exists.mp (List.getLast?_isSome.mpr h)
  have hlast := congrArg List.getLast? heq
  simp only [tempNumbered, hname, Option.getD_some, List.getLast?_append, List.getLast?_singleton,
    Option.some_or, Option.some.injEq] at hlast
  have hchars := congrArg String.toList hlast
  simp only [String.toList_append, String.toList_ofList] at hchars
  rcases splitName_cases name with hstem | ⟨ending, hstem⟩
  · rw [hstem] at hchars
    have hlength := congrArg List.length hchars
    simp at hlength
  · rw [hstem] at hchars
    simp [List.append_assoc] at hchars

theorem tempFor_ne (h : IsLasting place) (f : Files) : tempFor f place ≠ place := by
  obtain ⟨n, hn, -, -⟩ := tempFor_spec f place
  rw [hn]
  exact h.2 n

theorem nodeAt_tempFor (f : Files) (place : Place) : tempFor f place ≠ [] ∧ f.nodeAt (tempFor f place) = none := by
  obtain ⟨n, hn, hfree, -⟩ := tempFor_spec f place
  rw [hn]
  exact ⟨tempNumbered_ne_nil place n, hfree⟩

/-! ## The temporary file -/

/-- The files when the data stands in the temporary file. -/
def staged (f : Files) (temp : Place) (data : List UInt8) : Files :=
  (f.put temp (.file [])).put temp (.file data)

theorem nodeAt_staged (f : Files) {temp q : Place} (h : temp ≠ q) (data : List UInt8) :
    (staged f temp data).nodeAt q = f.nodeAt q := by
  rw [staged, Files.nodeAt_put_of_ne _ h, Files.nodeAt_put_of_ne _ h]

/-- The temporary file leaves nothing behind when it is taken away. -/
theorem erase_staged (f : Files) (place : Place) (data : List UInt8) :
    (staged f (tempFor f place) data).erase (tempFor f place) = f := by
  obtain ⟨hnil, hfree⟩ := nodeAt_tempFor f place
  rw [staged, Files.erase_put, Files.erase_put, Files.erase_of_free hnil hfree]

theorem stage_none (f : Files) : stage none f = (.ok (), f) := rfl

theorem prepare_apply (t : Trouble) (s : Store) (key : String) (f : Files) :
    prepare t s key f =
      match s.placeOf f key with
      | .error e => (.error e, f)
      | .ok place =>
        match makeParents t place f with
        | (.error e, g) => (.error e, g)
        | (.ok (), g) =>
          match t.temporary with
          | some i => (.error (.incident i), g)
          | none =>
            let temp := tempFor g place
            if isTooLong temp then (.error (.incident (Files.tooLong (Files.placeText temp))), g)
            else (.ok (temp, place), g.put temp (.file [])) := by
  have hget (g : Files) : (get : Act Files Files) g = (.ok g, g) := rfl
  unfold prepare
  rw [Act.bind_ok (hget f)]
  cases hplace : s.placeOf f key with
  | error e => exact Act.bind_error rfl _
  | ok place =>
    rw [Act.bind_ok (Act.ofExcept_apply (.ok place) f)]
    dsimp only
    rcases hmade : makeParents t place f with ⟨r, g⟩
    cases r with
    | error e => exact Act.bind_error hmade _
    | ok u =>
      rw [Act.bind_ok hmade, Act.bind_ok (hget g)]
      dsimp only
      cases htemp : t.temporary with
      | some i => exact Act.bind_error rfl _
      | none =>
        rw [Act.bind_ok (stage_none g)]
        dsimp only
        by_cases hlong : isTooLong (tempFor g place) = true
        · rw [if_pos hlong]
          exact Act.bind_error (by rw [makeTemp, if_pos hlong]) _
        · rw [if_neg hlong]
          exact Act.bind_ok (by rw [makeTemp, if_neg hlong]) _

/-- A temporary file is made in the directory of the place, or some of the directories are and that is all. -/
theorem prepare_cases (t : Trouble) (s : Store) (key : String) (f : Files) :
    (∃ e g n, prepare t s key f = (.error e, g) ∧
      f.makeDirectories [] ((s.placeBelow f key).dropLast.take n) = .ok g) ∨
    ∃ place k, prepare t s key f = (.ok (tempFor k place, place), k.put (tempFor k place) (.file [])) ∧
      s.placeOf f key = .ok place ∧ f.makeDirectories [] place.dropLast = .ok k ∧
        AllowsWay t f [] place.dropLast ∧ t.temporary = none ∧ isTooLong (tempFor k place) = false := by
  rw [prepare_apply]
  cases hplace : s.placeOf f key with
  | error e => exact .inl ⟨e, f, 0, rfl, by rw [List.take_zero, Files.makeDirectories]⟩
  | ok place =>
    dsimp only
    rw [← (placeOf_eq_ok hplace).1]
    rcases makeParents_cases t place f with ⟨k, hmade, hdirs, hallows⟩ | ⟨i, k, n, hmade, hdirs⟩
    · have hall : f.makeDirectories [] (place.dropLast.take place.dropLast.length) = .ok k := by
        rwa [List.take_length]
      rw [hmade]
      dsimp only
      cases htemp : t.temporary with
      | some i => exact .inl ⟨_, k, _, rfl, hall⟩
      | none =>
        dsimp only
        by_cases hlong : isTooLong (tempFor k place) = true
        · rw [if_pos hlong]
          exact .inl ⟨_, k, _, rfl, hall⟩
        · rw [if_neg hlong]
          exact .inr ⟨place, k, rfl, rfl, hdirs, hallows, rfl, by simpa using hlong⟩
    · rw [hmade]
      exact .inl ⟨_, k, n, rfl, hdirs⟩

theorem prepare_of_makeDirectories {k : Files} (hplace : s.placeOf f key = .ok place)
    (hdirs : f.makeDirectories [] place.dropLast = .ok k) (hfits : isTooLong (tempFor k place) = false) :
    prepare .none s key f = (.ok (tempFor k place, place), k.put (tempFor k place) (.file [])) := by
  have htemporary : Trouble.none.temporary = none := rfl
  rw [prepare_apply, hplace]
  dsimp only
  rw [makeParents_of_makeDirectories hdirs hfits]
  dsimp only
  rw [htemporary]
  dsimp only
  rw [if_neg (by simp [hfits])]

/-! ## The rename -/

theorem rename_of_fits {f : Files} {temp place : Place} (hfits : isTooLong place = false)
    (hnode : f.nodeAt place ≠ some .directory) (data : List UInt8) :
    rename temp place data f = (.ok (), (f.erase temp).put place (.file data)) := by
  unfold rename
  rw [if_neg (by simp [hfits])]
  split
  · rename_i hdir
    exact absurd hdir hnode
  · rfl

/-- A rename that fails changes nothing. -/
theorem rename_cases (temp place : Place) (data : List UInt8) (f : Files) :
    (∃ i, rename temp place data f = (.error (.incident i), f)) ∨
      isTooLong place = false ∧ f.nodeAt place ≠ some .directory ∧
        rename temp place data f = (.ok (), (f.erase temp).put place (.file data)) := by
  by_cases hlong : isTooLong place = true
  · exact .inl ⟨_, by rw [rename, if_pos hlong]⟩
  · by_cases hnode : f.nodeAt place = some .directory
    · exact .inl ⟨_, by rw [rename, if_neg hlong, hnode]⟩
    · have hfits : isTooLong place = false := by simpa using hlong
      exact .inr ⟨hfits, hnode, rename_of_fits hfits hnode data⟩

/-- The temporary file takes the place, or it stays with a first part of the data. -/
theorem fillAndRename_cases (t : Trouble) (temp place : Place) (data : List UInt8) (k : Files) :
    (∃ e part, part <+: data ∧
      fillAndRename t temp place data (k.put temp (.file [])) = (.error e, staged k temp part)) ∨
    t.content = none ∧ t.flush = none ∧ t.sync = none ∧ t.rename = none ∧ isTooLong place = false ∧
      (staged k temp data).nodeAt place ≠ some .directory ∧
      fillAndRename t temp place data (k.put temp (.file [])) =
        (.ok (), ((staged k temp data).erase temp).put place (.file data)) := by
  have hstop (i : Incident) (g : Files) : stage (some i) g = (.error (.incident i), g) := rfl
  have hall : data <+: data := List.prefix_refl data
  unfold fillAndRename
  cases hcontent : t.content with
  | some cut =>
    obtain ⟨n, i⟩ := cut
    have hfill : fill t temp data (k.put temp (.file [])) = (.error (.incident i), staged k temp (data.take n)) := by
      rw [fill, hcontent]
      rfl
    exact .inl ⟨_, _, List.take_prefix n data, Act.bind_error hfill _⟩
  | none =>
    have hfill : fill t temp data (k.put temp (.file [])) = (.ok (), staged k temp data) := by
      rw [fill, hcontent]
      rfl
    rw [Act.bind_ok hfill]
    cases hflush : t.flush with
    | some i => exact .inl ⟨_, data, hall, Act.bind_error (hstop i _) _⟩
    | none =>
      rw [Act.bind_ok (stage_none _)]
      cases hsync : t.sync with
      | some i => exact .inl ⟨_, data, hall, Act.bind_error (hstop i _) _⟩
      | none =>
        rw [Act.bind_ok (stage_none _)]
        cases hstage : t.rename with
        | some i => exact .inl ⟨_, data, hall, Act.bind_error (hstop i _) _⟩
        | none =>
          rw [Act.bind_ok (stage_none _)]
          rcases rename_cases temp place data (staged k temp data) with ⟨i, hrename⟩ | ⟨hfits, hvacant, hrename⟩
          · exact .inl ⟨_, data, hall, hrename⟩
          · exact .inr ⟨rfl, rfl, rfl, rfl, hfits, hvacant, hrename⟩

theorem fillAndRename_none (temp place : Place) (data : List UInt8) (f : Files) :
    fillAndRename .none temp place data f = rename temp place data (f.put temp (.file data)) := by
  have hfill : fill .none temp data f = (.ok (), f.put temp (.file data)) := rfl
  have hflush (g : Files) : stage Trouble.none.flush g = (.ok (), g) := rfl
  have hsync (g : Files) : stage Trouble.none.sync g = (.ok (), g) := rfl
  have hrename (g : Files) : stage Trouble.none.rename g = (.ok (), g) := rfl
  unfold fillAndRename
  rw [Act.bind_ok hfill, Act.bind_ok (hflush _), Act.bind_ok (hsync _), Act.bind_ok (hrename _)]

/-! ## Writing -/

theorem writeWith_apply (t : Trouble) (s : Store) (key : String) (data : List UInt8) (f : Files) :
    writeWith t s key data f =
      match prepare t s key f with
      | (.error e, g) => (.error e, g)
      | (.ok (temp, place), g) =>
        ((fillAndRename t temp place data g).1, (fillAndRename t temp place data g).2.erase temp) := by
  unfold writeWith
  rcases hprepare : prepare t s key f with ⟨r, g⟩
  cases r with
  | error e => exact Act.bind_error hprepare _
  | ok places =>
    rw [Act.bind_ok hprepare]
    rfl

/-- There is nothing in the way of a write: its directories are made, and the temporary file and the file itself
fit. -/
structure Made (s : Store) (key : String) (f : Files) (place : Place) (k : Files) : Prop where
  placeOf : s.placeOf f key = .ok place
  directories : f.makeDirectories [] place.dropLast = .ok k
  temp_fits : isTooLong (tempFor k place) = false
  fits : isTooLong place = false
  vacant : k.nodeAt place ≠ some .directory

theorem Made.ne_nil {k : Files} (h : Made s key f place k) : place ≠ [] := by
  rintro rfl
  exact h.vacant rfl

theorem erase_put_of_made {k : Files} (h : Made s key f place k) (data : List UInt8) :
    (k.put place (.file data)).erase (tempFor k place) = k.put place (.file data) := by
  have hne := tempFor_ne (isLasting h.ne_nil) k
  obtain ⟨hnil, hfree⟩ := nodeAt_tempFor k place
  refine Files.erase_of_free hnil ?_
  rw [Files.nodeAt_put_of_ne _ hne.symm, hfree]

theorem made_of_staged {k : Files} (hplace : s.placeOf f key = .ok place)
    (hdirs : f.makeDirectories [] place.dropLast = .ok k) (htemp : isTooLong (tempFor k place) = false)
    (hfits : isTooLong place = false) (hvacant : (staged k (tempFor k place) data).nodeAt place ≠ some .directory) :
    Made s key f place k := by
  have hnil : place ≠ [] := by
    rintro rfl
    exact hvacant rfl
  rw [nodeAt_staged k (tempFor_ne (isLasting hnil) k)] at hvacant
  exact ⟨hplace, hdirs, htemp, hfits, hvacant⟩

/-- Nothing of what a write does is prevented. -/
structure Allows (t : Trouble) (f : Files) (place : Place) : Prop where
  directories : AllowsWay t f [] place.dropLast
  temporary : t.temporary = none
  content : t.content = none
  flush : t.flush = none
  sync : t.sync = none
  rename : t.rename = none

/-- A write puts its file in its place, or it fails and leaves nothing but directories on the way. -/
theorem writeWith_cases (t : Trouble) (s : Store) (key : String) (data : List UInt8) (f : Files) :
    (∃ e g n, writeWith t s key data f = (.error e, g) ∧
      f.makeDirectories [] ((s.placeBelow f key).dropLast.take n) = .ok g) ∨
    ∃ place k, Made s key f place k ∧ Allows t f place ∧
      writeWith t s key data f = (.ok (), k.put place (.file data)) := by
  rw [writeWith_apply]
  rcases prepare_cases t s key f with ⟨e, g, n, hprepare, hdirs⟩ |
      ⟨place, k, hprepare, hplace, hdirs, hallows, htemporary, htemp⟩
  · rw [hprepare]
    exact .inl ⟨e, g, n, rfl, hdirs⟩
  · rw [hprepare, ← (placeOf_eq_ok hplace).1]
    dsimp only
    have hall : f.makeDirectories [] (place.dropLast.take place.dropLast.length) = .ok k := by
      rwa [List.take_length]
    rcases fillAndRename_cases t (tempFor k place) place data k with
      ⟨e, part, -, hfill⟩ | ⟨hcontent, hflush, hsync, hrename, hfits, hvacant, hfill⟩
    · rw [hfill, erase_staged]
      exact .inl ⟨e, k, _, rfl, hall⟩
    · have hmade := made_of_staged hplace hdirs htemp hfits hvacant
      rw [hfill, erase_staged, erase_put_of_made hmade]
      exact .inr ⟨place, k, hmade, ⟨hallows, htemporary, hcontent, hflush, hsync, hrename⟩, rfl⟩

theorem write_of_made {k : Files} (h : Made s key f place k) (data : List UInt8) :
    s.write key data f = (.ok (), k.put place (.file data)) := by
  have hvacant : (staged k (tempFor k place) data).nodeAt place ≠ some .directory := by
    rw [nodeAt_staged k (tempFor_ne (isLasting h.ne_nil) k)]
    exact h.vacant
  rw [write, writeWith_apply, prepare_of_makeDirectories h.placeOf h.directories h.temp_fits]
  dsimp only
  rw [fillAndRename_none, ← staged, rename_of_fits h.fits hvacant, erase_staged, erase_put_of_made h]

theorem exists_made_of_write (h : s.write key data f = (.ok (), g)) :
    ∃ k, Made s key f (s.placeBelow f key) k ∧ g = k.put (s.placeBelow f key) (.file data) := by
  rcases writeWith_cases .none s key data f with ⟨e, k, n, hwrite, -⟩ | ⟨place, k, hmade, -, hwrite⟩
  · cases (Prod.mk.inj (h.symm.trans hwrite)).1
  · rw [← (placeOf_eq_ok hmade.placeOf).1]
    exact ⟨k, hmade, (Prod.mk.inj (h.symm.trans hwrite)).2⟩

/-- Where one write succeeds any other one does. -/
theorem write_ok_of_isOk (h : (s.write key data f).1.isOk = true) (data' : List UInt8) :
    (s.write key data' f).1 = .ok () := by
  rcases hwrite : s.write key data f with ⟨r, g⟩
  cases r with
  | error e =>
    rw [hwrite] at h
    cases h
  | ok u =>
    obtain ⟨k, hmade, -⟩ := exists_made_of_write hwrite
    rw [write_of_made hmade]

/-- After a write that failed there is nothing new but directories on the way. -/
theorem exists_makeDirectories_of_write_error {e : Fault} (h : s.write key data f = (.error e, g)) :
    ∃ n, f.makeDirectories [] ((s.placeBelow f key).dropLast.take n) = .ok g := by
  rcases writeWith_cases .none s key data f with ⟨e, k, n, hwrite, hdirs⟩ | ⟨place, k, -, -, hwrite⟩
  · obtain ⟨-, rfl⟩ := Prod.mk.inj (h.symm.trans hwrite)
    exact ⟨n, hdirs⟩
  · cases (Prod.mk.inj (h.symm.trans hwrite)).1

/-! ## What a write leaves -/

theorem nodeAt_of_made {k : Files} (h : Made s key f place k) {q : Place} (hq : q ≠ place)
    (hdeep : place.dropLast.length < q.length) (data : List UInt8) :
    (k.put place (.file data)).nodeAt q = f.nodeAt q := by
  obtain ⟨-, -, -, hbelow, -⟩ := Files.makeDirectories_ok h.directories
  rw [Files.nodeAt_put_of_ne _ hq.symm]
  exact hbelow q (by rwa [List.nil_append])

/-- Directories on the way are no place of a file. -/
theorem nodeAt_of_take {n : ℕ} {q : Place} (h : f.makeDirectories [] (place.dropLast.take n) = .ok g)
    (hdeep : place.dropLast.length < q.length) : g.workDir = f.workDir ∧ g.nodeAt q = f.nodeAt q := by
  obtain ⟨-, hdir, -, hbelow, -⟩ := Files.makeDirectories_ok h
  refine ⟨hdir, hbelow q ?_⟩
  simp only [List.nil_append, List.length_take]
  omega

/-- What a write leaves where it succeeds, and where it fails. -/
theorem write_cases (hlast : IsLasting (s.placeBelow f key)) :
    (∃ g, s.write key data f = (.ok (), g) ∧ g.workDir = f.workDir ∧
      g.nodeAt (s.placeBelow f key) = some (.file data)) ∨
    (∃ e g, s.write key data f = (.error e, g) ∧ g.workDir = f.workDir ∧
      g.nodeAt (s.placeBelow f key) = f.nodeAt (s.placeBelow f key)) := by
  have hpos := List.length_pos_of_ne_nil hlast.1
  rcases hwrite : s.write key data f with ⟨r, g⟩
  cases r with
  | ok u =>
    obtain ⟨k, hmade, rfl⟩ := exists_made_of_write hwrite
    obtain ⟨-, hdir, -⟩ := Files.makeDirectories_ok hmade.directories
    exact .inl ⟨_, rfl, hdir, Files.nodeAt_put_self _ hlast.1 _⟩
  | error e =>
    obtain ⟨n, hdirs⟩ := exists_makeDirectories_of_write_error hwrite
    refine .inr ⟨e, g, rfl, nodeAt_of_take hdirs ?_⟩
    rw [List.length_dropLast]
    omega

/-- A write changes nothing but its own place and places of directories above it. -/
theorem nodeAt_write_of_ne {q : Place} (hne : s.placeBelow f key ≠ q)
    (hdeep : (s.placeBelow f key).dropLast.length < q.length) :
    (s.write key data f).2.workDir = f.workDir ∧ (s.write key data f).2.nodeAt q = f.nodeAt q := by
  rcases hwrite : s.write key data f with ⟨r, g⟩
  cases r with
  | ok u =>
    obtain ⟨k, hmade, rfl⟩ := exists_made_of_write hwrite
    obtain ⟨-, hdir, -⟩ := Files.makeDirectories_ok hmade.directories
    exact ⟨hdir, nodeAt_of_made hmade hne.symm hdeep data⟩
  | error e =>
    obtain ⟨n, hdirs⟩ := exists_makeDirectories_of_write_error hwrite
    exact nodeAt_of_take hdirs hdeep

theorem delete_apply (s : Store) (key : String) (f : Files) :
    s.delete key f =
      match s.placeOf f key with
      | .error e => (.error e, f)
      | .ok place =>
        match f.stat ⟨true, place⟩ with
        | .ok (.file _) => (.ok true, f.erase place)
        | .ok .directory => (.error (.incident (.directory (Files.placeText place))), f)
        | .error i => if i.kind = .fileMissing then (.ok false, f) else (.error (.incident i), f) := by
  have hget : (get : Act Files Files) f = (.ok f, f) := rfl
  unfold delete
  rw [Act.bind_ok hget]
  cases hplace : s.placeOf f key with
  | error e => exact Act.bind_error rfl _
  | ok place =>
    rw [Act.bind_ok (Act.ofExcept_apply (.ok place) f)]
    dsimp only
    cases f.stat ⟨true, place⟩ with
    | ok n => cases n <;> rfl
    | error i =>
      dsimp only
      split_ifs <;> rfl

/-- A deletion changes nothing but its own place. -/
theorem nodeAt_delete_of_ne {q : Place} (hne : s.placeBelow f key ≠ q) :
    (s.delete key f).2.workDir = f.workDir ∧ (s.delete key f).2.nodeAt q = f.nodeAt q := by
  rw [delete_apply]
  cases hplace : s.placeOf f key with
  | error e => exact ⟨rfl, rfl⟩
  | ok place =>
    rw [← (placeOf_eq_ok hplace).1] at hne
    dsimp only
    split
    · exact ⟨rfl, Files.nodeAt_erase_of_ne _ hne⟩
    · exact ⟨rfl, rfl⟩
    · split_ifs <;> exact ⟨rfl, rfl⟩

/-! ## Writing to files that are alike -/

variable {N : Place → Prop}

theorem tempFor_alike (h : Files.Alike N f g) (place : Place) : tempFor g place = tempFor f place :=
  tempFor_congr fun n => h.none_iff (tempNumbered place n)

theorem rename_alike (h : Files.Alike N f g) (temp : Place) (hplace : N place) (a b : List UInt8) :
    (rename temp place b g).1 = (rename temp place a f).1 ∧
      Files.Alike N (rename temp place a f).2 (rename temp place b g).2 := by
  by_cases hlong : isTooLong place = true
  · rw [rename, rename, if_pos hlong, if_pos hlong]
    exact ⟨rfl, h⟩
  · by_cases hf : f.nodeAt place = some .directory
    · rw [rename, rename, if_neg hlong, if_neg hlong, (h.directory_iff place).mpr hf, hf]
      exact ⟨rfl, h⟩
    · have hfits : isTooLong place = false := by simpa using hlong
      rw [rename_of_fits hfits hf, rename_of_fits hfits (mt (h.directory_iff place).mp hf)]
      exact ⟨rfl, (h.erase temp).putFile hplace a b⟩

/-- A temporary file is made in both or in neither. -/
theorem prepare_alike (h : Files.Alike N f g) (s : Store) (key : String) :
    (prepare .none s key g).1 = (prepare .none s key f).1 ∧
      Files.Alike N (prepare .none s key f).2 (prepare .none s key g).2 := by
  have htemporary : Trouble.none.temporary = none := rfl
  rw [prepare_apply, prepare_apply, placeOf_congr s h.workDir, htemporary]
  cases s.placeOf f key with
  | error e => exact ⟨rfl, h⟩
  | ok place =>
    dsimp only
    obtain ⟨hsame, hmade⟩ := makeParents_alike h .none place
    rcases hf : makeParents .none place f with ⟨r, f'⟩
    rcases hg : makeParents .none place g with ⟨r', g'⟩
    rw [hf, hg] at hsame hmade
    obtain rfl : r' = r := hsame
    change Files.Alike N f' g' at hmade
    cases r' with
    | error e => exact ⟨rfl, hmade⟩
    | ok u =>
      dsimp only
      rw [tempFor_alike hmade]
      split_ifs
      · exact ⟨rfl, hmade⟩
      · exact ⟨rfl, hmade.put _ _⟩

theorem write_apply (s : Store) (key : String) (data : List UInt8) (f : Files) :
    s.write key data f =
      match prepare .none s key f with
      | (.error e, g) => (.error e, g)
      | (.ok (temp, place), g) =>
        let moved := rename temp place data (g.put temp (.file data))
        (moved.1, moved.2.erase temp) := by
  rw [write, writeWith_apply]
  simp only [fillAndRename_none]

theorem place_of_prepare {temp : Place} (h : prepare .none s key f = (.ok (temp, place), g)) :
    place = s.placeBelow f key := by
  rcases prepare_cases .none s key f with ⟨e, k, n, hprepare, -⟩ | ⟨p, k, hprepare, hplace, -⟩
  · cases (Prod.mk.inj (h.symm.trans hprepare)).1
  · obtain ⟨hplaces, -⟩ := Prod.mk.inj (h.symm.trans hprepare)
    obtain ⟨-, rfl⟩ := Prod.mk.inj (Except.ok.inj hplaces)
    exact (placeOf_eq_ok hplace).1

/-- Writes of different data where this does not matter succeed both or fail both, and leave the files
alike. -/
theorem write_alike (h : Files.Alike N f g) (hplace : N (s.placeBelow f key)) (a b : List UInt8) :
    (s.write key b g).1 = (s.write key a f).1 ∧ Files.Alike N (s.write key a f).2 (s.write key b g).2 := by
  rw [write_apply, write_apply]
  obtain ⟨hsame, hmade⟩ := prepare_alike h s key
  rcases hf : prepare .none s key f with ⟨r, f'⟩
  rcases hg : prepare .none s key g with ⟨r', g'⟩
  rw [hf, hg] at hsame hmade
  obtain rfl : r' = r := hsame
  change Files.Alike N f' g' at hmade
  cases r' with
  | error e => exact ⟨rfl, hmade⟩
  | ok places =>
    obtain ⟨temp, place⟩ := places
    rw [← place_of_prepare hf] at hplace
    have hstaged : Files.Alike (fun q => N q ∨ q = temp) (f'.put temp (.file a)) (g'.put temp (.file b)) :=
      (hmade.mono fun _ => .inl).putFile (.inr rfl) a b
    obtain ⟨hresult, hworld⟩ := rename_alike hstaged temp (.inl hplace) a b
    exact ⟨hresult, hworld.erase_of_or⟩

/-- A write that fails leaves nothing of its data. -/
theorem write_of_write_error {e : Fault} {a : List UInt8} (h : s.write key a f = (.error e, g)) (b : List UInt8) :
    s.write key b f = (.error e, g) := by
  rw [write_apply] at h ⊢
  rcases hprepare : prepare .none s key f with ⟨r, k⟩
  rw [hprepare] at h
  cases r with
  | error e' => exact h
  | ok places =>
    obtain ⟨temp, place⟩ := places
    dsimp only at h ⊢
    have hstaged : Files.Alike (fun q => q = place ∨ q = temp) (k.put temp (.file a)) (k.put temp (.file b)) :=
      (Files.Alike.refl _ k).putFile (.inr rfl) a b
    obtain ⟨hresult, -⟩ := rename_alike hstaged temp (.inl rfl) a b
    have herased : (k.put temp (.file b)).erase temp = (k.put temp (.file a)).erase temp := by
      rw [Files.erase_put, Files.erase_put]
    rcases rename_cases temp place a (k.put temp (.file a)) with ⟨i, ha⟩ | ⟨-, -, ha⟩
    · rcases rename_cases temp place b (k.put temp (.file b)) with ⟨j, hb⟩ | ⟨-, -, hb⟩
      · rw [ha, hb] at hresult
        rw [ha] at h
        rw [hb, hresult, herased]
        exact h
      · rw [ha, hb] at hresult
        cases hresult
    · rw [ha] at h
      cases (Prod.mk.inj h).1

/-! ## Writing again -/

/-- The place of a key has its directories and a file, and a write fits. -/
structure Ready (s : Store) (key : String) (f : Files) (place : Place) : Prop where
  placeOf : s.placeOf f key = .ok place
  directories : f.makeDirectories [] place.dropLast = .ok f
  fits : isTooLong (tempFor f place) = false
  file : ∃ a, f.nodeAt place = some (.file a)

/-- The files after a write that succeeded, in terms of those before the temporary file was made. -/
structure Written (place : Place) (data : List UInt8) (k g : Files) : Prop where
  workDir : g.workDir = k.workDir
  home : g.home = k.home
  homes : g.homes = k.homes
  self : g.nodeAt place = some (.file data)
  others : ∀ q, q ≠ place → g.nodeAt q = k.nodeAt q

theorem written_put {k : Files} (hnil : place ≠ []) (data : List UInt8) :
    Written place data k (k.put place (.file data)) :=
  ⟨rfl, rfl, rfl, Files.nodeAt_put_self _ hnil _, fun _ hq => Files.nodeAt_put_of_ne _ hq.symm _⟩

/-- After a write that succeeded the next one is ready. -/
theorem Written.ready (hlast : IsLasting place) {k : Files} (hwritten : Written place data k g)
    (hplace : s.placeOf k key = .ok place) (hfits : isTooLong (tempFor k place) = false)
    (hnames : ∀ name ∈ place.dropLast, name.utf8ByteSize ≤ Files.maxName)
    (hmade : ∀ j < place.dropLast.length, k.nodeAt (place.dropLast.take (j + 1)) = some .directory) :
    Ready s key g place where
  placeOf := by rw [placeOf_congr s hwritten.workDir, hplace]
  directories := by
    refine Files.makeDirectories_of_directories hnames fun j hj => ?_
    rw [List.nil_append, hwritten.others, hmade j hj]
    intro heq
    have hlength := congrArg List.length heq
    have := List.length_pos_of_ne_nil hlast.1
    simp only [List.length_take, List.length_dropLast] at hlength
    omega
  fits := by
    have hsame : tempFor g place = tempFor k place :=
      tempFor_congr fun n => by rw [hwritten.others _ (hlast.2 n)]
    rw [hsame, hfits]
  file := ⟨data, hwritten.self⟩

/-- A write that succeeded can be made again. -/
theorem ready_of_write (hlast : IsLasting (s.placeBelow f key)) (h : s.write key data f = (.ok (), g)) :
    Ready s key g (s.placeBelow f key) ∧ g.nodeAt (s.placeBelow f key) = some (.file data) := by
  obtain ⟨k, hmade, rfl⟩ := exists_made_of_write h
  obtain ⟨hnames, hdir, -, -, hway⟩ := Files.makeDirectories_ok hmade.directories
  have hwritten := written_put (k := k) hlast.1 data
  exact ⟨hwritten.ready hlast ((placeOf_congr s hdir key).trans hmade.placeOf) hmade.temp_fits hnames hway,
    hwritten.self⟩

theorem Ready.made (h : Ready s key f place) (hfits : isTooLong place = false) : Made s key f place f := by
  obtain ⟨hplace, hdirs, htemp, a, hfile⟩ := h
  exact ⟨hplace, hdirs, htemp, hfits, by rw [hfile]; exact nofun⟩

/-- Where a write is ready it succeeds, and changes nothing but its file. -/
theorem write_of_ready (hlast : IsLasting place) (h : Ready s key f place) (hfits : isTooLong place = false)
    (data : List UInt8) :
    ∃ g, s.write key data f = (.ok (), g) ∧ Written place data f g ∧ Ready s key g place := by
  have hwritten := written_put (k := f) hlast.1 data
  obtain ⟨hnames, -, -, -, hway⟩ := Files.makeDirectories_ok h.directories
  exact ⟨_, write_of_made (h.made hfits) data, hwritten,
    hwritten.ready hlast h.placeOf h.fits hnames hway⟩

/-- A write takes the place of the one before it. -/
theorem write_write (hlast : IsLasting (s.placeBelow f key)) {a b : List UInt8} (h : s.write key a f = (.ok (), g)) :
    s.write key b g = s.write key b f := by
  obtain ⟨hready, -⟩ := ready_of_write hlast h
  obtain ⟨k, hmade, rfl⟩ := exists_made_of_write h
  rw [write_of_made hmade, write_of_made (hready.made hmade.fits), Files.put_put]

/-- Each name and the whole path fit if those above the last name do and the last one is not too long. -/
theorem fits_of_not_isTooLong (hnil : place ≠ []) (hnames : ∀ name ∈ place.dropLast, name.utf8ByteSize ≤ Files.maxName)
    (h : isTooLong place = false) :
    (∀ name ∈ place, name.utf8ByteSize ≤ Files.maxName) ∧ (Files.placeText place).utf8ByteSize ≤ Files.maxPath := by
  simp only [isTooLong, Bool.or_eq_false_iff, decide_eq_false_iff_not, not_lt] at h
  refine ⟨fun name hname => ?_, h.2⟩
  rw [← List.dropLast_append_getLast hnil] at hname
  rcases List.mem_append.mp hname with hname | hname
  · exact hnames name hname
  · rw [List.mem_singleton.mp hname]
    simpa [List.getLast?_eq_some_getLast hnil] using h.1

/-- There are directories on the whole way to a place if those above it are made. -/
theorem directory_on_way (h : ∀ k < place.dropLast.length, f.nodeAt (place.dropLast.take (k + 1)) = some .directory) :
    ∀ k < place.length, f.nodeAt (place.take k) = some .directory := by
  intro k hk
  cases k with
  | zero => rfl
  | succ k =>
    have hshort : k < place.dropLast.length := by
      rw [List.length_dropLast]
      omega
    have htake : place.dropLast.take (k + 1) = place.take (k + 1) := by
      rw [List.dropLast_eq_take, List.take_take]
      congr 1
      omega
    rw [← htake]
    exact h k hshort

/-- What was written is read where the path is not too long. -/
theorem read_of_ready (h : Ready s key f place) (hdots : ".." ∉ place) (hnil : place ≠ [])
    (hfits : isTooLong place = false) {data : List UInt8} (hdata : f.nodeAt place = some (.file data)) :
    s.read f key = .ok data := by
  obtain ⟨hnames, -, -, -, hmade⟩ := Files.makeDirectories_ok h.directories
  obtain ⟨-, hnul⟩ := placeOf_eq_ok h.placeOf
  obtain ⟨hfit, hpath⟩ := fits_of_not_isTooLong hnil hnames hfits
  have hwalk : f.walk (Files.placeText place) [] place = .ok (place, some (.file data)) := by
    rw [Files.walk_of_directories hdots hfit (directory_on_way hmade), List.nil_append, hdata]
  have hlocate : f.locate ⟨true, place⟩ = .ok (place, some (.file data)) :=
    Files.locate_eq_ok_iff.mpr ⟨hnul, hpath, hwalk⟩
  have hread : f.read ⟨true, place⟩ = .ok data :=
    Files.read_eq_ok_iff.mpr (Files.stat_eq_ok_iff.mpr ⟨place, hlocate⟩)
  obtain rfl := (placeOf_eq_ok h.placeOf).1
  exact read_eq_ok_iff_read.mpr ⟨h.placeOf, hread⟩

/-! ## In the middle of a write -/

/-- The files at some time during a write, before the data stands at its place: some of the directories are made,
then a part of the data is in the temporary file. -/
inductive Midway (s : Store) (key : String) (data : List UInt8) (f : Files) : Files → Prop where
  | making {place : Place} {k : Files} (n : ℕ) (hplace : s.placeOf f key = .ok place)
      (hdirs : f.makeDirectories [] (place.dropLast.take n) = .ok k) : Midway s key data f k
  | filling {place : Place} {k : Files} {part : List UInt8} (hplace : s.placeOf f key = .ok place)
      (hdirs : f.makeDirectories [] place.dropLast = .ok k) (hpart : part <+: data) :
      Midway s key data f (staged k (tempFor k place) part)

theorem extends_staged (f : Files) (place : Place) (data : List UInt8) :
    f.Extends (staged f (tempFor f place) data) := by
  obtain ⟨-, hfree⟩ := nodeAt_tempFor f place
  refine ⟨rfl, fun q n hq => ?_⟩
  rw [nodeAt_staged f _ data, hq]
  rintro rfl
  rw [hfree] at hq
  cases hq

/-- Nothing that was there is gone in the middle of a write. -/
theorem Midway.extends (h : Midway s key data f g) : f.Extends g := by
  cases h with
  | making n hplace hdirs => exact .makeDirectories hdirs
  | filling hplace hdirs hpart => exact (Files.Extends.makeDirectories hdirs).trans (extends_staged _ _ _)

/-- A write that succeeds gets all the data into the temporary file, which then takes the place. -/
theorem exists_midway_of_write (h : s.write key data f = (.ok (), g)) :
    ∃ place temp k, Midway s key data f k ∧ k.nodeAt temp = some (.file data) ∧
      g = ((k.erase temp).put place (.file data)).erase temp := by
  obtain ⟨k, hmade, rfl⟩ := exists_made_of_write h
  obtain ⟨hnil, -⟩ := nodeAt_tempFor k (s.placeBelow f key)
  refine ⟨s.placeBelow f key, tempFor k (s.placeBelow f key), _,
    .filling hmade.placeOf hmade.directories (List.prefix_refl data), Files.nodeAt_put_self _ hnil _, ?_⟩
  rw [erase_staged, erase_put_of_made hmade]

/-- Nothing that was there is gone after a write that failed. -/
theorem extends_of_write_error {e : Fault} (h : s.write key data f = (.error e, g)) : f.Extends g := by
  obtain ⟨n, hdirs⟩ := exists_makeDirectories_of_write_error h
  exact .makeDirectories hdirs

theorem read_of_extends (h : f.Extends g) (hread : s.read f key = .ok data) : s.read g key = .ok data := by
  rw [read_eq_ok_iff_read] at hread ⊢
  obtain ⟨hplace, hbytes⟩ := hread
  rw [placeOf_congr s h.workDir, placeBelow_congr s h.workDir]
  exact ⟨hplace, h.read hbytes⟩

/-- What is read under a key is what is read at its place. -/
theorem read_congr (hdir : g.workDir = f.workDir)
    (hread : g.read ⟨true, s.placeBelow f key⟩ = f.read ⟨true, s.placeBelow f key⟩) :
    s.read g key = s.read f key := by
  unfold read
  rw [placeOf_congr s hdir]
  cases hplace : s.placeOf f key with
  | error e => rfl
  | ok place =>
    rw [← (placeOf_eq_ok hplace).1] at hread
    exact congrArg (Except.mapError Fault.incident) hread

end Store

end Runbook
