import Runbook.Proofs.Workflow.Listing

/-! Whether the name of an entry leads to the file of the entry. The listing goes by the names of workflows and
takes the first file for each; the lookup goes by the stems of all files first, and then by the names in
documents, whether or not these are workflows. -/

namespace Runbook.Library

variable {f : Files} {dirs : List String} {name : String} {ps before after : List PathName} {p q : PathName}
  {l : Listing}

/-- The lookup of the name of an entry comes to the file of the entry: to its workflow, or to its failure. -/
inductive WorksOn (f : Files) (dirs : List String) (p : PathName) (l : Listing) : Prop where
  | valid {w : Workflow} (hvalid : l.valid = true) (hfind : find? f dirs l.name = .ok (some p))
    (hload : load f p = .ok w) (hget : byName? f dirs l.name = .ok (some w))
  | invalid {e : Failure} (hvalid : l.valid = false) (hfind : find? f dirs l.name = .ok (some p))
    (hload : load f p = .error (.failure e)) (hkind : e.kind = .validation)
    (hget : byName? f dirs l.name = .error (.failure e))

theorem byName?_of_find? (h : find? f dirs name = .ok (some p)) : byName? f dirs name = (load f p).map some := by
  unfold byName?
  rw [h]
  simp only [bind, Except.bind]
  cases load f p <;> rfl

theorem worksOn_of_find? (hentry : IsEntry f p l) (hfind : find? f dirs l.name = .ok (some p)) :
    WorksOn f dirs p l := by
  have hget := byName?_of_find? hfind
  rcases hentry with hload | ⟨hload, hkind⟩
  · rw [hload] at hget
    exact .valid rfl hfind hload hget
  · rw [hload] at hget
    exact .invalid rfl hfind hload hkind hget

/-- A file that the lookup of a name prefers to the file `p` that is listed under it: a workflow of another name
before it, with the name as its stem; any file with the name as its stem where the listed file has another one;
or, where no file has that stem, a file before it whose document has the name and is no workflow. -/
inductive Diverts (f : Files) (ps before : List PathName) (p : PathName) (name : String) : PathName → Prop where
  | stem {q : PathName} {w : Workflow} (hq : q ∈ before) (hstem : q.stem = name) (hload : load f q = .ok w)
    (hname : w.name ≠ name) : Diverts f ps before p name q
  | other {q : PathName} (hq : q ∈ ps) (hstem : q.stem = name) (hp : p.stem ≠ name) : Diverts f ps before p name q
  | document {q : PathName} {e : Failure} (hq : q ∈ before) (hnone : ∀ r ∈ ps, r.stem ≠ name)
    (hload : load f q = .error (.failure e)) (hkind : e.kind = .validation)
    (hnamed : isNamed f name q = .ok true) : Diverts f ps before p name q

/-! ## Files with an entry -/

/-- A file is listed under its stem or under the name in its document. -/
theorem IsEntry.stem_or_isNamed (h : IsEntry f p l) : p.stem = l.name ∨ isNamed f l.name p = .ok true := by
  rcases h with hload | -
  · exact .inr ((isNamed_of_load hload).trans (by rw [beq_self_eq_true]))
  · exact .inl rfl

/-- Whether the document of a file has a name can be told if the file has an entry. -/
theorem IsEntry.exists_isNamed (h : IsEntry f p l) (name : String) : ∃ b, isNamed f name p = .ok b := by
  unfold isNamed
  cases hdoc : document f p with
  | ok doc => exact ⟨_, rfl⟩
  | error e =>
    have hload : load f p = .error e := by
      unfold load
      rw [hdoc]
      rfl
    rcases h with hok | ⟨herror, hkind⟩
    · cases hload.symm.trans hok
    · obtain rfl := Except.error.inj (hload.symm.trans herror)
      exact ⟨false, if_pos (by simpa [isInvalid] using hkind)⟩

/-- A file with a name as its stem that is not listed under it is a workflow of another name. -/
theorem IsEntry.load_of_stem (h : IsEntry f q l) (hstem : q.stem = name) (hname : l.name ≠ name) :
    ∃ w, load f q = .ok w ∧ w.name ≠ name := by
  rcases h with hload | -
  · exact ⟨_, hload, hname⟩
  · exact absurd hstem hname

/-- A file with a name in its document that is not listed under it is no workflow. -/
theorem IsEntry.load_of_isNamed (h : IsEntry f q l) (hnamed : isNamed f name q = .ok true)
    (hname : l.name ≠ name) : ∃ e : Failure, load f q = .error (.failure e) ∧ e.kind = .validation := by
  rcases h with hload | ⟨hload, hkind⟩
  · rw [isNamed_of_load hload] at hnamed
    exact absurd (beq_iff_eq.mp (Except.ok.inj hnamed)) hname
  · exact ⟨_, hload, hkind⟩

theorem isFirstNamed_or (h : ∀ q ∈ ps, ∃ b, isNamed f name q = .ok b) :
    (∃ q, IsFirstNamed f name ps q) ∨ ∀ q ∈ ps, isNamed f name q = .ok false := by
  induction ps with
  | nil => exact .inr nofun
  | cons p ps ih =>
    obtain ⟨⟨b, hb⟩, hrest⟩ := List.forall_mem_cons.mp h
    cases b with
    | true => exact .inl ⟨p, [], ps, rfl, nofun, hb⟩
    | false =>
      rcases ih hrest with ⟨q, before, after, rfl, hbefore, hq⟩ | hnone
      · exact .inl ⟨q, p :: before, after, rfl, List.forall_mem_cons.mpr ⟨hb, hbefore⟩, hq⟩
      · exact .inr (List.forall_mem_cons.mpr ⟨hb, hnone⟩)

theorem IsFirstNamed.append (h : IsFirstNamed f name before q) (rest : List PathName) :
    q ∈ before ∧ isNamed f name q = .ok true ∧ IsFirstNamed f name (before ++ rest) q := by
  obtain ⟨front, back, rfl, hfront, hq⟩ := h
  exact ⟨List.mem_append_right front List.mem_cons_self, hq, front, back ++ rest, by simp, hfront, hq⟩

/-! ## The entries of a listing -/

/-- A file that is listed under another name is another file. -/
theorem ne_of_listed (hp : IsEntry f p l) (hentries : ∀ q ∈ before, ∃ k, IsEntry f q k ∧ k.name ≠ l.name)
    (hq : q ∈ before) : q ≠ p := by
  rintro rfl
  obtain ⟨k, hk, hname⟩ := hentries q hq
  exact hname (congrArg Listing.name (hk.unique hp))

/-- Where no file has the name as its stem the documents are asked in turn, those of the files before the listed one
first. -/
theorem find?_listed_of_stems (hfiles : files f dirs = .ok (before ++ p :: after)) (hp : IsEntry f p l)
    (hentries : ∀ q ∈ before, ∃ k, IsEntry f q k ∧ k.name ≠ l.name)
    (hstems : ∀ q ∈ before ++ p :: after, q.stem ≠ l.name) :
    (find? f dirs l.name = .ok (some p) ∧ ¬∃ q, Diverts f (before ++ p :: after) before p l.name q) ∨
      ∃ q, q ≠ p ∧ Diverts f (before ++ p :: after) before p l.name q ∧
        find? f dirs l.name = .ok (some q) := by
  have hmem : p ∈ before ++ p :: after := List.mem_append_right before List.mem_cons_self
  have hlookup {q : PathName} := @find?_eq_some_iff f dirs l.name _ q hfiles
  have hnamed := hp.stem_or_isNamed.resolve_left (hstems p hmem)
  have hasked : ∀ q ∈ before, ∃ b, isNamed f l.name q = .ok b := fun q hq =>
    (hentries q hq).elim fun k hk => hk.1.exists_isNamed l.name
  rcases isFirstNamed_or hasked with ⟨q, hfirst⟩ | hnone
  · obtain ⟨hq, hqnamed, happend⟩ := hfirst.append (p :: after)
    obtain ⟨k, hk, hname⟩ := hentries q hq
    obtain ⟨e, hload, hkind⟩ := hk.load_of_isNamed hqnamed hname
    exact .inr ⟨q, ne_of_listed hp hentries hq, .document hq hstems hload hkind hqnamed,
      hlookup.mpr (.inr ⟨hstems, happend⟩)⟩
  · refine .inl ⟨hlookup.mpr (.inr ⟨hstems, before, after, rfl, hnone, hnamed⟩), ?_⟩
    rintro ⟨q, ⟨hq, hstem, -, -⟩ | ⟨hq, hstem, -⟩ | ⟨hq, -, -, -, hqnamed⟩⟩
    · exact hstems q (List.mem_append_left _ hq) hstem
    · exact hstems q hq hstem
    · cases (hnone q hq).symm.trans hqnamed

/-- The lookup of a name comes to the file that is listed under it, or a file diverts it. -/
theorem find?_listed (hfiles : files f dirs = .ok (before ++ p :: after)) (hp : IsEntry f p l)
    (hentries : ∀ q ∈ before, ∃ k, IsEntry f q k ∧ k.name ≠ l.name) :
    (find? f dirs l.name = .ok (some p) ∧ ¬∃ q, Diverts f (before ++ p :: after) before p l.name q) ∨
      ∃ q, q ≠ p ∧ Diverts f (before ++ p :: after) before p l.name q ∧
        find? f dirs l.name = .ok (some q) := by
  have hmem : p ∈ before ++ p :: after := List.mem_append_right before List.mem_cons_self
  have hlookup {q : PathName} := @find?_eq_some_iff f dirs l.name _ q hfiles
  cases hearly : before.find? (·.stem == l.name) with
  | some q =>
    have hq := List.mem_of_find?_eq_some hearly
    have hstem : q.stem = l.name := by simpa using List.find?_some hearly
    obtain ⟨k, hk, hname⟩ := hentries q hq
    obtain ⟨w, hload, hw⟩ := hk.load_of_stem hstem hname
    refine .inr ⟨q, ne_of_listed hp hentries hq, .stem hq hstem hload hw, hlookup.mpr (.inl ?_)⟩
    rw [List.find?_append, hearly, Option.some_or]
  | none =>
    have hbefore : ∀ q ∈ before, q.stem ≠ l.name := by simpa using List.find?_eq_none.mp hearly
    by_cases hpstem : p.stem = l.name
    · refine .inl ⟨hlookup.mpr (.inl ?_), ?_⟩
      · rw [List.find?_append, hearly, Option.none_or, List.find?_cons_of_pos (by simpa using hpstem)]
      · rintro ⟨q, ⟨hq, hstem, -, -⟩ | ⟨-, -, hother⟩ | ⟨-, hnone, -, -, -⟩⟩
        · exact hbefore q hq hstem
        · exact hother hpstem
        · exact hnone p hmem hpstem
    · cases hlate : after.find? (·.stem == l.name) with
      | some q =>
        have hq := List.mem_of_find?_eq_some hlate
        have hstem : q.stem = l.name := by simpa using List.find?_some hlate
        have hall : q ∈ before ++ p :: after :=
          List.mem_append_right before (List.mem_cons_of_mem p hq)
        refine .inr ⟨q, fun heq => hpstem (heq ▸ hstem), .other hall hstem hpstem, hlookup.mpr (.inl ?_)⟩
        rw [List.find?_append, hearly, Option.none_or, List.find?_cons_of_neg (by simpa using hpstem), hlate]
      | none =>
        have hafter : ∀ q ∈ after, q.stem ≠ l.name := by simpa using List.find?_eq_none.mp hlate
        refine find?_listed_of_stems hfiles hp hentries fun q hq => ?_
        rcases List.mem_append.mp hq with hq | hq
        · exact hbefore q hq
        · rcases List.mem_cons.mp hq with rfl | hq
          · exact hpstem
          · exact hafter q hq

/-- Of every entry of a listing the name leads to the file of the entry, unless a file diverts it; and a name that
leads to a workflow of that name is listed. -/
theorem listed_works_or_diverted {ls : List Listing} (h : list f dirs = .ok ls) :
    ∃ ps, files f dirs = .ok ps ∧
      (∀ l ∈ ls, ∃ before p after, ps = before ++ p :: after ∧ IsEntry f p l ∧
        ((WorksOn f dirs p l ∧ ¬∃ q, Diverts f ps before p l.name q) ∨
          ∃ q, q ≠ p ∧ Diverts f ps before p l.name q ∧ find? f dirs l.name = .ok (some q))) ∧
      ∀ name w, byName? f dirs name = .ok (some w) → w.name = name → ∃ l ∈ ls, l.name = name := by
  obtain ⟨ps, hps, hlisted⟩ := exists_entry_of_list h
  refine ⟨ps, hps, fun l hl => ?_, fun name w hget hname => ?_⟩
  · obtain ⟨ps', all, hps', hall, rfl⟩ := list_eq_ok_iff.mp h
    obtain rfl := Except.ok.inj (hps.symm.trans hps')
    obtain ⟨front, back, rfl, hfront⟩ := mem_firstOfName_iff.mp hl
    obtain ⟨before, p, after, rfl, hbefore, hp⟩ := forall₂_split hall.flip
    refine ⟨before, p, after, rfl, hp, ?_⟩
    have hentries : ∀ q ∈ before, ∃ k, IsEntry f q k ∧ k.name ≠ l.name := fun q hq => by
      obtain ⟨k, hk, hqk⟩ := exists_of_forall₂ hbefore hq
      exact ⟨k, hqk, hfront k hk⟩
    exact (find?_listed hps hp hentries).imp_left fun ⟨hfind, hnone⟩ => ⟨worksOn_of_find? hp hfind, hnone⟩
  · obtain ⟨p, hfind, hload⟩ : ∃ p, find? f dirs name = .ok (some p) ∧ load f p = .ok w := by
      refine get_eq_ok ?_
      unfold get
      rw [hget]
      rfl
    obtain ⟨before, after, hsplit⟩ := List.append_of_mem (Same.mem_files hps hfind)
    obtain ⟨l, hl, hmem⟩ := hlisted before p after hsplit
    have hlname : l.name = name := by
      rw [hl.unique (.valid hload)]
      exact hname
    rcases hmem with hmem | ⟨-, -, k, -, hk, hmem⟩
    · exact ⟨l, hmem, hlname⟩
    · exact ⟨k, hmem, hk.trans hlname⟩

/-! ## Two directories -/

/-- A workflow of a name that no file has as its stem. -/
def distinct : Files :=
  cabinet (Text.Utf8.encode "{name: c, steps: [{id: x, action: push}]}")
    (Text.Utf8.encode "{name: b, steps: [{id: y, action: pull}]}")

/-- The name of the first file leads to it. -/
theorem first_file_works :
    ∃ ls l, list distinct ["one", "two"] = .ok ls ∧ l ∈ ls ∧ l.name = "c" ∧
      WorksOn distinct ["one", "two"] firstFile l := by
  obtain ⟨w, hfirst, hw, -⟩ := @exists_load_of_toOption distinct firstFile "c" ["x"] (by decide +kernel)
  obtain ⟨v, hsecond, hv, -⟩ := @exists_load_of_toOption distinct secondFile "b" ["y"] (by decide +kernel)
  have hlist := list_eq_ok_iff.mpr
    ⟨_, _, files_cabinet _ _, .cons (.valid hfirst) (.cons (.valid hsecond) .nil), rfl⟩
  obtain ⟨ps, hps, hworks, -⟩ := listed_works_or_diverted hlist
  obtain rfl := Except.ok.inj (hps.symm.trans (files_cabinet _ _))
  obtain ⟨before, p, after, hsplit, hentry, hcases⟩ := hworks _ List.mem_cons_self
  have hp : p = firstFile ∧ before = [] := by
    cases before with
    | nil => exact ⟨(List.cons.inj hsplit).1.symm, rfl⟩
    | cons q before =>
      obtain ⟨-, hrest⟩ := List.cons.inj hsplit
      have hmem : p ∈ [secondFile] := hrest ▸ List.mem_append_right before List.mem_cons_self
      obtain rfl := List.mem_singleton.mp hmem
      have hfile : firstFile.display = secondFile.display :=
        congrArg Listing.file (hentry.unique (.valid hsecond))
      exact absurd hfile (by decide)
  obtain ⟨rfl, rfl⟩ := hp
  refine ⟨_, _, hlist, List.mem_cons_self, hw, ?_⟩
  rcases hcases with ⟨hworks, -⟩ | ⟨q, -, hq | ⟨hq, hstem, -⟩ | hq, -⟩
  · exact hworks
  · cases hq
  · have hc : q.stem = "c" := hstem.trans hw
    simp only [List.mem_cons, List.not_mem_nil, or_false] at hq
    rcases hq with rfl | rfl <;> exact absurd hc (by decide)
  · cases hq

/-- Two workflows of one name, which is the stem of the second file. -/
def namesakes : Files :=
  cabinet (Text.Utf8.encode "{name: b, steps: [{id: x, action: push}]}")
    (Text.Utf8.encode "{name: b, steps: [{id: y, action: pull}]}")

/-- The name of an entry leads to another workflow than the one that is listed. -/
theorem exists_entry_that_is_diverted :
    ∃ ls l w v, list namesakes ["one", "two"] = .ok ls ∧ l ∈ ls ∧ IsEntry namesakes firstFile l ∧
      load namesakes firstFile = .ok w ∧ byName? namesakes ["one", "two"] l.name = .ok (some v) ∧
      v.stepIds ≠ w.stepIds := by
  obtain ⟨w, hfirst, hw, hids⟩ := @exists_load_of_toOption namesakes firstFile "b" ["x"] (by decide +kernel)
  obtain ⟨v, hsecond, hv, hother⟩ := @exists_load_of_toOption namesakes secondFile "b" ["y"] (by decide +kernel)
  have hlist := list_eq_ok_iff.mpr
    ⟨_, _, files_cabinet _ _, .cons (.valid hfirst) (.cons (.valid hsecond) .nil), rfl⟩
  have hfind : find? namesakes ["one", "two"] w.name = .ok (some secondFile) := by
    rw [hw]
    exact (find?_eq_some_iff (files_cabinet _ _)).mpr (.inl (by decide))
  refine ⟨_, _, w, v, hlist, List.mem_cons_self, .valid hfirst, hfirst, ?_, ?_⟩
  · rw [byName?_of_find? hfind, hsecond]
    rfl
  · rw [hids, hother]
    decide

end Runbook.Library
