import Mathlib.Tactic
import Runbook.Proofs.Settings.Reading
import Runbook.Proofs.Text.Cutting

/-! A variable of the environment goes before the second file, that before the first, and each of them before what
a setting is by itself. -/

namespace Runbook

open Toml (Entries AreTidy areTidy_iff areTidy_of_parse areTidy_nil)

theorem Json.lookup?_insertMember (es : Entries) (k name : String) (v : Value) :
    Value.lookup? name (Json.insertMember es k v) = if k = name then some v else Value.lookup? name es := by
  induction es with
  | nil => simp [Json.insertMember, Value.lookup?_cons, Value.keyIs]
  | cons e rest ih =>
    obtain ⟨key, w⟩ := e
    unfold Json.insertMember
    cases hk : Value.keyIs k (key, w) with
    | true =>
      obtain rfl : key = .text k := by
        cases key <;> simp_all [Value.keyIs]
      by_cases hname : k = name <;> simp [Value.lookup?_cons, Value.keyIs, hname]
    | false =>
      rw [if_neg Bool.false_ne_true, Value.lookup?_cons, Value.lookup?_cons, ih]
      by_cases hname : k = name
      · subst hname
        simp [hk]
      · simp [hname]

namespace Settings

variable {base more doc doc' : Entries} {table name : String}

/-! ## One document over another -/

/-- The entries put into a document in turn, each as it comes out of what stands there and the entry. -/
def laid (f : Option Value → Value → Value) (b : Bindings) (doc : Entries) : Entries :=
  b.foldl (fun acc e => Json.insertMember acc e.1 (f (Value.lookup? e.1 acc) e.2)) doc

/-- Under a name stands what its entry makes of what stood there. By induction on the entries; a name that has come
does not come again. -/
theorem lookup?_laid (f : Option Value → Value → Value) {b : Bindings} (h : b.names.Nodup) (doc : Entries)
    (name : String) :
    Value.lookup? name (laid f b doc) =
      ((b.get? name).map (f (Value.lookup? name doc))).or (Value.lookup? name doc) := by
  induction b generalizing doc with
  | nil => rfl
  | cons e b ih =>
    obtain ⟨k, v⟩ := e
    obtain ⟨hk, hb⟩ := List.nodup_cons.mp h
    have hlaid : laid f ((k, v) :: b) doc = laid f b (Json.insertMember doc k (f (Value.lookup? k doc) v)) := rfl
    rw [hlaid, ih hb, Json.lookup?_insertMember]
    by_cases hname : k = name
    · subst hname
      simp [Bindings.get?_cons, Bindings.get?_eq_none_iff.mpr hk]
    · simp [Bindings.get?_cons, hname]

theorem lookup?_updated {old new : Entries} (h : AreTidy new) (name : String) :
    Value.lookup? name (merge.updated old new) = (Value.lookup? name new).or (Value.lookup? name old) := by
  obtain ⟨b, rfl, hnames, -⟩ := areTidy_iff.mp h
  have hlaid : merge.updated old (b.map fun e => (.text e.1, e.2)) = laid (fun _ v => v) b old := by
    rw [merge.updated, List.foldl_map]
    rfl
  rw [hlaid, lookup?_laid _ hnames, Value.lookup?_obj, Option.map_id']

/-- A table over a table is put together of both; anything else stands in the place of what is there. -/
def onto : Option Value → Value → Value
  | some (.map old), .map new => .map (merge.updated old new)
  | _, v => v

theorem lookup?_merge (h : AreTidy more) (base : Entries) (name : String) :
    Value.lookup? name (merge base more) =
      ((Value.lookup? name more).map (onto (Value.lookup? name base))).or (Value.lookup? name base) := by
  obtain ⟨b, rfl, hnames, -⟩ := areTidy_iff.mp h
  have hlaid : merge base (b.map fun e => (.text e.1, e.2)) = laid onto b base := by
    rw [merge, List.foldl_map, laid]
    congr 1
    funext acc e
    dsimp only
    generalize Value.lookup? e.1 acc = there
    generalize e.2 = v
    cases there with
    | none => rfl
    | some w =>
      cases w with
      | map old => cases v <;> rfl
      | _ => rfl
  rw [hlaid, lookup?_laid onto hnames, Value.lookup?_obj]

/-- The second document is sectioned, and in its sections these entries stand over those of the first. -/
structure Overlays (top : String → String → Option Value) (doc doc' : Entries) : Prop where
  isSectioned : IsSectioned doc'
  entryIn_eq : ∀ table ∈ sections, ∀ name, entryIn doc' table name = (top table name).or (entryIn doc table name)

theorem overlays_refl (h : IsSectioned doc) : Overlays (fun _ _ => none) doc doc := ⟨h, fun _ _ _ => rfl⟩

theorem Overlays.trans {top top' : String → String → Option Value} {doc'' : Entries} (h : Overlays top doc doc')
    (h' : Overlays top' doc' doc'') : Overlays (fun table name => (top' table name).or (top table name)) doc doc'' := by
  refine ⟨h'.isSectioned, fun table htable name => ?_⟩
  rw [h'.entryIn_eq table htable, h.entryIn_eq table htable, Option.or_assoc]

theorem entryIn_of_lookup? {es : Entries} (h : Value.lookup? table doc = some (.map es)) (name : String) :
    entryIn doc table name = Value.lookup? name es := by
  rw [entryIn, h]
  rfl

theorem entryIn_of_lookup?_eq_none (h : Value.lookup? table doc = none) (name : String) :
    entryIn doc table name = none := by
  rw [entryIn, h]
  rfl

theorem isMap_onto (r : Option Value) (new : Entries) : (onto r (.map new)).isMap = true := by
  unfold onto
  split
  · rfl
  · rfl

/-- In a section of both documents the entries of the second stand over those of the first. -/
theorem overlays_merge (hbase : IsSectioned base) (hmore : IsSectioned more) (htidy : AreTidy more) :
    Overlays (entryIn more) base (merge base more) := by
  constructor
  · intro table htable v hv
    rw [lookup?_merge htidy] at hv
    cases hnew : Value.lookup? table more with
    | none =>
      rw [hnew] at hv
      exact hbase table htable v hv
    | some w =>
      obtain ⟨new, rfl⟩ := (hmore table htable).eq_map hnew
      rw [hnew] at hv
      obtain rfl := Option.some.inj hv
      exact isMap_onto _ new
  · intro table htable name
    cases hnew : Value.lookup? table more with
    | none =>
      rw [entryIn_of_lookup?_eq_none hnew, entryIn, lookup?_merge htidy, hnew]
      rfl
    | some v =>
      obtain ⟨new, rfl⟩ := (hmore table htable).eq_map hnew
      cases hold : Value.lookup? table base with
      | none =>
        rw [entryIn_of_lookup?_eq_none hold, Option.or_none, entryIn, entryIn, lookup?_merge htidy, hnew, hold]
        rfl
      | some w =>
        obtain ⟨old, rfl⟩ := (hbase table htable).eq_map hold
        rw [entryIn_of_lookup? hnew, entryIn_of_lookup? hold, ← lookup?_updated (htidy.of_lookup? hnew),
          entryIn, lookup?_merge htidy, hnew, hold]
        rfl

/-- What is set stands in its section, and the rest is as it was. -/
theorem overlays_setIn (h : IsSectioned doc) (htable : table ∈ sections) (name : String) (v : Value) :
    ∃ doc', setIn doc table name v = .ok doc' ∧
      Overlays (fun t n => if t = table ∧ n = name then some v else none) doc doc' := by
  obtain ⟨es, hes, hentries⟩ : ∃ es, (Value.lookup? table doc).getD (.map []) = .map es ∧
      ∀ n, entryIn doc table n = Value.lookup? n es := by
    cases hold : Value.lookup? table doc with
    | none => exact ⟨[], rfl, entryIn_of_lookup?_eq_none hold⟩
    | some w =>
      obtain ⟨es, rfl⟩ := (h table htable).eq_map hold
      exact ⟨es, rfl, entryIn_of_lookup? hold⟩
  refine ⟨Json.insertMember doc table (.map (Json.insertMember es name v)), by rw [setIn, hes], ?_, ?_⟩
  · intro t ht w hw
    rw [Json.lookup?_insertMember] at hw
    split_ifs at hw
    · obtain rfl := Option.some.inj hw
      rfl
    · exact h t ht w hw
  · intro t ht n
    by_cases htable : table = t
    · subst htable
      have hthere : Value.lookup? table (Json.insertMember doc table (.map (Json.insertMember es name v))) =
          some (.map (Json.insertMember es name v)) := by rw [Json.lookup?_insertMember, if_pos rfl]
      rw [entryIn_of_lookup? hthere, Json.lookup?_insertMember, hentries]
      by_cases hname : name = n
      · simp [hname]
      · simp [hname, Ne.symm hname]
    · rw [entryIn, Json.lookup?_insertMember, if_neg htable, if_neg fun heq => htable heq.1.symm]
      rfl

/-! ## Variables of the environment -/

namespace Override

/-- What the variable gives, where it is set to a text that can be read. -/
def value? (o : Override) (env : Environment) : Option Value := (given env o.source).bind o.read

/-- The entry that the variable is for. -/
def target (o : Override) : String × String := (o.table, o.name)

/-- The variable is that of this entry. -/
def Sets (o : Override) (table name : String) : Prop := o.target = (table, name)

instance (o : Override) (table name : String) : Decidable (o.Sets table name) :=
  inferInstanceAs (Decidable (_ = _))

end Override

/-- What the variable of an entry gives for it. -/
def setBy (env : Environment) (os : List Override) (table name : String) : Option Value :=
  (os.find? (·.Sets table name)).bind (·.value? env)

variable {env : Environment}

theorem setBy_cons (env : Environment) (o : Override) (os : List Override) (table name : String) :
    setBy env (o :: os) table name = if o.Sets table name then o.value? env else setBy env os table name := by
  unfold setBy
  rw [List.find?_cons]
  by_cases h : o.Sets table name <;> simp [h]

theorem overlays_applyOverride (h : IsSectioned doc) {o : Override} (htable : o.table ∈ sections) (env : Environment)
    (ws : List String) :
    ∃ doc', (applyOverride env o doc ws).1 = .ok doc' ∧
      Overlays (fun table name => if o.Sets table name then o.value? env else none) doc doc' := by
  unfold applyOverride
  cases hgiven : given env o.source with
  | none =>
    have hnone : o.value? env = none := by rw [Override.value?, hgiven, Option.bind_none]
    exact ⟨doc, rfl, h, fun t _ n => by simp [hnone]⟩
  | some raw =>
    cases hread : o.read raw with
    | none =>
      have hnone : o.value? env = none := by rw [Override.value?, hgiven, Option.bind_some, hread]
      refine ⟨doc, ?_, h, fun t _ n => by simp [hnone]⟩
      simp only [hread]
      split_ifs <;> rfl
    | some v =>
      have hv : o.value? env = some v := by rw [Override.value?, hgiven, Option.bind_some, hread]
      obtain ⟨doc', hdoc', hover⟩ := overlays_setIn h htable o.name v
      refine ⟨doc', by simp [hread, hdoc'], hover.isSectioned, fun t ht n => ?_⟩
      rw [hover.entryIn_eq t ht, hv]
      simp only [Override.Sets, Override.target, Prod.mk.injEq, eq_comm]

theorem setBy_eq_none {o : Override} {os : List Override} (h : o.target ∉ os.map Override.target)
    (hsets : o.Sets table name) : setBy env os table name = none := by
  have hnone : os.find? (·.Sets table name) = none := by
    rw [List.find?_eq_none]
    intro o' ho' hsame
    have htarget : o'.target = o.target := (of_decide_eq_true hsame).trans hsets.symm
    exact h (htarget ▸ List.mem_map_of_mem ho')
  rw [setBy, hnone, Option.bind_none]

/-- By induction on the variables: what one sets, none that comes later sets again. -/
theorem overlays_applyAll {os : List Override} (htables : ∀ o ∈ os, o.table ∈ sections)
    (htargets : (os.map Override.target).Nodup) (h : IsSectioned doc) (env : Environment) (ws : List String) :
    ∃ doc', (applyAll env os doc ws).1 = .ok doc' ∧ Overlays (setBy env os) doc doc' := by
  induction os generalizing doc ws with
  | nil => exact ⟨doc, rfl, overlays_refl h⟩
  | cons o os ih =>
    obtain ⟨hfirst, hrest⟩ := List.nodup_cons.mp htargets
    obtain ⟨hofirst, horest⟩ := List.forall_mem_cons.mp htables
    obtain ⟨mid, hmid, hmidover⟩ := overlays_applyOverride h hofirst env ws
    obtain ⟨doc', hdoc', hover⟩ := ih horest hrest hmidover.isSectioned (applyOverride env o doc ws).2
    refine ⟨doc', ?_, hover.isSectioned, fun t ht n => ?_⟩
    · rw [applyAll, Act.bind_apply, hmid]
      exact hdoc'
    · rw [(hmidover.trans hover).entryIn_eq t ht, setBy_cons]
      split_ifs with hsets
      · rw [setBy_eq_none hfirst hsets, Option.none_or]
      · rw [Option.or_none]

theorem tables_overrides : ∀ o ∈ overrides, o.table ∈ sections := by decide

theorem nodup_targets : (overrides.map Override.target).Nodup := by decide

/-- A file has no name twice in a table. -/
theorem areTidy_entriesOf {file : Option String} (h : entriesOf file = .ok more) : AreTidy more := by
  unfold entriesOf at h
  split at h
  · obtain rfl := Except.ok.inj h
    exact areTidy_nil
  · split at h
    · rename_i es hes
      obtain rfl := Except.ok.inj h
      exact areTidy_of_parse hes
    · obtain rfl := Except.ok.inj h
      exact areTidy_nil
    · cases h

/-- What is read are the entries of the environment over those of the second file over those of the first. -/
theorem exists_load_eq {first second : Option String} (hfirst : entriesOf first = .ok base)
    (hsecond : entriesOf second = .ok more) (hbase : IsSectioned base) (hmore : IsSectioned more) (env : Environment)
    (ws : List String) :
    ∃ doc, (load first second env ws).1 = ofDocument doc ∧
      Overlays (fun table name => (setBy env overrides table name).or (entryIn more table name)) base doc := by
  have hmerged := overlays_merge hbase hmore (areTidy_entriesOf hsecond)
  obtain ⟨doc, hdoc, hover⟩ := overlays_applyAll tables_overrides nodup_targets hmerged.isSectioned env ws
  refine ⟨doc, ?_, hmerged.trans hover⟩
  unfold load
  rw [hfirst, hsecond]
  simp [Act.bind_apply, hdoc]

/-! ## The settings that are loaded -/

/-- Of these variables a text counts only if it spells an integer. -/
def integerVariables : List String := ["PORT", "RATE_LIMIT_PER_MINUTE", "WORKFLOW_MAX_ITERATIONS"]

theorem reads_overrides :
    ∀ o ∈ overrides, if o.source ∈ integerVariables then o.read = asInteger else ∀ raw, (o.read raw).isSome := by
  simp [overrides, integerVariables, asText, asTrimmed, asUpper, asItems]

end Settings

namespace Setting

open Settings

def override? (st : Setting) : Option Override := overrides.find? (·.Sets st.table st.name)

/-- The entry that counts for a setting: that of its variable, else that of the second file, else that of the first. -/
def chosen (st : Setting) (env : Environment) (base more : Entries) : Option Value :=
  (st.override?.bind (·.value? env)).or ((entryIn more st.table st.name).or (entryIn base st.table st.name))

theorem tables_all : ∀ st ∈ all, st.table ∈ sections := by decide

end Setting

namespace Settings

/-- A variable is passed over if it is not set, is empty or should spell an integer and does not. -/
theorem value?_eq_none_iff {o : Override} (ho : o ∈ overrides) {env : Environment} :
    o.value? env = none ↔
      env o.source = none ∨ env o.source = some "" ∨
        o.source ∈ integerVariables ∧ ∃ raw, env o.source = some raw ∧ Decimal.readInt? raw = none := by
  have hreads := reads_overrides o ho
  unfold Override.value? given
  cases henv : env o.source with
  | none => simp
  | some raw =>
    by_cases hempty : raw = ""
    · simp [hempty]
    · have hgiven : (some raw).filter (fun s => !s.isEmpty) = some raw := by simp [hempty]
      rw [hgiven, Option.bind_some]
      split_ifs at hreads with hinteger
      · simp [hreads, asInteger, hinteger, hempty]
      · simp [Option.ne_none_iff_isSome.mpr (hreads raw), hinteger, hempty]

theorem readInt?_of_isBlankText {raw : String} (h : Text.isBlankText raw = true) : Decimal.readInt? raw = none := by
  unfold Decimal.readInt? Decimal.trimmed
  rw [Text.trimStart_of_blank (List.all_eq_true.mp h)]
  rfl

/-- Each entry has a variable of its own. -/
theorem nodup_sources : (overrides.map (·.source)).Nodup := by decide

theorem override?_eq_some_iff {st : Setting} {o : Override} :
    st.override? = some o ↔ o ∈ overrides ∧ o.Sets st.table st.name := by
  unfold Setting.override?
  constructor
  · intro h
    have hsets := List.find?_some h
    exact ⟨List.mem_of_find?_eq_some h, of_decide_eq_true hsets⟩
  · rintro ⟨ho, hsets⟩
    cases hfind : overrides.find? (·.Sets st.table st.name) with
    | none => exact absurd (decide_eq_true hsets) (List.find?_eq_none.mp hfind o ho)
    | some o' =>
      have hsets' := List.find?_some hfind
      have htarget : o'.target = o.target := (of_decide_eq_true hsets').trans hsets.symm
      rw [List.inj_on_of_nodup_map nodup_targets (List.mem_of_find?_eq_some hfind) ho htarget]

/-- No variable is idle. -/
theorem exists_setting : ∀ o ∈ overrides, ∃ st ∈ Setting.all, o.Sets st.table st.name := by decide

/-- A change to a variable changes what is chosen for its own setting only. -/
theorem chosen_eq_of_not_sets {env env' : Environment} {o : Override} (ho : o ∈ overrides)
    (henv : ∀ source ≠ o.source, env' source = env source) {st : Setting} (hst : ¬o.Sets st.table st.name) :
    st.chosen env' base more = st.chosen env base more := by
  unfold Setting.chosen
  cases hother : st.override? with
  | none => rfl
  | some o' =>
    obtain ⟨ho', hsets⟩ := override?_eq_some_iff.mp hother
    have hne : o'.source ≠ o.source := by
      intro heq
      obtain rfl := List.inj_on_of_nodup_map nodup_sources ho' ho heq
      exact hst hsets
    rw [Option.bind_some, Option.bind_some, Override.value?, Override.value?, given, given, henv _ hne]

theorem load_eq_ok_iff {first second : Option String} (hfirst : entriesOf first = .ok base)
    (hsecond : entriesOf second = .ok more) (hbase : IsSectioned base) (hmore : IsSectioned more) (env : Environment)
    (ws : List String) (s : Settings) :
    (load first second env ws).1 = .ok s ↔
      ∀ st ∈ Setting.all, st.valueOf (st.chosen env base more) = some (st.of s) := by
  obtain ⟨doc, hload, hover⟩ := exists_load_eq hfirst hsecond hbase hmore env ws
  rw [hload, ofDocument_eq_ok_iff hover.isSectioned]
  refine forall₂_congr fun st hst => ?_
  rw [Setting.Gives, Field.Gives, hover.entryIn_eq st.table (Setting.tables_all st hst), Option.or_assoc]
  rfl

/-- For files whose sections are tables a setting is what its variable of the environment gives, else what the second
file has for it, else what the first has, else what it is by itself; the settings are loaded exactly if all of that can
be read. A variable counts if it is set to a text that is not empty and, where it should spell an integer, does so, and
it changes no setting but its own. So a text of blanks counts, except where it should spell an integer. -/
theorem settings_are_chosen {first second : Option String} (hfirst : entriesOf first = .ok base)
    (hsecond : entriesOf second = .ok more) (hbase : IsSectioned base) (hmore : IsSectioned more) (env : Environment)
    (ws : List String) :
    (∀ s, (load first second env ws).1 = .ok s ↔
      ∀ st ∈ Setting.all, st.valueOf (st.chosen env base more) = some (st.of s)) ∧
    (∀ o ∈ overrides, ∃ st ∈ Setting.all, st.override? = some o) ∧
    (∀ o ∈ overrides, o.value? env = none ↔
      env o.source = none ∨ env o.source = some "" ∨
        o.source ∈ integerVariables ∧ ∃ raw, env o.source = some raw ∧ Decimal.readInt? raw = none) ∧
    (∀ raw, Text.isBlankText raw = true → Decimal.readInt? raw = none) ∧
    ∀ o ∈ overrides, ∀ env' : Environment, (∀ source ≠ o.source, env' source = env source) →
      ∀ s s', (load first second env ws).1 = .ok s → (load first second env' ws).1 = .ok s' →
        ∀ st ∈ Setting.all, ¬o.Sets st.table st.name → st.of s' = st.of s := by
  have hload := load_eq_ok_iff hfirst hsecond hbase hmore
  refine ⟨hload env ws, ?_, fun o ho => value?_eq_none_iff ho, fun raw => readInt?_of_isBlankText, ?_⟩
  · intro o ho
    obtain ⟨st, hst, hsets⟩ := exists_setting o ho
    exact ⟨st, hst, override?_eq_some_iff.mpr ⟨ho, hsets⟩⟩
  · intro o ho env' henv s s' hs hs' st hst hsets
    have hvalue := (hload env ws s).mp hs st hst
    have hvalue' := (hload env' ws s').mp hs' st hst
    rw [chosen_eq_of_not_sets ho henv hsets, hvalue] at hvalue'
    exact (Option.some.inj hvalue').symm

theorem token_of_environment_goes_first :
    ∃ base s, entriesOf (some "[github]\ntoken = \"t\"\n") = .ok base ∧ IsSectioned base ∧
      (load (some "[github]\ntoken = \"t\"\n") none (fun v => if v = "GITHUB_TOKEN" then some " s " else none) []).1 =
        .ok s ∧ s.gitHub.token = "s" := by
  have hfile : ((entriesOf (some "[github]\ntoken = \"t\"\n")).toOption.any fun es => IsSectioned es) = true := by
    decide +kernel
  have hloads : (load (some "[github]\ntoken = \"t\"\n") none
      (fun v => if v = "GITHUB_TOKEN" then some " s " else none) []).1.toOption.isSome = true := by
    decide +kernel
  obtain ⟨base, hbase, hsectioned⟩ := (Option.any_eq_true _ _).mp hfile
  obtain ⟨s, hs⟩ := Option.isSome_iff_exists.mp hloads
  rw [toOption_eq_some_iff] at hbase hs
  have hall := ((settings_are_chosen hbase rfl (of_decide_eq_true hsectioned) (by decide) _ []).1 s).mp hs
  have hvalue := hall (.within "github" (·.gitHub) (.checked "token" Schema.text (·.token)))
    (by simp [Setting.all, GitHubSettings.fields])
  have hsets : (Setting.within "github" (·.gitHub) (.checked "token" Schema.text (·.token))).override? =
      some ⟨"GITHUB_TOKEN", "github", "token", asTrimmed⟩ :=
    override?_eq_some_iff.mpr ⟨by simp [overrides], by decide⟩
  rw [Setting.chosen, hsets] at hvalue
  exact ⟨base, s, hbase, of_decide_eq_true hsectioned, hs, (Option.some.inj hvalue).symm⟩

/-- A token of blanks takes the place of the one in the file, and nothing is left of it. -/
theorem blank_token_goes_first :
    ((load (some "[github]\ntoken = \"t\"\n") none
      (fun v => if v = "GITHUB_TOKEN" then some " " else none) []).1.toOption.map (·.gitHub.token)) = some "" := by
  decide +kernel

end Settings

end Runbook
