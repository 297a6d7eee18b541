import Mathlib.Tactic
import Runbook.Proofs.Each
import Runbook.Proofs.Value.Bindings
import Runbook.Toml.Reader

/-! In a TOML document no table has a name twice. -/

namespace Runbook

/-- What comes after a guard is read only if the guard lets it. -/
theorem of_guard {ε β : Type} {c : Prop} [Decidable c] {e : ε} {f : PUnit → Except ε β} {b : β}
    (h : (if c then throw e >>= f else f ⟨⟩) = .ok b) : f ⟨⟩ = .ok b := by
  split_ifs at h
  · cases h
  · exact h

namespace Toml

/-- A table has no name twice, nor has a table in it, at any depth. What is in arrays is not looked at. -/
inductive IsTidy : Value → Prop where
  | plain {v : Value} (h : v.isMap = false) : IsTidy v
  | table {b : Bindings} (hnames : b.names.Nodup) (h : ∀ e ∈ b, IsTidy e.2) : IsTidy (.obj b)

/-- Entries of a table without a name that comes twice. -/
def AreTidy (es : Entries) : Prop := IsTidy (.map es)

theorem areTidy_iff {es : Entries} :
    AreTidy es ↔ ∃ b : Bindings, es = b.map (fun e => (.text e.1, e.2)) ∧ b.names.Nodup ∧ ∀ e ∈ b, IsTidy e.2 := by
  constructor
  · intro h
    unfold AreTidy at h
    generalize hv : Value.map es = v at h
    cases h with
    | plain hplain =>
      rw [← hv] at hplain
      cases hplain
    | table hnames hall => exact ⟨_, Value.map.inj hv, hnames, hall⟩
  · rintro ⟨b, rfl, hnames, hall⟩
    exact .table hnames hall

theorem areTidy_nil : AreTidy [] := areTidy_iff.mpr ⟨[], rfl, List.nodup_nil, nofun⟩

namespace AreTidy

variable {es : Entries} {k : String} {v : Value}

theorem of_lookup? (h : AreTidy es) (hv : Value.lookup? k es = some v) : IsTidy v := by
  obtain ⟨b, rfl, -, hall⟩ := areTidy_iff.mp h
  rw [Value.lookup?_obj] at hv
  obtain ⟨e, he, rfl⟩ := Bindings.mem_of_get? hv
  exact hall e he

theorem append (h : AreTidy es) (hnone : Value.lookup? k es = none) (hv : IsTidy v) :
    AreTidy (es ++ [(.text k, v)]) := by
  obtain ⟨b, rfl, hnames, hall⟩ := areTidy_iff.mp h
  rw [Value.lookup?_obj, Bindings.get?_eq_none_iff] at hnone
  refine areTidy_iff.mpr ⟨b ++ [(k, v)], by simp, ?_, ?_⟩
  · have hmore : Bindings.names (b ++ [(k, v)]) = b.names.concat k := by simp [Bindings.names]
    rw [hmore]
    exact hnames.concat hnone
  · intro e he
    rcases List.mem_append.mp he with he | he
    · exact hall e he
    · obtain rfl := List.mem_singleton.mp he
      exact hv

theorem replace (h : AreTidy es) (hv : IsTidy v) :
    AreTidy (es.map fun e => if Value.keyIs k e then (e.1, v) else e) := by
  obtain ⟨b, rfl, hnames, hall⟩ := areTidy_iff.mp h
  refine areTidy_iff.mpr ⟨b.map fun e => if e.1 = k then (e.1, v) else e, ?_, ?_, ?_⟩
  · simp only [List.map_map, List.map_inj_left, Function.comp_apply]
    intro e _
    by_cases he : e.1 = k <;> simp [Value.keyIs, he]
  · have hsame : Bindings.names (b.map fun e => if e.1 = k then (e.1, v) else e) = b.names := by
      simp only [Bindings.names, List.map_map, List.map_inj_left, Function.comp_apply]
      intro e _
      split_ifs <;> rfl
    rw [hsame]
    exact hnames
  · intro e he
    obtain ⟨e', he', rfl⟩ := List.mem_map.mp he
    split_ifs
    · exact hv
    · exact hall e' he'

end AreTidy

/-! ## Changing tables -/

/-- The change leaves no name twice. -/
def KeepsTidy (f : Entries → Except Error Entries) : Prop := ∀ es es', AreTidy es → f es = .ok es' → AreTidy es'

theorem keepsTidy_ok : KeepsTidy .ok := by
  intro es es' h hf
  rwa [← Except.ok.inj hf]

theorem keepsTidy_addEntry (k : String) {v : Value} (hv : IsTidy v) : KeepsTidy (addEntry k v) := by
  intro es es' h hf
  unfold addEntry at hf
  split_ifs at hf with hthere
  obtain rfl := Except.ok.inj hf
  exact h.append (by simpa using hthere) hv

theorem keepsTidy_addTable (k : String) : KeepsTidy (addTable k) := by
  intro es es' h hf
  unfold addTable at hf
  split at hf
  · rename_i hnone
    obtain rfl := Except.ok.inj hf
    exact h.append hnone (.plain rfl)
  · obtain rfl := Except.ok.inj hf
    exact h.replace (.plain rfl)
  · cases hf

theorem keepsTidy_updateAt (intoArrays : Bool) {f : Entries → Except Error Entries} (hf : KeepsTidy f) (key : Key) :
    KeepsTidy (updateAt intoArrays f key) := by
  induction key with
  | nil => exact hf
  | cons k ks ih =>
    intro es es' h hupdate
    have hreplaced {v : Value} (hv : IsTidy v) : AreTidy
        (if (Value.lookup? k es).isSome then es.map fun e => if Value.keyIs k e then (e.1, v) else e
          else es ++ [(.text k, v)]) := by
      split_ifs with hthere
      · exact h.replace hv
      · exact h.append (by simpa using hthere) hv
    rw [updateAt] at hupdate
    cases hv : Value.lookup? k es with
    | none =>
      simp only [hv] at hupdate hreplaced
      obtain ⟨inner, hinner, hes⟩ := bind_eq_ok_iff.mp hupdate
      obtain rfl := Except.ok.inj hes
      exact hreplaced (ih [] inner areTidy_nil hinner)
    | some v =>
      cases v with
      | map old =>
        simp only [hv] at hupdate hreplaced
        obtain ⟨inner, hinner, hes⟩ := bind_eq_ok_iff.mp hupdate
        obtain rfl := Except.ok.inj hes
        exact hreplaced (ih old inner (h.of_lookup? hv) hinner)
      | list vs =>
        simp only [hv] at hupdate hreplaced
        split at hupdate
        · obtain ⟨inner, -, hes⟩ := bind_eq_ok_iff.mp hupdate
          obtain rfl := Except.ok.inj hes
          exact hreplaced (.plain rfl)
        · cases hupdate
      | _ =>
        simp only [hv] at hupdate
        cases hupdate

/-! ## Drafts -/

namespace Draft

variable {d d' : Draft} {k : Key} {v : Value}

/-- So far no name stands twice in a table. -/
def IsTidy (d : Draft) : Prop := AreTidy d.entries

theorem isTidy_empty : Draft.IsTidy {} := areTidy_nil

theorem IsTidy.endTable (h : d.IsTidy) : d.endTable.IsTidy := h

theorem IsTidy.openTable (h : d.IsTidy) (hopen : d.openTable k = .ok d') : d'.IsTidy := by
  unfold Draft.openTable at hopen
  dsimp only at hopen
  obtain ⟨es, hes, hd⟩ := bind_eq_ok_iff.mp (of_guard hopen)
  obtain rfl := Except.ok.inj hd
  exact keepsTidy_updateAt true keepsTidy_ok k _ es h hes

theorem IsTidy.openArrayTable (h : d.IsTidy) (hopen : d.openArrayTable k = .ok d') : d'.IsTidy := by
  unfold Draft.openArrayTable at hopen
  dsimp only at hopen
  obtain ⟨es, hes, hd⟩ := bind_eq_ok_iff.mp (of_guard hopen)
  obtain rfl := Except.ok.inj hd
  exact keepsTidy_updateAt true (keepsTidy_addTable _) k.dropLast _ es h hes

theorem IsTidy.put (h : d.IsTidy) (hv : Toml.IsTidy v) (hput : d.put k v = .ok d') : d'.IsTidy := by
  unfold Draft.put at hput
  dsimp only at hput
  obtain ⟨es, hes, hd⟩ := bind_eq_ok_iff.mp (of_guard (of_guard hput))
  obtain rfl := Except.ok.inj hd
  exact keepsTidy_updateAt true (keepsTidy_addEntry _ hv) _ _ es h hes

theorem IsTidy.putInline (h : d.IsTidy) (hv : Toml.IsTidy v) (hput : d.putInline k v = .ok d') : d'.IsTidy := by
  unfold Draft.putInline at hput
  dsimp only at hput
  obtain ⟨es, hes, hd⟩ := bind_eq_ok_iff.mp (of_guard hput)
  obtain rfl := Except.ok.inj hd
  exact keepsTidy_updateAt false (keepsTidy_addEntry _ hv) _ _ es h hes

end Draft

/-! ## Values -/

section Values

variable {cs rest : List Char} {v : Value}

theorem isMap_of_digits? {isDigit : Char → Bool} {base : ℕ}
    (h : (digits? isDigit cs).map (fun (ds, left) => (Value.int (valueIn base ds), left)) = some (v, rest)) :
    v.isMap = false := by
  obtain ⟨⟨ds, left⟩, -, heq⟩ := Option.map_eq_some_iff.mp h
  obtain ⟨rfl, -⟩ := Prod.mk.inj heq
  rfl

theorem isMap_of_based? (h : based? cs = some (v, rest)) : v.isMap = false := by
  unfold based? at h
  split at h
  · exact isMap_of_digits? h
  · exact isMap_of_digits? h
  · exact isMap_of_digits? h
  · cases h

theorem isMap_of_decimal? (h : decimal? cs = some (v, rest)) : v.isMap = false := by
  unfold decimal? at h
  simp only [Option.bind_eq_bind, Option.bind_eq_some_iff] at h
  obtain ⟨⟨ds, left⟩, -, h⟩ := h
  dsimp only at h
  split at h <;>
  · obtain ⟨rfl, -⟩ := Prod.mk.inj (Option.some.inj h)
    rfl

theorem isMap_of_word? (h : word? cs = some (v, rest)) : v.isMap = false := by
  unfold word? at h
  obtain ⟨⟨w, u⟩, hmem, heq⟩ := List.exists_of_findSome?_eq_some h
  obtain ⟨left, -, hpair⟩ := Option.map_eq_some_iff.mp heq
  obtain ⟨rfl, -⟩ := Prod.mk.inj hpair
  simp only [List.mem_cons, List.not_mem_nil, or_false, Prod.mk.injEq] at hmem
  rcases hmem with ⟨-, rfl⟩ | ⟨-, rfl⟩ | ⟨-, rfl⟩ | ⟨-, rfl⟩ | ⟨-, rfl⟩ | ⟨-, rfl⟩ <;> rfl

theorem isMap_dated (date : Date) (cs : List Char) : (dated date cs).1.isMap = false := by
  unfold dated
  split
  · split_ifs
    · split
      · split <;> rfl
      · rfl
    · rfl
  · rfl

theorem isMap_of_number
    (h : ((based? cs).orElse fun _ => (decimal? cs).orElse fun _ => word? cs) = some (v, rest)) : v.isMap = false := by
  simp only [Option.orElse_eq_or, Option.or_eq_some_iff] at h
  rcases h with hbased | ⟨-, hdecimal | ⟨-, hword⟩⟩
  · exact isMap_of_based? hbased
  · exact isMap_of_decimal? hdecimal
  · exact isMap_of_word? hword

/-- What stands neither in quotes, brackets nor braces is no table. -/
theorem isMap_of_scalar (h : scalar cs = .ok (v, rest)) : v.isMap = false := by
  unfold scalar at h
  split at h
  · split_ifs at h
    rename_i date left _ _
    have hdated := isMap_dated date left
    rw [Except.ok.inj h] at hdated
    exact hdated
  · split at h
    · obtain ⟨rfl, -⟩ := Prod.mk.inj (Except.ok.inj h)
      rfl
    · split at h
      · rename_i r hr
        obtain rfl := Except.ok.inj h
        exact isMap_of_number hr
      · cases h

theorem isMap_of_quoted {read : Except Error (String × List Char)}
    (h : (read.map fun (s, left) => (Value.text s, left)) = .ok (v, rest)) : v.isMap = false := by
  cases read with
  | error e => cases h
  | ok found =>
    obtain ⟨rfl, -⟩ := Prod.mk.inj (Except.ok.inj h)
    rfl

theorem isMap_of_arrayItems {fuel : ℕ} {found : List Value} (h : arrayItems fuel found cs = .ok (v, rest)) :
    v.isMap = false := by
  induction fuel generalizing found cs with
  | zero => cases h
  | succ fuel ih =>
    unfold arrayItems at h
    split at h
    · obtain ⟨rfl, -⟩ := Prod.mk.inj (Except.ok.inj h)
      rfl
    · obtain ⟨⟨w, more⟩, -, h⟩ := bind_eq_ok_iff.mp h
      obtain ⟨left, -, h⟩ := bind_eq_ok_iff.mp h
      split at h
      · obtain ⟨rfl, -⟩ := Prod.mk.inj (Except.ok.inj h)
        rfl
      · obtain ⟨more, -, h⟩ := bind_eq_ok_iff.mp h
        exact ih h
      · cases h

/-- By induction on the fuel, for values and for inline tables that are tidy so far. -/
theorem isTidy_of_fuel (fuel : ℕ) :
    (∀ cs v rest, value fuel cs = .ok (v, rest) → IsTidy v) ∧
      ∀ d cs v rest, d.IsTidy → inlineEntries fuel d cs = .ok (v, rest) → IsTidy v := by
  induction fuel with
  | zero => exact ⟨nofun, nofun⟩
  | succ fuel ih =>
    obtain ⟨hvalue, hinline⟩ := ih
    constructor
    · intro cs v rest h
      unfold value at h
      split at h
      · exact .plain (isMap_of_quoted h)
      · exact .plain (isMap_of_quoted h)
      · obtain ⟨rfl, -⟩ := Prod.mk.inj (Except.ok.inj h)
        exact .plain rfl
      · obtain ⟨rfl, -⟩ := Prod.mk.inj (Except.ok.inj h)
        exact .plain rfl
      · obtain ⟨left, -, h⟩ := bind_eq_ok_iff.mp h
        exact .plain (isMap_of_arrayItems h)
      · split at h
        · obtain ⟨rfl, -⟩ := Prod.mk.inj (Except.ok.inj h)
          exact areTidy_nil
        · exact hinline _ _ _ _ Draft.isTidy_empty h
      · exact .plain (isMap_of_scalar h)
    · intro d cs v rest hd h
      unfold inlineEntries at h
      obtain ⟨⟨k, left⟩, -, h⟩ := bind_eq_ok_iff.mp h
      dsimp only at h
      split at h
      · obtain ⟨⟨w, left⟩, hw, h⟩ := bind_eq_ok_iff.mp h
        obtain ⟨d', hd', h⟩ := bind_eq_ok_iff.mp h
        have hput := hd.putInline (hvalue _ _ _ hw) hd'
        dsimp only at h
        split at h
        · obtain ⟨rfl, -⟩ := Prod.mk.inj (Except.ok.inj h)
          exact hput
        · exact hinline _ _ _ _ hput h
        · cases h
      · cases h

theorem isTidy_of_value {fuel : ℕ} (h : value fuel cs = .ok (v, rest)) : IsTidy v :=
  (isTidy_of_fuel fuel).1 cs v rest h

end Values

/-! ## Statements -/

section Statements

variable {d d' : Draft} {cs rest : List Char}

theorem isTidy_of_entry (hd : d.IsTidy) (h : entry d cs = .ok (d', rest)) : d'.IsTidy := by
  obtain ⟨⟨k, left⟩, -, h⟩ := bind_eq_ok_iff.mp h
  dsimp only at h
  split at h
  · obtain ⟨⟨v, left⟩, hv, h⟩ := bind_eq_ok_iff.mp h
    obtain ⟨d'', hd'', h⟩ := bind_eq_ok_iff.mp h
    obtain ⟨rfl, -⟩ := Prod.mk.inj (Except.ok.inj h)
    exact hd.put (isTidy_of_value hv) hd''
  · cases h

theorem isTidy_of_header (hd : d.IsTidy) (h : header d cs = .ok (d', rest)) : d'.IsTidy := by
  unfold header at h
  split at h
  · obtain ⟨⟨k, left⟩, -, h⟩ := bind_eq_ok_iff.mp h
    obtain ⟨d'', hd'', h⟩ := bind_eq_ok_iff.mp h
    split at h
    · obtain ⟨rfl, -⟩ := Prod.mk.inj (Except.ok.inj h)
      exact hd.endTable.openArrayTable hd''
    · cases h
  · obtain ⟨⟨k, left⟩, -, h⟩ := bind_eq_ok_iff.mp h
    obtain ⟨d'', hd'', h⟩ := bind_eq_ok_iff.mp h
    split at h
    · obtain ⟨rfl, -⟩ := Prod.mk.inj (Except.ok.inj h)
      exact hd.endTable.openTable hd''
    · cases h

theorem isTidy_of_statement (hd : d.IsTidy) (h : statement d cs = .ok (d', rest)) : d'.IsTidy := by
  unfold statement at h
  split at h
  · exact isTidy_of_header hd h
  · obtain ⟨rfl, -⟩ := Prod.mk.inj (Except.ok.inj h)
    exact hd
  · split_ifs at h
    exact isTidy_of_entry hd h
  · obtain ⟨rfl, -⟩ := Prod.mk.inj (Except.ok.inj h)
    exact hd

theorem isTidy_of_statements {fuel : ℕ} (hd : d.IsTidy) (h : statements fuel d cs = .ok d') : d'.IsTidy := by
  induction fuel generalizing d cs with
  | zero =>
    obtain rfl := Except.ok.inj h
    exact hd
  | succ fuel ih =>
    unfold statements at h
    split at h
    · obtain rfl := Except.ok.inj h
      exact hd
    · exact ih hd h
    · obtain ⟨⟨d'', left⟩, hd'', h⟩ := bind_eq_ok_iff.mp h
      have htidy := isTidy_of_statement hd hd''
      obtain ⟨left, -, h⟩ := bind_eq_ok_iff.mp h
      split at h
      · obtain rfl := Except.ok.inj h
        exact htidy
      · exact ih htidy h
      · cases h

/-- A document that is read has no name twice in a table. -/
theorem areTidy_of_parse {s : String} {es : Entries} (h : parse s = .ok (.map es)) : AreTidy es := by
  unfold parse at h
  dsimp only at h
  cases hread : statements ((joinLineEnds s.toList).length + 1) {} (joinLineEnds s.toList) with
  | error e =>
    rw [hread] at h
    cases h
  | ok d =>
    rw [hread] at h
    obtain rfl := Value.map.inj (Except.ok.inj h)
    exact isTidy_of_statements Draft.isTidy_empty hread

end Statements

end Toml

end Runbook
