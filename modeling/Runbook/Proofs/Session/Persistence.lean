import Runbook.Execution.Perform
import Runbook.Proofs.Session.Again
import Runbook.Proofs.Session.RoundTrip
import Runbook.Proofs.Session.Secrecy
import Runbook.Proofs.Value.Calendar
import Runbook.Proofs.Workflow.Build

/-! What steps see of a session after it was saved and read back. Values are read back as those of JSON: templates
show the same unless that has another text, and a condition comes to the same unless it asks for what was lost. -/

namespace Runbook

open Json

/-! ## What becomes of a value -/

/-- Some bytes are read as some text. -/
theorem Text.Utf8.isEmpty_of_decode {bs : List UInt8} {s : String} (h : decode bs = .ok s) :
    s.isEmpty = bs.isEmpty := by
  obtain ⟨cs, hcs, rfl⟩ := Except.exists_of_map_eq_ok h
  cases bs with
  | nil =>
    rw [natsOf, List.map_nil, pieces] at hcs
    obtain rfl := Except.ok.inj hcs
    rfl
  | cons b bs =>
    rw [natsOf, List.map_cons, pieces] at hcs
    generalize next b.toNat (bs.map (·.toNat)) = piece at hcs
    obtain ⟨flaw | c, n⟩ := piece
    · cases hcs
    · obtain ⟨more, -, rfl⟩ := Except.exists_of_map_eq_ok hcs
      simp

namespace Value

/-- A value and what is read back of it, with as much as conditions can ask for. -/
inductive Becomes : Value → Value → Prop where
  | same (v : Value) : Becomes v v
  | unbounded {x : Binary64} (hx : x.isFinite = false) : Becomes (.num x) .null
  | bytes {bs : List UInt8} {s : String} (h : s.isEmpty = bs.isEmpty) : Becomes (.bytes bs) (.text s)
  | date (d : Date) : Becomes (.date d) (.text d.iso)
  | moment (m : Moment) : Becomes (.moment m) (.text m.plain)
  | list {xs ys : List Value} (h : ys.isEmpty = xs.isEmpty) : Becomes (.list xs) (.list ys)
  | tuple {xs ys : List Value} (h : ys.isEmpty = xs.isEmpty) : Becomes (.tuple xs) (.list ys)
  | set {xs ys : List Value} (h : ys.isEmpty = xs.isEmpty) : Becomes (.set xs) (.list ys)
  | map {es fs : List (Value × Value)} (h : fs.isEmpty = es.isEmpty) : Becomes (.map es) (.map fs)

theorem isEmpty_rereadEach {xs ws : List Value} (h : plainList xs = .ok ws) :
    (rereadEach ws).isEmpty = xs.isEmpty := by
  cases xs with
  | nil =>
    rw [plainList] at h
    obtain rfl := Except.ok.inj h
    rfl
  | cons x xs =>
    rw [plainList] at h
    split at h
    · cases h
    · obtain ⟨us, -, rfl⟩ := Except.exists_of_map_eq_ok h
      rfl

theorem isEmpty_insertMember (done : List (Value × Value)) (k : String) (v : Value) :
    (insertMember done k v).isEmpty = false := by
  cases done with
  | nil => rfl
  | cons e done =>
    unfold insertMember
    split_ifs <;> rfl

theorem isEmpty_rereadOnto {done es : List (Value × Value)} (h : done.isEmpty = false) :
    (rereadOnto done es).isEmpty = false := by
  induction es generalizing done with
  | nil => exact h
  | cons e es ih =>
    rw [rereadOnto]
    exact ih (isEmpty_insertMember done _ _)

theorem isEmpty_rereadOnto_nil {es ws : List (Value × Value)} (h : plainEntries es = .ok ws) :
    (rereadOnto [] ws).isEmpty = es.isEmpty := by
  cases es with
  | nil =>
    rw [plainEntries] at h
    obtain rfl := Except.ok.inj h
    rfl
  | cons e es =>
    rw [plainEntries] at h
    split at h
    · cases h
    · cases h
    · obtain ⟨us, -, rfl⟩ := Except.exists_of_map_eq_ok h
      rw [rereadOnto]
      exact isEmpty_rereadOnto rfl

theorem becomes_stored (v : Value) : v.Becomes v.stored := by
  cases hplain : v.plain with
  | error e =>
    unfold stored
    rw [hplain]
    exact .same v
  | ok w =>
    rw [stored_of_plain hplain]
    cases v with
    | null | bool | int | text =>
      rw [plain] at hplain
      obtain rfl := Except.ok.inj hplain
      exact .same _
    | num x =>
      rw [plain] at hplain
      obtain rfl := Except.ok.inj hplain
      split_ifs with hx
      · exact .same _
      · exact .unbounded (Bool.eq_false_iff.mpr hx)
    | bytes bs =>
      rw [plain, plainBytes] at hplain
      obtain ⟨s, hs, rfl⟩ := Except.exists_of_map_eq_ok hplain
      split at hs
      · rename_i hdecode
        obtain rfl := Except.ok.inj hs
        exact .bytes (Text.Utf8.isEmpty_of_decode hdecode)
      · cases hs
    | date d =>
      rw [plain] at hplain
      obtain rfl := Except.ok.inj hplain
      exact .date d
    | moment m =>
      rw [plain] at hplain
      obtain rfl := Except.ok.inj hplain
      exact .moment m
    | list xs =>
      rw [plain] at hplain
      obtain ⟨ws, hws, rfl⟩ := Except.exists_of_map_eq_ok hplain
      exact .list (isEmpty_rereadEach hws)
    | tuple xs =>
      rw [plain] at hplain
      obtain ⟨ws, hws, rfl⟩ := Except.exists_of_map_eq_ok hplain
      exact .tuple (isEmpty_rereadEach hws)
    | set xs =>
      rw [plain] at hplain
      obtain ⟨ws, hws, rfl⟩ := Except.exists_of_map_eq_ok hplain
      exact .set (isEmpty_rereadEach hws)
    | map es =>
      rw [plain] at hplain
      obtain ⟨ws, hws, rfl⟩ := Except.exists_of_map_eq_ok hplain
      exact .map (isEmpty_rereadOnto_nil hws)

/-! ## What conditions ask of a value -/

/-- A number that is not finite; it is read back as null. -/
def isUnbounded : Value → Bool
  | .num x => !x.isFinite
  | _ => false

def isBytes : Value → Bool
  | .bytes _ => true
  | _ => false

/-- A value that is no text and is read back as one. -/
def turnsText : Value → Bool
  | .bytes _ => true
  | .date _ => true
  | .moment _ => true
  | _ => false

/-- A value of which the number is not lost, if it has one, and which does not become one. -/
structure KeepsNumber (v : Value) : Prop where
  bounded : v.isUnbounded = false
  not_bytes : v.isBytes = false

/-- A value with a text for comparisons that is not lost: it is read back as it was, or it is a date. -/
def KeepsText (v : Value) : Prop := v.IsJson ∨ ∃ d, v = .date d

namespace Becomes

variable {v w : Value}

theorem isTrue_eq (h : v.Becomes w) : Condition.isTrue (some w) = Condition.isTrue (some v) := by
  cases h <;> rfl

theorem holds_eq (h : v.Becomes w) (hv : v.isUnbounded = false) : w.holds = v.holds := by
  cases h with
  | same => rfl
  | unbounded hx => simp [isUnbounded, hx] at hv
  | bytes h => exact congrArg (!·) h
  | date d => simpa [holds] using (isCalendar_iso d).ne_nil
  | moment m => simpa [holds] using (isCalendar_plain m).ne_nil
  | list h => exact congrArg (!·) h
  | tuple h => exact congrArg (!·) h
  | set h => exact congrArg (!·) h
  | map h => exact congrArg (!·) h

theorem asText?_eq (h : v.Becomes w) (hv : v.turnsText = false) : w.asText? = v.asText? := by
  cases h with
  | bytes | date | moment => cases hv
  | _ => rfl

theorem number?_eq (h : v.Becomes w) (hv : v.KeepsNumber) : Condition.number? w = Condition.number? v := by
  cases h with
  | unbounded hx => simpa [isUnbounded, hx] using hv.bounded
  | bytes => cases hv.not_bytes
  | date d => exact congrArg Except.ok (Decimal.readFloat?_of_isCalendar (isCalendar_iso d))
  | moment m => exact congrArg Except.ok (Decimal.readFloat?_of_isCalendar (isCalendar_plain m))
  | _ => rfl

end Becomes

theorem KeepsText.comparedText_eq {v : Value} (h : v.KeepsText) :
    Condition.comparedText v.stored = Condition.comparedText v := by
  rcases h with hjson | ⟨d, rfl⟩
  · rw [hjson.stored_eq]
  · rw [stored_of_plain (w := .text d.iso) (by rw [plain])]
    rfl

theorem KeepsText.number?_eq {v : Value} (h : v.KeepsText) : Condition.number? v.stored = Condition.number? v := by
  rcases h with hjson | ⟨d, rfl⟩
  · rw [hjson.stored_eq]
  · exact (becomes_stored (.date d)).number?_eq ⟨rfl, rfl⟩

end Value

/-! ## Conditions -/

def Comparison.isEquality : Comparison → Bool
  | .equal => true
  | .notEqual => true
  | _ => false

namespace Condition

/-- What the condition asks of a value is the same of what is read back. -/
inductive Keeps : Condition → Value → Prop where
  | constant (b : Bool) (v : Value) : Keeps (.constant b) v
  | approved (v : Value) : Keeps .approved v
  | fileExists (v : Value) : Keeps .fileExists v
  | bare {name : String} {v : Value} (h : v.isUnbounded = false) : Keeps (.bare name) v
  | equals {name arg : String} {v : Value} (h : v.KeepsText) : Keeps (.bar .equals name arg) v
  | contains {name arg : String} {v : Value} (h : v.turnsText = false) : Keeps (.bar .contains name arg) v
  | greaterThan {name arg : String} {v : Value} (h : v.KeepsNumber) : Keeps (.bar .greaterThan name arg) v
  | lessThan {name arg : String} {v : Value} (h : v.KeepsNumber) : Keeps (.bar .lessThan name arg) v
  | equality {op : Comparison} {left right : String} {v : Value} (hop : op.isEquality = true) (h : v.KeepsText) :
      Keeps (.compare op left right) v
  | order {op : Comparison} {left right : String} {v : Value} (hop : op.isEquality = false) (h : v.KeepsNumber) :
      Keeps (.compare op left right) v

/-- The same value or none, or a value of which the condition asks nothing that is lost, and what is read back of
it. -/
inductive SameAsked (c : Condition) : Option Value → Option Value → Prop where
  | same (o : Option Value) : SameAsked c o o
  | stored {v : Value} (hv : c.Keeps v) : SameAsked c (some v) (some v.stored)

theorem looselyEqual_congr {l l' r r' : Value} (hl : number? l' = number? l) (hr : number? r' = number? r)
    (hl' : comparedText l' = comparedText l) (hr' : comparedText r' = comparedText r) :
    looselyEqual l' r' = looselyEqual l r := by
  unfold looselyEqual numbers?
  rw [hl, hr, hl', hr']

theorem compareValues_congr (op : Comparison) {l l' r r' : Value} (hl : number? l' = number? l)
    (hr : number? r' = number? r)
    (htexts : op.isEquality = true → comparedText l' = comparedText l ∧ comparedText r' = comparedText r) :
    compareValues op l' r' = compareValues op l r := by
  have hordered (test : Binary64 → Binary64 → Bool) : ordered test l' r' = ordered test l r := by
    unfold ordered numbers?
    rw [hl, hr]
  cases op with
  | equal => exact looselyEqual_congr hl hr (htexts rfl).1 (htexts rfl).2
  | notEqual => exact congrArg (Except.map (!·)) (looselyEqual_congr hl hr (htexts rfl).1 (htexts rfl).2)
  | atLeast => exact hordered _
  | atMost => exact hordered _
  | greater => exact hordered _
  | less => exact hordered _

namespace SameAsked

theorem isTrue_eq {c : Condition} {o o' : Option Value} (h : SameAsked c o o') : isTrue o' = isTrue o := by
  cases h with
  | same => rfl
  | @stored v hv => exact v.becomes_stored.isTrue_eq

theorem barHolds_eq {test : BarTest} {name arg : String} {o o' : Option Value}
    (h : SameAsked (.bar test name arg) o o') : barHolds test o' arg = barHolds test o arg := by
  cases h with
  | same => rfl
  | @stored v hv =>
    have hbecomes := v.becomes_stored
    cases hv with
    | equals h => exact looselyEqual_congr h.number?_eq rfl h.comparedText_eq rfl
    | contains h =>
      unfold barHolds
      dsimp only
      rw [hbecomes.asText?_eq h]
    | greaterThan h => exact compareValues_congr .greater (hbecomes.number?_eq h) rfl nofun
    | lessThan h => exact compareValues_congr .less (hbecomes.number?_eq h) rfl nofun

theorem bare_eq {name : String} {o o' : Option Value} (h : SameAsked (.bare name) o o') :
    (o'.map Value.holds).getD false = (o.map Value.holds).getD false := by
  cases h with
  | same => rfl
  | @stored v hv =>
    cases hv with
    | bare h => exact v.becomes_stored.holds_eq h

theorem operand {op : Comparison} {left right : String} {o o' : Option Value}
    (h : SameAsked (.compare op left right) o o') (other : Value) :
    number? (o'.getD other) = number? (o.getD other) ∧
      (op.isEquality = true → comparedText (o'.getD other) = comparedText (o.getD other)) := by
  cases h with
  | same => exact ⟨rfl, fun _ => rfl⟩
  | @stored v hv =>
    cases hv with
    | equality hop h => exact ⟨h.number?_eq, fun _ => h.comparedText_eq⟩
    | order hop h => exact ⟨v.becomes_stored.number?_eq h, fun h => by rw [hop] at h; cases h⟩

end SameAsked

/-- A condition comes to the same if it asks of no value what is lost. -/
theorem holds_eq_of_sameAsked {c : Condition} {b d : Bindings}
    (h : ∀ n ∈ c.names, SameAsked c (lookup? b n) (lookup? d n)) : c.holds d = c.holds b := by
  cases c with
  | constant t => rfl
  | approved => exact congrArg Except.ok (h "approved" (by simp [names])).isTrue_eq
  | fileExists =>
    unfold holds
    rw [(h "fileExists" (by simp [names])).isTrue_eq, (h "exists" (by simp [names])).isTrue_eq]
  | bar test name arg => exact (h name (by simp [names])).barHolds_eq
  | compare op left right =>
    obtain ⟨hl, hl'⟩ := (h left (by simp [names])).operand (literal left)
    obtain ⟨hr, hr'⟩ := (h right (by simp [names])).operand (literal right)
    exact compareValues_congr _ hl hr fun hop => ⟨hl' hop, hr' hop⟩
  | bare name => exact congrArg Except.ok (h name (by simp [names])).bare_eq

end Condition

/-! ## Templates -/

namespace Value

/-- A value that is written as JSON as what is read back of it: numbers are finite, integers are short, and keys of
maps have different texts, the same in JSON as in a map with texts for keys. -/
inductive IsWritten : Value → Prop where
  | null : IsWritten .null
  | bool (b : Bool) : IsWritten (.bool b)
  | int {n : ℤ} (hn : IsShort n) : IsWritten (.int n)
  | num {x : Binary64} (hx : x.isFinite = true) : IsWritten (.num x)
  | text (s : String) : IsWritten (.text s)
  | list {xs : List Value} (hxs : ∀ x ∈ xs, IsWritten x) : IsWritten (.list xs)
  | tuple {xs : List Value} (hxs : ∀ x ∈ xs, IsWritten x) : IsWritten (.tuple xs)
  | map {es : List (Value × Value)} (hkeys : ∀ e ∈ es, ∃ k, e.1.plainKey = .ok k ∧ keyText? e.1 = some k)
      (hnames : (es.map fun e => keyText? e.1).Nodup) (hes : ∀ e ∈ es, IsWritten e.2) : IsWritten (.map es)

/-- The value can be written, and what is read back of it is written as the same text. -/
def PrintsAlike (l : Layout) (d : ℕ) (v : Value) : Prop :=
  ∃ w, v.plain = .ok w ∧ print? l d (reread w) = print? l d v ∧ (print? l d v).isSome = true

variable {l : Layout} {d : ℕ}

theorem IsPortable.printsAlike {v : Value} (h : v.IsPortable) : PrintsAlike l d v :=
  ⟨v, h.isJson.plain_and_reread.1, by rw [h.isJson.plain_and_reread.2], h.isSome_print? l d⟩

theorem printEach?_of_printsAlike {xs : List Value} (h : ∀ x ∈ xs, PrintsAlike l d x) :
    ∃ ws, plainList xs = .ok ws ∧ printEach? l d (rereadEach ws) = printEach? l d xs := by
  induction xs with
  | nil => exact ⟨[], by rw [plainList], by rw [rereadEach]⟩
  | cons x xs ih =>
    obtain ⟨w, hplain, hprint, -⟩ := h x List.mem_cons_self
    obtain ⟨ws, hplains, hprints⟩ := ih fun y hy => h y (List.mem_cons_of_mem x hy)
    refine ⟨w :: ws, ?_, ?_⟩
    · rw [plainList, hplain, hplains]
      rfl
    · rw [rereadEach, printEach?, printEach?, hprint, hprints]

/-- Lists and tuples are written item by item. -/
theorem printItems?_of_printsAlike {xs : List Value} (h : ∀ x ∈ xs, PrintsAlike l (d + 1) x) :
    ∃ ws, plainList xs = .ok ws ∧ printItems? l d (rereadEach ws) = printItems? l d xs ∧
      (printItems? l d xs).isSome = true := by
  obtain ⟨ws, hplain, hprint⟩ := printEach?_of_printsAlike h
  refine ⟨ws, hplain, ?_, ?_⟩
  · unfold printItems?
    rw [hprint]
  · have hlist := isSome_print?_list l d xs
    rw [print?] at hlist
    rw [hlist, List.all_eq_true]
    exact fun x hx => (h x hx).choose_spec.2.2

theorem printsAlike_of_items {v : Value} {xs : List Value} (hplain : v.plain = (plainList xs).map .list)
    (hprint : print? l d v = printItems? l d xs) (h : ∀ x ∈ xs, PrintsAlike l (d + 1) x) : PrintsAlike l d v := by
  obtain ⟨ws, hplains, hprints, hsome⟩ := printItems?_of_printsAlike h
  refine ⟨.list ws, ?_, ?_, ?_⟩
  · rw [hplain, hplains]
    rfl
  · rw [reread, print?, hprint, hprints]
  · rw [hprint, hsome]

theorem printMembers?_of_printsAlike {es : List (Value × Value)}
    (hkeys : ∀ e ∈ es, ∃ k, e.1.plainKey = .ok k ∧ keyText? e.1 = some k) (h : ∀ e ∈ es, PrintsAlike l d e.2) :
    ∃ b : Bindings, plainEntries es = .ok (b.map fun e => (.text e.1, e.2)) ∧
      b.names.map some = es.map (fun e => keyText? e.1) ∧
      printMembers? l d (b.map fun e => (.text e.1, reread e.2)) = printMembers? l d es ∧
      (printMembers? l d es).isSome = true := by
  induction es with
  | nil => exact ⟨[], by rw [plainEntries]; rfl, rfl, by rw [List.map_nil], by rw [printMembers?]; rfl⟩
  | cons e es ih =>
    obtain ⟨k, hplainKey, hkey⟩ := hkeys e List.mem_cons_self
    obtain ⟨w, hplain, hprint, hsome⟩ := h e List.mem_cons_self
    obtain ⟨b, hplains, hnames, hprints, hsomes⟩ :=
      ih (fun e he => hkeys e (List.mem_cons_of_mem _ he)) fun e he => h e (List.mem_cons_of_mem _ he)
    obtain ⟨t, ht⟩ := Option.isSome_iff_exists.mp hsome
    obtain ⟨ms, hms⟩ := Option.isSome_iff_exists.mp hsomes
    refine ⟨(k, w) :: b, ?_, ?_, ?_, ?_⟩
    · rw [plainEntries, hplainKey, hplain, hplains]
      rfl
    · rw [List.map_cons, hkey, ← hnames]
      rfl
    · rw [List.map_cons, printMembers?, printMembers?, keyText?, hkey, hprint, hprints]
    · rw [printMembers?, hkey, ht, hms]
      rfl

theorem IsWritten.printsAlike {v : Value} (h : v.IsWritten) (d : ℕ) : PrintsAlike l d v := by
  induction h generalizing d with
  | null => exact IsPortable.null.printsAlike
  | bool b => exact (IsPortable.bool b).printsAlike
  | int hn => exact (IsPortable.int hn).printsAlike
  | num hx => exact (IsPortable.num hx).printsAlike
  | text s => exact (IsPortable.text s).printsAlike
  | list hxs ih => exact printsAlike_of_items (by rw [plain]) (by rw [print?]) fun x hx => ih x hx (d + 1)
  | tuple hxs ih => exact printsAlike_of_items (by rw [plain]) (by rw [print?]) fun x hx => ih x hx (d + 1)
  | map hkeys hnames hes ih =>
    obtain ⟨b, hplain, hkeys, hprint, hsome⟩ := printMembers?_of_printsAlike hkeys fun e he => ih e he (d + 1)
    have hnodup : b.names.Nodup := List.Nodup.of_map some (hkeys ▸ hnames)
    refine ⟨.obj b, ?_, ?_, ?_⟩
    · rw [plain, hplain]
      rfl
    · rw [reread_obj_of_nodup hnodup, Value.obj, List.map_map, print?, print?, ← hprint]
      rfl
    · rw [isSome_print?_map, hsome]

/-- A value that a template shows as the same text after it was saved and read back. -/
def KeepsShown (v : Value) : Prop := v.IsWritten ∨ ∃ d, v = .date d

theorem valueText_of_isText {v : Value} (hv : v.isText = false) :
    Template.valueText v = (line? v).getD v.display := by
  unfold Template.valueText
  split
  · cases hv
  · rfl

theorem Becomes.isText_eq {v w : Value} (h : v.Becomes w) (hv : v.turnsText = false) : w.isText = v.isText := by
  cases h with
  | bytes | date | moment => cases hv
  | _ => rfl

theorem IsWritten.turnsText_eq {v : Value} (h : v.IsWritten) : v.turnsText = false := by
  cases h <;> rfl

theorem KeepsShown.valueText_eq {v : Value} (h : v.KeepsShown) :
    Template.valueText v.stored = Template.valueText v := by
  rcases h with hwritten | ⟨d, rfl⟩
  · obtain ⟨w, hplain, hprint, hsome⟩ := hwritten.printsAlike (l := oneLine) 0
    obtain ⟨t, ht⟩ := Option.isSome_iff_exists.mp hsome
    have hstored : v.stored = reread w := stored_of_plain hplain
    cases htext : v.isText with
    | true =>
      cases hwritten with
      | text s => rw [(IsJson.text s).stored_eq]
      | _ => cases htext
    | false =>
      have htext' : v.stored.isText = false := by rw [v.becomes_stored.isText_eq hwritten.turnsText_eq, htext]
      rw [valueText_of_isText htext, valueText_of_isText htext', line?, line?, hstored, hprint, ht]
      rfl
  · have hline : line? (.date d) = none := by rw [line?, print?]
    rw [stored_of_plain (w := .text d.iso) (by rw [plain]), (IsJson.text d.iso).plain_and_reread.2,
      valueText_of_isText (v := .date d) rfl, hline]
    rfl

end Value

/-! ## Variables -/

namespace Bindings

/-- The same name with the same value, or with what is read back of the value that it had. -/
structure RestoredEntry (kept : Bindings) (e e' : String × Value) : Prop where
  name_eq : e'.1 = e.1
  value : e'.2 = e.2 ∨ e ∈ kept ∧ e'.2 = e.2.stored

/-- The same names in the same order, some of them with what is read back of their values. -/
def Restored (kept b c : Bindings) : Prop := List.Forall₂ (RestoredEntry kept) b c

variable {kept b c more : Bindings}

theorem restored_stored (hnames : b.names.Nodup) : Restored b b b.stored := by
  have hstored : b.stored = b.map fun e => (e.1, e.2.stored) := by
    refine update_nil_of_nodup ?_
    simpa [names, Function.comp_def] using hnames
  rw [hstored, Restored, List.forall₂_map_right_iff, List.forall₂_same]
  exact fun e he => ⟨rfl, .inr ⟨he, rfl⟩⟩

namespace Restored

/-- A search by names finds the same value or none, or what is read back of the value. -/
theorem find? (h : Restored kept b c) (p : String → Bool) :
    (c.find? fun e => p e.1).map (·.2) = (b.find? fun e => p e.1).map (·.2) ∨
      ∃ e ∈ kept, p e.1 = true ∧ (b.find? fun e => p e.1).map (·.2) = some e.2 ∧
        (c.find? fun e => p e.1).map (·.2) = some e.2.stored := by
  induction h with
  | nil => exact .inl rfl
  | @cons e e' b c he _ ih =>
    rw [List.find?_cons, List.find?_cons, he.name_eq]
    cases hpe : p e.1 with
    | false => exact ih
    | true =>
      rcases he.value with heq | ⟨hmem, heq⟩
      · exact .inl (congrArg some heq)
      · exact .inr ⟨e, hmem, hpe, rfl, congrArg some heq⟩

theorem set (h : Restored kept b c) (name : String) (v : Value) : Restored kept (b.set name v) (c.set name v) := by
  induction h with
  | nil => exact .cons ⟨rfl, .inl rfl⟩ .nil
  | @cons d d' b c hd htail ih =>
    unfold Bindings.set
    rw [hd.name_eq]
    split_ifs
    · exact .cons ⟨rfl, .inl rfl⟩ htail
    · exact .cons ⟨rfl, hd.value⟩ ih

theorem update (h : Restored kept b c) (more : Bindings) : Restored kept (b.update more) (c.update more) := by
  induction more generalizing b c with
  | nil => exact h
  | cons e more ih => exact ih (h.set e.1 e.2)

end Restored

end Bindings

section

variable {kept b c : Bindings}

theorem Template.fill_eq_of_restored (h : kept.Restored b c) {template : String}
    (hshown : ∀ n ∈ placeholders template, ∀ v, b.get? n = some v → v.KeepsShown) :
    fill template c = fill template b := by
  refine fill_congr fun n hn => ?_
  rcases h.find? (· == n) with heq | ⟨e, -, -, hb, hc⟩
  · exact congrArg (Option.map valueText) heq
  · rw [show c.get? n = some e.2.stored from hc, show b.get? n = some e.2 from hb]
    exact congrArg some (hshown n hn e.2 hb).valueText_eq

theorem Condition.lookup?_of_restored (h : kept.Restored b c) (n : String) :
    lookup? c n = lookup? b n ∨ ∃ e ∈ kept, Unicode.toLower e.1 = Unicode.toLower n ∧
      lookup? b n = some e.2 ∧ lookup? c n = some e.2.stored := by
  unfold lookup?
  rcases h.find? (· == n) with heq | ⟨e, he, hname, hb, hc⟩
  · rw [show c.get? n = b.get? n from heq]
    cases b.get? n with
    | some v => exact .inl rfl
    | none =>
      rcases h.find? (Unicode.toLower · == Unicode.toLower n) with heq | ⟨e, he, hname, hb, hc⟩
      · exact .inl heq
      · exact .inr ⟨e, he, by simpa using hname, hb, hc⟩
  · rw [show c.get? n = some e.2.stored from hc, show b.get? n = some e.2 from hb]
    exact .inr ⟨e, he, congrArg Unicode.toLower (by simpa using hname), rfl, rfl⟩

/-- A condition that asks of no value what is lost comes to the same. -/
theorem Condition.holds_eq_of_restored (h : kept.Restored b c) {condition : Condition}
    (hkeeps : ∀ n ∈ condition.names, ∀ e ∈ kept, Unicode.toLower e.1 = Unicode.toLower n →
      lookup? b n = some e.2 → condition.Keeps e.2) : condition.holds c = condition.holds b := by
  refine holds_eq_of_sameAsked fun n hn => ?_
  rcases lookup?_of_restored h n with heq | ⟨e, he, hname, hb, hc⟩
  · rw [heq]
    exact .same _
  · rw [hb, hc]
    exact .stored (hkeeps n hn e he hname hb)

end

/-! ## Steps of a session that was saved -/

/-- The step sees nothing of the variables that is lost when they are saved: what its texts show is kept, and so is
what its conditions ask for. -/
structure Step.SeesKept (step : Step) (b : Bindings) : Prop where
  texts : ∀ t ∈ step.task.templates, ∀ n ∈ Template.placeholders t, ∀ v, b.get? n = some v → v.KeepsShown
  conditions : ∀ c ∈ step.task.conditions, ∀ n ∈ (Condition.read c).names, ∀ e ∈ b,
    Unicode.toLower e.1 = Unicode.toLower n → (Condition.read c).Keeps e.2

namespace Repository

variable {w : Workflow} {given : Bindings} {id now : String} {store : Store} {f g : Files}

/-- A step that sees nothing that is lost does the same once the session was saved and read back. -/
theorem perform_eq_of_stored {σ : Type} (services : Services σ) {s : Session} (hnames : s.variables.names.Nodup)
    {step : Step} (hstep : step.SeesKept s.variables) :
    Execution.perform services s.stored (step.fill s.stored.variables) =
      Execution.perform services s (step.fill s.variables) := by
  have hrestored := Bindings.restored_stored hnames
  have hfill : step.fill s.stored.variables = step.fill s.variables :=
    congrArg (fun task => { step with task }) <| Task.fill_congr fun t ht =>
      Template.fill_eq_of_restored hrestored (hstep.texts t ht)
  have hconditions : (step.fill s.variables).task.conditions = step.task.conditions :=
    Task.conditions_fill s.variables step.task
  have hcheck : s.variables.Restored (Execution.checkBindings s) (Execution.checkBindings s.stored) := by
    unfold Execution.checkBindings
    rw [show s.stored.history.length = s.history.length from List.length_map _]
    exact hrestored.update _
  rw [hfill]
  refine Execution.perform_congr services rfl (fun c hc => ?_) fun c hc => ?_
  · have hkeeps := hstep.conditions c (hconditions ▸ hc)
    exact Condition.holds_eq_of_restored hcheck fun n hn e he hname _ => hkeeps n hn e he hname
  · have hkeeps := hstep.conditions c (hconditions ▸ hc)
    exact Condition.holds_eq_of_restored (hrestored.update _) fun n hn e he hname _ => hkeeps n hn e he hname

/-- Templates and conditions come to the same before a new session is saved and after it is loaded, and so do steps,
unless they see of a variable what is lost. -/
theorem persisting_keeps_what_is_seen {doc : Value} (hbuild : Workflow.build doc = .ok w)
    (hsave : save store (initial w given id now) f = (.ok (), g)) (later : String) :
    ∃ t, load store g later ⟨w.name, id⟩ = .ok t ∧
      (∀ template, (∀ n ∈ Template.placeholders template, ∀ v,
          (initial w given id now).variables.get? n = some v → v.KeepsShown) →
        Template.fill template t.variables = Template.fill template (initial w given id now).variables) ∧
      (∀ text, (∀ n ∈ (Condition.read text).names, ∀ v,
          Condition.lookup? (initial w given id now).variables n = some v → (Condition.read text).Keeps v) →
        Condition.evaluate text t.variables = Condition.evaluate text (initial w given id now).variables) ∧
      ∀ (σ : Type) (services : Services σ) (step : Step), step.SeesKept (initial w given id now).variables →
        Execution.perform services t (step.fill t.variables) =
          Execution.perform services (initial w given id now) (step.fill (initial w given id now).variables) := by
  have hnames : (initial w given id now).variables.names.Nodup :=
    Bindings.nodup_names_update (Workflow.nodup_variables_of_build hbuild) given
  have hrestored := Bindings.restored_stored hnames
  refine ⟨(initial w given id now).stored, load_of_saved (saved_of_save hsave) later, fun template hshown => ?_,
    fun text hkeeps => ?_, fun σ services step hstep => perform_eq_of_stored services hnames hstep⟩
  · exact Template.fill_eq_of_restored hrestored hshown
  · exact Condition.holds_eq_of_restored hrestored fun n hn e _ _ hfound => hkeeps n hn e.2 hfound

/-! ## A variable that is shown and asked for -/

/-- A step that shows the variable, and one that compares it. -/
def showing (v : Value) : Workflow where
  name := "demo"
  «variables» := [("x", v)]
  steps := [
    ⟨"show", none, .shell "echo \x7b\x7bx\x7d\x7d" none⟩,
    ⟨"ask", none, .conditional "x == 2024-01-01 10:00:00" "show" none⟩]

/-- The document of the workflow. -/
def showingDocument (v : Value) : Value := .obj [
  ("name", .text "demo"),
  ("variables", .obj [("x", v)]),
  ("steps", .list [
    .obj [("id", .text "show"), ("action", .text "shell"), ("command", .text "echo \x7b\x7bx\x7d\x7d")],
    .obj [("id", .text "ask"), ("action", .text "conditional"), ("check", .text "x == 2024-01-01 10:00:00"),
      ("onTrue", .text "show")]])]

theorem build_showing (v : Value) : Workflow.build (showingDocument v) = .ok (showing v) := rfl

/-- A session of the workflow is saved where nothing is yet, if its variable is written as a text. -/
theorem exists_saved_showing {v : Value} {p : String} (hv : v.plain = .ok (.text p)) :
    ∃ g, save ⟨⟨true, ["state"]⟩⟩ (initial (showing v) [] "s" "t") {} = (.ok (), g) := by
  have hkey : (initial (showing v) [] "s" "t").key = ⟨"demo", "s"⟩ := rfl
  have hpath : (⟨"demo", "s"⟩ : SessionKey).path = .ok "demo/s.json" := rfl
  have hwrite (data : List UInt8) : ((⟨⟨true, ["state"]⟩⟩ : Store).write "demo/s.json" data {}).1 = .ok () :=
    Store.write_ok_of_isOk (by decide +kernel : ((⟨⟨true, ["state"]⟩⟩ : Store).write "demo/s.json" [] {}).1.isOk = true)
      data
  have hvars : Value.plainBindings (initial (showing v) [] "s" "t").variables = .ok (.obj [("x", .text p)]) := by
    rw [show (initial (showing v) [] "s" "t").variables = [("x", v)] from rfl]
    simp [Value.plainBindings, Value.obj, Value.plain, Value.plainEntries, Value.plainKey, hv, Except.map]
  have hprint : (print? indented 1 (.obj [("x", .text p)])).isSome = true := by
    rw [isSome_print?_obj]
    simp [print?]
  obtain ⟨text, htext⟩ := exists_fileText_of_variables hvars hprint rfl rfl rfl
  have hok := hwrite (Text.Utf8.encode text)
  rcases hresult : (⟨⟨true, ["state"]⟩⟩ : Store).write "demo/s.json" (Text.Utf8.encode text) {} with ⟨r, g⟩
  rw [hresult] at hok
  obtain rfl : r = .ok () := hok
  refine ⟨g, ?_⟩
  rw [save_apply, hkey, hpath, htext]
  exact hresult

def firstOfYear : Date := ⟨2024, 1, 1⟩

/-- The steps of the workflow see a date as it was. -/
theorem seesKept_showing (d : Date) : ∀ step ∈ (showing (.date d)).steps,
    step.SeesKept (initial (showing (.date d)) [] "s" "t").variables := by
  have hvariables : (initial (showing (.date d)) [] "s" "t").variables = [("x", .date d)] := rfl
  have hread : Condition.read "x == 2024-01-01 10:00:00" = .compare .equal "x" "2024-01-01 10:00:00" := by decide
  intro step hstep
  rw [hvariables]
  refine ⟨fun t _ n _ v hv => ?_, fun c hc n _ e he _ => ?_⟩
  · rw [Bindings.get?, Option.map_eq_some_iff] at hv
    obtain ⟨e, he, rfl⟩ := hv
    obtain rfl := List.mem_singleton.mp (List.mem_of_find?_eq_some he)
    exact .inr ⟨d, rfl⟩
  · obtain rfl := List.mem_singleton.mp he
    rcases List.mem_pair.mp hstep with rfl | rfl
    · cases hc
    · obtain rfl := List.mem_singleton.mp hc
      rw [hread]
      exact .equality rfl (.inr ⟨d, rfl⟩)

/-- A date is shown and compared as before. -/
theorem date_is_seen_as_before :
    ∃ g t, save ⟨⟨true, ["state"]⟩⟩ (initial (showing (.date firstOfYear)) [] "s" "t") {} = (.ok (), g) ∧
      load ⟨⟨true, ["state"]⟩⟩ g "u" ⟨"demo", "s"⟩ = .ok t ∧
      ∀ (services : Services Unit), ∀ step ∈ (showing (.date firstOfYear)).steps,
        Execution.perform services t (step.fill t.variables) =
          Execution.perform services (initial (showing (.date firstOfYear)) [] "s" "t")
            (step.fill (initial (showing (.date firstOfYear)) [] "s" "t").variables) := by
  have hplain : (Value.date firstOfYear).plain = .ok (.text firstOfYear.iso) := by rw [Value.plain]
  obtain ⟨g, hsave⟩ := exists_saved_showing hplain
  obtain ⟨t, hload, -, -, hsteps⟩ := persisting_keeps_what_is_seen (build_showing (.date firstOfYear)) hsave "u"
  exact ⟨g, t, hsave, hload, fun services step hstep =>
    hsteps _ services step (seesKept_showing firstOfYear step hstep)⟩

/-- Ten o'clock on the first of January. -/
def morning : Moment := ⟨firstOfYear, 10, 0, 0, 0, none⟩

theorem evaluate_at_ten {v : Value} {shown : String} (hnumber : Condition.number? v = .ok none)
    (htext : Condition.comparedText v = .ok shown) :
    Condition.evaluate "x == 2024-01-01 10:00:00" [("x", v)] = .ok (shown == "2024-01-01 10:00:00") := by
  have hread : Condition.read "x == 2024-01-01 10:00:00" = .compare .equal "x" "2024-01-01 10:00:00" := by decide
  have hleft : Condition.operand [("x", v)] "x" = v := rfl
  have hright : Condition.operand [("x", v)] "2024-01-01 10:00:00" = .text "2024-01-01 10:00:00" := rfl
  rw [Condition.evaluate, hread, Condition.holds, hleft, hright]
  simp only [Condition.compareValues, Condition.looselyEqual, Condition.numbers?, hnumber]
  rw [htext]
  rfl

/-- A moment is shown otherwise, and compared otherwise. -/
theorem exists_value_that_is_not_kept :
    ∃ doc w g t, Workflow.build doc = .ok w ∧
      save ⟨⟨true, ["state"]⟩⟩ (initial w [] "s" "t") {} = (.ok (), g) ∧
      load ⟨⟨true, ["state"]⟩⟩ g "u" ⟨w.name, "s"⟩ = .ok t ∧
      Template.fill "\x7b\x7bx\x7d\x7d" (initial w [] "s" "t").variables = "2024-01-01 10:00:00" ∧
      Template.fill "\x7b\x7bx\x7d\x7d" t.variables = "2024-01-01T10:00:00" ∧
      Condition.evaluate "x == 2024-01-01 10:00:00" (initial w [] "s" "t").variables = .ok true ∧
      Condition.evaluate "x == 2024-01-01 10:00:00" t.variables = .ok false := by
  have hplain : (Value.moment morning).plain = .ok (.text "2024-01-01T10:00:00") := by
    rw [Value.plain]
    exact congrArg (fun s => Except.ok (Value.text s)) (by decide)
  obtain ⟨g, hsave⟩ := exists_saved_showing hplain
  have hvariables : (initial (showing (.moment morning)) [] "s" "t").variables = [("x", .moment morning)] := rfl
  have hstored : (initial (showing (.moment morning)) [] "s" "t").stored.variables =
      [("x", .text "2024-01-01T10:00:00")] := by
    unfold Session.stored Bindings.stored
    rw [hvariables, List.map_singleton, Value.stored_of_plain hplain, (Value.IsJson.text _).plain_and_reread.2]
    rfl
  have hline : line? (.moment morning) = none := by rw [line?, print?]
  refine ⟨_, _, g, _, build_showing (.moment morning), hsave, load_of_saved (saved_of_save hsave) "u", ?_, ?_, ?_, ?_⟩
  · have hsegments : Template.segments "\x7b\x7bx\x7d\x7d" = [.hole ['x']] := by decide
    have hshown : Template.valueText (.moment morning) = "2024-01-01 10:00:00" := by
      rw [Value.valueText_of_isText rfl, hline]
      decide
    have hfound : Bindings.get? [("x", .moment morning)] (String.ofList ['x']) = some (.moment morning) := rfl
    rw [hvariables, Template.fill, hsegments, List.flatMap_singleton, Template.Segment.render, hfound]
    dsimp only
    rw [hshown, String.ofList_toList]
  · rw [hstored]
    decide +kernel
  · have hshown : Condition.comparedText (.moment morning) = .ok "2024-01-01 10:00:00" :=
      congrArg Except.ok (by decide : (Value.moment morning).display = "2024-01-01 10:00:00")
    rw [hvariables, evaluate_at_ten rfl hshown]
    exact congrArg Except.ok (by decide)
  · have hshown : Condition.comparedText (.text "2024-01-01T10:00:00") = .ok "2024-01-01T10:00:00" := rfl
    rw [hstored, evaluate_at_ten rfl hshown]
    exact congrArg Except.ok (by decide)

end Repository

end Runbook
