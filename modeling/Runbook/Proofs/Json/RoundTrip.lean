import Runbook.Proofs.Json.Number

/-! Reading what was written as JSON gives the value back, with lists for tuples, texts for keys and one
member for each key. -/

namespace Runbook.Json

open Text

/-! ## What remains of a value -/

mutual

/-- A value after it was written as JSON and read back. -/
def reread : Value → Value
  | .list xs => .list (rereadEach xs)
  | .tuple xs => .list (rereadEach xs)
  | .map es => .map (rereadOnto [] es)
  | v => v

def rereadEach : List Value → List Value
  | [] => []
  | v :: vs => reread v :: rereadEach vs

/-- The members read so far and those that follow; the last one under a key counts. -/
def rereadOnto (done : List (Value × Value)) : List (Value × Value) → List (Value × Value)
  | [] => done
  | (k, v) :: es => rereadOnto (insertMember done ((keyText? k).getD "") (reread v)) es

end

/-! ## Blanks -/

def Blanks (cs : List Char) : Prop := ∀ c ∈ cs, isSpace c = true

theorem skip_blanks {blanks rest : List Char} (h : Blanks blanks)
    (hrest : ∀ c ∈ rest.head?, isSpace c = false) : skip (blanks ++ rest) = rest := by
  unfold skip
  rw [List.dropWhile_append_of_pos h]
  cases rest with
  | nil => rfl
  | cons c rest => simp [hrest c rfl]

theorem endsNumber_of_isSpace {c : Char} (h : isSpace c = true) (rest : List Char) :
    EndsNumber (c :: rest) := by
  intro d hd
  obtain rfl := Option.some.inj hd
  simp only [isSpace, Bool.or_eq_true, decide_eq_true_eq] at h
  rcases h with ((rfl | rfl) | rfl) | rfl <;> decide

theorem endsNumber_blanks_append {blanks rest : List Char} (h : Blanks blanks) (hrest : EndsNumber rest) :
    EndsNumber (blanks ++ rest) := by
  cases blanks with
  | nil => exact hrest
  | cons c blanks => exact endsNumber_of_isSpace (h c List.mem_cons_self) _

/-- A layout puts nothing but blanks beside its commas and colons. -/
structure Layout.Readable (l : Layout) : Prop where
  start : ∀ d, Blanks (l.start d).toList
  between : ∀ d, ∃ blanks, (l.between d).toList = ',' :: blanks ∧ Blanks blanks
  finish : ∀ d, Blanks (l.finish d).toList
  colon : ∃ blanks, l.colon.toList = ':' :: blanks ∧ Blanks blanks

theorem blanks_newLine (d : ℕ) : Blanks (newLine d).toList := by
  intro c hc
  rw [newLine, String.toList_ofList] at hc
  rcases List.mem_cons.mp hc with rfl | hc
  · rfl
  · rw [List.eq_of_mem_replicate hc]
    rfl

theorem indented_readable : indented.Readable where
  start d := blanks_newLine (d + 1)
  between d := ⟨(newLine (d + 1)).toList, String.toList_append, blanks_newLine (d + 1)⟩
  finish d := blanks_newLine d
  colon := ⟨[' '], rfl, by simp [Blanks, isSpace]⟩

/-! ## Strings -/

theorem hexFour?_hexText {n : ℕ} (hn : n < 32) (rest : List Char) :
    hexFour? (hexText 4 n ++ rest) = some (n, rest) := by
  interval_cases n <;> rfl

theorem codePoint?_hexText {c : Char} (hc : c.toNat < 32) {rest : List Char} (hrest : rest ≠ []) :
    codePoint? (hexText 4 c.toNat ++ rest) = some (c, rest) := by
  obtain ⟨d, more, rfl⟩ := List.exists_cons_of_ne_nil hrest
  unfold codePoint?
  rw [hexFour?_hexText hc]
  simp only
  rw [if_neg (by omega), if_neg (by omega), Char.ofNat_toNat]

theorem readString_escape (opened fuel : ℕ) {e d : Char} (he : e ≠ 'u') (hd : simpleEscape? e = some d)
    (more : List Char) :
    readString opened (fuel + 1) ('\\' :: e :: more) =
      (readString opened fuel more).map fun (ds, left) => (d :: ds, left) := by
  cases hread : readString opened fuel more <;> simp [readString, hd, hread, Except.map]

theorem readString_escapedChar (opened fuel : ℕ) (c : Char) {more : List Char} (hmore : more ≠ []) :
    readString opened (fuel + 1) (escapedChar c ++ more) =
      (readString opened fuel more).map fun (ds, left) => (c :: ds, left) := by
  unfold escapedChar
  split_ifs with hquote hslash hline hreturn htab hpage hback hcontrol
  · exact readString_escape opened fuel (by decide) (by rw [hquote]; rfl) more
  · exact readString_escape opened fuel (by decide) (by rw [hslash]; rfl) more
  · exact readString_escape opened fuel (by decide) (by rw [hline]; rfl) more
  · exact readString_escape opened fuel (by decide) (by rw [hreturn]; rfl) more
  · exact readString_escape opened fuel (by decide) (by rw [htab]; rfl) more
  · exact readString_escape opened fuel (by decide) (by rw [hpage]; rfl) more
  · exact readString_escape opened fuel (by decide) (by rw [hback]; rfl) more
  · cases hread : readString opened fuel more <;>
      simp [readString, codePoint?_hexText hcontrol hmore, hread, Except.map]
  · cases hread : readString opened fuel more <;>
      simp [readString, hquote, hslash, hcontrol, hread, Except.map]

theorem readString_escaped (opened : ℕ) (cs rest : List Char) {fuel : ℕ} (hfuel : cs.length < fuel) :
    readString opened fuel (cs.flatMap escapedChar ++ '"' :: rest) = .ok (cs, rest) := by
  induction cs generalizing fuel with
  | nil =>
    obtain ⟨fuel, rfl⟩ := Nat.exists_eq_add_one_of_ne_zero (Nat.ne_of_gt hfuel)
    simp [readString]
  | cons c cs ih =>
    obtain ⟨fuel, rfl⟩ := Nat.exists_eq_add_one_of_ne_zero (Nat.ne_of_gt (Nat.zero_lt_of_lt hfuel))
    rw [List.flatMap_cons, List.append_assoc, readString_escapedChar opened fuel c (by simp),
      ih (by simpa using hfuel)]
    rfl

theorem length_le_length_escaped (cs : List Char) : cs.length ≤ (cs.flatMap escapedChar).length := by
  induction cs with
  | nil => exact le_rfl
  | cons c cs ih =>
    have hpos : 0 < (escapedChar c).length := by
      unfold escapedChar
      split_ifs <;> simp
    rw [List.flatMap_cons, List.length_append, List.length_cons]
    omega

theorem stringAt_escaped (cs rest : List Char) :
    stringAt (cs.flatMap escapedChar ++ '"' :: rest) = .ok (cs, rest) := by
  refine readString_escaped _ cs rest ?_
  have := length_le_length_escaped cs
  rw [List.length_append]
  omega

theorem toList_string (s : String) (rest : List Char) :
    (string s).toList ++ rest = '"' :: (s.toList.flatMap escapedChar ++ '"' :: rest) := by
  simp [string, stringChars]

/-! ## Numbers -/

theorem word?_of_isDigit {c : Char} (hc : c.isDigit = true) (cs : List Char) :
    word? (c :: cs) = none := by
  have hne (d : Char) (hd : d.isDigit = false) : (d == c) = false := by
    rw [beq_eq_false_iff_ne]
    rintro rfl
    rw [hc] at hd
    cases hd
  simp [word?, List.isPrefixOf?, hne]

theorem word?_of_minus {c : Char} (hc : c.isDigit = true) (cs : List Char) :
    word? ('-' :: c :: cs) = none := by
  have hne : ('I' == c) = false := by
    rw [beq_eq_false_iff_ne]
    rintro rfl
    cases hc
  simp [word?, List.isPrefixOf?, hne]

theorem readValue_of_isDigit {c : Char} (hc : c.isDigit = true) (fuel : ℕ) {cs : List Char}
    {r : Result Value} (hr : number? false (c :: cs) = some r) : readValue (fuel + 1) (c :: cs) = r := by
  unfold readValue
  split
  · rename_i heq
    obtain ⟨rfl, -⟩ := List.cons.inj heq
    exact absurd hc (by decide)
  · rename_i heq
    obtain ⟨rfl, -⟩ := List.cons.inj heq
    exact absurd hc (by decide)
  · rename_i heq
    obtain ⟨rfl, -⟩ := List.cons.inj heq
    exact absurd hc (by decide)
  · rw [word?_of_isDigit hc]
    simp only
    split
    · rename_i heq
      obtain ⟨rfl, -⟩ := List.cons.inj heq
      exact absurd hc (by decide)
    · rw [hr]
      rfl

theorem readValue_of_minus {c : Char} (hc : c.isDigit = true) (fuel : ℕ) {cs : List Char}
    {r : Result Value} (hr : number? true (c :: cs) = some r) :
    readValue (fuel + 1) ('-' :: c :: cs) = r := by
  unfold readValue
  simp only [word?_of_minus hc, hr, Option.getD_some]
  rfl

theorem integer?_reads_back {n : ℤ} {t : String} (h : integer? n = some t) (fuel : ℕ) {rest : List Char}
    (hrest : EndsNumber rest) : readValue (fuel + 1) (t.toList ++ rest) = .ok (.int n, rest) := by
  unfold integer? at h
  split_ifs at h with hlong
  obtain rfl := Option.some.inj h
  have hread (neg : Bool) := number?_natText neg (not_lt.mp hlong) hrest
  obtain ⟨c, ds, hds⟩ := List.exists_cons_of_ne_nil (Decimal.natText_ne_nil n.natAbs)
  have hc : c.isDigit = true := Decimal.isDigit_of_mem_natText (hds ▸ List.mem_cons_self)
  rw [hds, List.cons_append] at hread
  cases n with
  | ofNat k =>
    rw [intText, String.toList_ofList, show natText k = c :: ds from hds, List.cons_append]
    exact readValue_of_isDigit hc fuel (hread false)
  | negSucc k =>
    rw [intText, String.toList_ofList, show natText (k + 1) = c :: ds from hds, List.cons_append,
      List.cons_append]
    exact readValue_of_minus hc fuel (hread true)

theorem unsigned_head (r : Decimal.Digits) :
    ∃ c cs, Decimal.unsigned r = c :: cs ∧ c.isDigit = true := by
  obtain ⟨c, ds, hds⟩ := List.exists_cons_of_ne_nil (Decimal.natText_ne_nil r.digits)
  have hc : c.isDigit = true := Decimal.isDigit_of_mem_natText (hds ▸ List.mem_cons_self)
  unfold Decimal.unsigned Decimal.digitText Decimal.positional
  rw [hds]
  by_cases hplain : -4 < ((c :: ds).length : ℤ) + r.exp ∧ ((c :: ds).length : ℤ) + r.exp ≤ 16
  · rw [if_pos hplain]
    by_cases hpoint : ((c :: ds).length : ℤ) + r.exp ≤ 0
    · rw [if_pos hpoint]
      exact ⟨'0', _, rfl, rfl⟩
    · rw [if_neg hpoint]
      obtain ⟨k, hk⟩ := Nat.exists_eq_add_one_of_ne_zero
        (show (((c :: ds).length : ℤ) + r.exp).toNat ≠ 0 by omega)
      rw [hk]
      exact ⟨c, _, rfl, hc⟩
  · rw [if_neg hplain]
    cases ds with
    | nil => exact ⟨c, _, rfl, hc⟩
    | cons d ds => exact ⟨c, _, rfl, hc⟩

/-- Every number reads back, the ones that are not finite as well. -/
theorem number_reads_back (x : Binary64) (fuel : ℕ) {rest : List Char} (hrest : EndsNumber rest) :
    readValue (fuel + 1) ((number x).toList ++ rest) = .ok (.num x, rest) := by
  cases x with
  | nan => rfl
  | infinite neg => cases neg <;> rfl
  | finite neg sig exp h =>
    by_cases hsig : sig = 0
    · subst hsig
      obtain rfl : exp = -1074 := by
        rcases h.2.2.2 with hexp | hpos
        · exact hexp
        · omega
      have hread (b : Bool) : number? b ('0' :: '.' :: ('0' :: rest)) =
          some (.ok (.num (Binary64.zero b), rest)) :=
        @number?_of_fraction b ['0'] ['0'] rest rfl (List.cons_ne_nil '0' []) (by simp) hrest
      cases neg with
      | false =>
        rw [show number (.finite false 0 (-1074) h) = "0.0" by simp [number, Decimal.display]]
        exact readValue_of_isDigit rfl fuel (hread false)
      | true =>
        rw [show number (.finite true 0 (-1074) h) = "-0.0" by simp [number, Decimal.display]]
        exact readValue_of_minus rfl fuel (hread true)
    · have hback := @Decimal.scaleTen_shortest neg sig exp hsig h
      have hdigits := @Decimal.shortest_digits_ne_zero neg sig exp hsig h
      have htext : number (.finite neg sig exp h) = String.ofList
          (Decimal.signed neg (Decimal.unsigned (Decimal.shortest (.finite neg sig exp h) neg sig exp))) := by
        simp only [number, Decimal.display, if_neg hsig]
      rw [htext, String.toList_ofList]
      generalize Decimal.shortest (.finite neg sig exp h) neg sig exp = r at hback hdigits
      obtain ⟨hlow, hhigh⟩ := Decimal.point_range hdigits hsig hback
      have hread := number?_unsigned neg hdigits hlow hhigh hrest
      obtain ⟨c, cs, hcs, hc⟩ := unsigned_head r
      rw [hback, hcs, List.cons_append] at hread
      cases neg with
      | false =>
        rw [hcs]
        exact readValue_of_isDigit hc fuel hread
      | true =>
        rw [hcs]
        exact readValue_of_minus hc fuel hread

/-! ## Values -/

/-- A text that begins neither with a blank, nor with the end of a list, nor with a byte order mark. -/
def BeginsValue (t : String) : Prop :=
  ∃ c cs, t.toList = c :: cs ∧ isSpace c = false ∧ c ∉ [']', '\ufeff']

theorem BeginsValue.append {t : String} (h : BeginsValue t) (u : String) : BeginsValue (t ++ u) := by
  obtain ⟨c, cs, ht, hspace, hend⟩ := h
  exact ⟨c, cs ++ u.toList, by rw [String.toList_append, ht, List.cons_append], hspace, hend⟩

theorem beginsValue_of_isDigit {c : Char} (hc : c.isDigit = true) (cs : List Char) :
    BeginsValue (String.ofList (c :: cs)) := by
  refine ⟨c, cs, String.toList_ofList, ?_, ?_⟩
  · by_contra hspace
    have := (endsNumber_of_isSpace (Bool.of_not_eq_false hspace) []) c rfl
    rw [hc] at this
    cases this.1
  · intro hmem
    rcases List.mem_cons.mp hmem with rfl | hmem
    · cases hc
    · obtain rfl := List.mem_singleton.mp hmem
      cases hc

theorem beginsValue_integer? {n : ℤ} {t : String} (h : integer? n = some t) : BeginsValue t := by
  unfold integer? at h
  split_ifs at h
  obtain rfl := Option.some.inj h
  obtain ⟨c, ds, hds⟩ := List.exists_cons_of_ne_nil (Decimal.natText_ne_nil n.natAbs)
  have hc : c.isDigit = true := Decimal.isDigit_of_mem_natText (hds ▸ List.mem_cons_self)
  cases n with
  | ofNat k =>
    rw [intText, show natText k = c :: ds from hds]
    exact beginsValue_of_isDigit hc ds
  | negSucc k => exact ⟨'-', _, String.toList_ofList, rfl, by decide⟩

theorem beginsValue_number (x : Binary64) : BeginsValue (number x) := by
  cases x with
  | nan => exact ⟨'N', _, rfl, rfl, by decide⟩
  | infinite neg =>
    cases neg with
    | false => exact ⟨'I', _, rfl, rfl, by decide⟩
    | true => exact ⟨'-', _, rfl, rfl, by decide⟩
  | finite neg sig exp h =>
    by_cases hsig : sig = 0
    · cases neg with
      | false => exact ⟨'0', ['.', '0'], by simp [number, Decimal.display, hsig], rfl, by decide⟩
      | true => exact ⟨'-', ['0', '.', '0'], by simp [number, Decimal.display, hsig], rfl, by decide⟩
    · obtain ⟨c, cs, hcs, hc⟩ := unsigned_head (Decimal.shortest (.finite neg sig exp h) neg sig exp)
      simp only [number, Decimal.display, if_neg hsig, hcs]
      cases neg with
      | false => exact beginsValue_of_isDigit hc cs
      | true => exact ⟨'-', _, String.toList_ofList, rfl, by decide⟩

/-- The text of a list: nothing between its brackets, or items set apart by the layout. -/
theorem printItems?_eq_some {l : Layout} {d : ℕ} {xs : List Value} {t : String}
    (h : printItems? l d xs = some t) :
    (xs = [] ∧ t = "[]") ∨ ∃ ts, ts ≠ [] ∧ printEach? l (d + 1) xs = some ts ∧
      t = "[" ++ l.start d ++ joinWith (l.between d) ts ++ l.finish d ++ "]" := by
  rw [printItems?] at h
  cases hts : printEach? l (d + 1) xs with
  | none => simp [hts] at h
  | some ts =>
    cases ts with
    | nil =>
      simp only [hts, Option.some.injEq] at h
      cases xs with
      | nil => exact .inl ⟨rfl, h.symm⟩
      | cons v vs =>
        rw [printEach?] at hts
        split at hts <;> cases hts
    | cons s ts =>
      simp only [hts, Option.some.injEq] at h
      exact .inr ⟨s :: ts, List.cons_ne_nil s ts, rfl, h.symm⟩

theorem printMap_eq_some {l : Layout} {d : ℕ} {es : List (Value × Value)} {t : String}
    (h : print? l d (.map es) = some t) :
    (es = [] ∧ t = "\x7b\x7d") ∨ ∃ ts, ts ≠ [] ∧ printMembers? l (d + 1) es = some ts ∧
      t = "\x7b" ++ l.start d ++ joinWith (l.between d) ts ++ l.finish d ++ "\x7d" := by
  rw [print?] at h
  cases hts : printMembers? l (d + 1) es with
  | none => simp [hts] at h
  | some ts =>
    cases ts with
    | nil =>
      simp only [hts, Option.some.injEq] at h
      cases es with
      | nil => exact .inl ⟨rfl, h.symm⟩
      | cons e es =>
        obtain ⟨k, v⟩ := e
        rw [printMembers?] at hts
        split at hts <;> cases hts
    | cons s ts =>
      simp only [hts, Option.some.injEq] at h
      exact .inr ⟨s :: ts, List.cons_ne_nil s ts, rfl, h.symm⟩

theorem beginsValue_printItems? {l : Layout} {d : ℕ} {xs : List Value} {t : String}
    (h : printItems? l d xs = some t) : BeginsValue t := by
  rcases printItems?_eq_some h with ⟨-, rfl⟩ | ⟨ts, -, -, rfl⟩
  · exact ⟨'[', _, rfl, rfl, by decide⟩
  · have hopen : BeginsValue "[" := ⟨'[', _, rfl, rfl, by decide⟩
    exact (((hopen.append _).append _).append _).append _

theorem beginsValue_print? {l : Layout} {d : ℕ} {v : Value} {t : String} (h : print? l d v = some t) :
    BeginsValue t := by
  cases v with
  | null =>
    rw [print?, Option.some.injEq] at h
    subst h
    exact ⟨'n', _, rfl, rfl, by decide⟩
  | bool b =>
    rw [print?, Option.some.injEq] at h
    subst h
    cases b with
    | false => exact ⟨'f', _, rfl, rfl, by decide⟩
    | true => exact ⟨'t', _, rfl, rfl, by decide⟩
  | int n =>
    rw [print?] at h
    exact beginsValue_integer? h
  | num x =>
    rw [print?, Option.some.injEq] at h
    exact h ▸ beginsValue_number x
  | text s =>
    rw [print?, Option.some.injEq] at h
    subst h
    exact ⟨'"', _, String.toList_ofList, rfl, by decide⟩
  | list xs =>
    rw [print?] at h
    exact beginsValue_printItems? h
  | tuple xs =>
    rw [print?] at h
    exact beginsValue_printItems? h
  | map es =>
    rcases printMap_eq_some h with ⟨-, rfl⟩ | ⟨ts, -, -, rfl⟩
    · exact ⟨'\x7b', _, rfl, rfl, by decide⟩
    · have hopen : BeginsValue "\x7b" := ⟨'\x7b', _, rfl, rfl, by decide⟩
      exact (((hopen.append _).append _).append _).append _
  | bytes bs => rw [print?] at h; cases h
  | date d => rw [print?] at h; cases h
  | moment m => rw [print?] at h; cases h
  | set xs => rw [print?] at h; cases h

/-! ## Lists and maps -/

theorem readValue_list {fuel : ℕ} {cs inside : List Char} (hskip : skip cs = inside)
    (hne : ∀ left, inside ≠ ']' :: left) :
    readValue (fuel + 1) ('[' :: cs) = readItems fuel [] inside := by
  rw [readValue, hskip]
  split
  · rename_i left
    exact absurd rfl (hne left)
  · rfl

theorem readValue_map {fuel : ℕ} {cs inside : List Char} (hskip : skip cs = inside)
    (hne : ∀ left, inside ≠ '\x7d' :: left) :
    readValue (fuel + 1) ('\x7b' :: cs) = readMembers fuel [] inside := by
  rw [readValue, hskip]
  split
  · rename_i left
    exact absurd rfl (hne left)
  · rfl

section Steps

variable {fuel : ℕ} {cs rest more left : List Char} {v : Value}

theorem readItems_last (done : List Value) (hread : readValue fuel cs = .ok (v, rest))
    (hskip : skip rest = ']' :: left) :
    readItems (fuel + 1) done cs = .ok (.list (v :: done).reverse, left) := by
  rw [readItems, hread]
  simp only [hskip]

theorem readItems_next (done : List Value) (hread : readValue fuel cs = .ok (v, rest))
    (hskip : skip rest = ',' :: more) :
    readItems (fuel + 1) done cs = readItems fuel (v :: done) (skip more) := by
  rw [readItems, hread]
  simp only [hskip]

variable {name : String} {colon value : List Char}

theorem readMembers_last (done : List (Value × Value)) (hcolon : skip colon = ':' :: value)
    (hread : readValue fuel (skip value) = .ok (v, rest)) (hskip : skip rest = '\x7d' :: left) :
    readMembers (fuel + 1) done ((string name).toList ++ colon) =
      .ok (.map (insertMember done name v), left) := by
  rw [toList_string, readMembers, stringAt_escaped]
  simp only [hcolon, hread, hskip, String.ofList_toList]

theorem readMembers_next (done : List (Value × Value)) (hcolon : skip colon = ':' :: value)
    (hread : readValue fuel (skip value) = .ok (v, rest)) (hskip : skip rest = ',' :: more) :
    readMembers (fuel + 1) done ((string name).toList ++ colon) =
      readMembers fuel (insertMember done name v) (skip more) := by
  rw [toList_string, readMembers, stringAt_escaped]
  simp only [hcolon, hread, hskip, String.ofList_toList]

end Steps

theorem BeginsValue.not_space {t : String} (h : BeginsValue t) (rest : List Char) :
    ∀ c ∈ (t.toList ++ rest).head?, isSpace c = false := by
  obtain ⟨c, cs, ht, hspace, -⟩ := h
  rw [ht]
  intro d hd
  obtain rfl := Option.some.inj hd
  exact hspace

theorem BeginsValue.not_end {t : String} (h : BeginsValue t) (rest : List Char) :
    ∀ left, t.toList ++ rest ≠ ']' :: left := by
  obtain ⟨c, cs, ht, -, hend⟩ := h
  rw [ht]
  intro left heq
  obtain ⟨rfl, -⟩ := List.cons.inj heq
  simp at hend

theorem beginsValue_joinWith {t : String} (h : BeginsValue t) (sep : String) (ts : List String) :
    BeginsValue (joinWith sep (t :: ts)) := by
  cases ts with
  | nil => simpa [joinWith] using h
  | cons u us =>
    rw [joinWith, String.intercalate_cons_cons]
    exact (h.append _).append _

theorem printEach?_cons {l : Layout} {d : ℕ} {v : Value} {vs : List Value} {ts : List String}
    (h : printEach? l d (v :: vs) = some ts) :
    ∃ t us, print? l d v = some t ∧ printEach? l d vs = some us ∧ ts = t :: us := by
  rw [printEach?] at h
  split at h
  · rename_i t us ht hus
    exact ⟨t, us, ht, hus, (Option.some.inj h).symm⟩
  · cases h

theorem printMembers?_cons {l : Layout} {d : ℕ} {k v : Value} {es : List (Value × Value)}
    {ts : List String} (h : printMembers? l d ((k, v) :: es) = some ts) :
    ∃ name t us, keyText? k = some name ∧ print? l d v = some t ∧ printMembers? l d es = some us ∧
      ts = (string name ++ l.colon ++ t) :: us := by
  rw [printMembers?] at h
  split at h
  · rename_i name t us hname ht hus
    exact ⟨name, t, us, hname, ht, hus, (Option.some.inj h).symm⟩
  · cases h

theorem beginsValue_printEach? {l : Layout} {d : ℕ} {xs : List Value} {ts : List String} (sep : String)
    (h : printEach? l d xs = some ts) (hne : ts ≠ []) : BeginsValue (joinWith sep ts) := by
  cases xs with
  | nil =>
    rw [printEach?, Option.some.injEq] at h
    exact absurd h.symm hne
  | cons v vs =>
    obtain ⟨t, us, ht, -, rfl⟩ := printEach?_cons h
    exact beginsValue_joinWith (beginsValue_print? ht) sep us

theorem beginsString_printMembers? {l : Layout} {d : ℕ} {es : List (Value × Value)} {ts : List String}
    (sep : String) (h : printMembers? l d es = some ts) (hne : ts ≠ []) :
    ∃ cs, (joinWith sep ts).toList = '"' :: cs := by
  cases es with
  | nil =>
    rw [printMembers?, Option.some.injEq] at h
    exact absurd h.symm hne
  | cons e es =>
    obtain ⟨name, t, us, -, -, -, rfl⟩ := printMembers?_cons h
    cases us with
    | nil => exact ⟨_, by simp only [joinWith, String.intercalate_singleton, string, stringChars,
        String.toList_append, String.toList_ofList, List.cons_append]; rfl⟩
    | cons u us => exact ⟨_, by simp only [joinWith, String.intercalate_cons_cons, string, stringChars,
        String.toList_append, String.toList_ofList, List.cons_append]; rfl⟩

theorem endsNumber_cons {c : Char} (h : c.isDigit = false ∧ c ≠ '.' ∧ c ≠ 'e' ∧ c ≠ 'E')
    (rest : List Char) : EndsNumber (c :: rest) := by
  intro d hd
  obtain rfl := Option.some.inj hd
  exact h

theorem skip_end {blanks : List Char} (h : Blanks blanks) {c : Char} (hc : isSpace c = false)
    (rest : List Char) : skip (blanks ++ c :: rest) = c :: rest := by
  refine skip_blanks h ?_
  intro d hd
  obtain rfl := Option.some.inj hd
  exact hc

/-- A list is read if the items between its brackets are. -/
theorem readValue_printItems? {l : Layout} (hl : l.Readable) {xs : List Value} {d fuel : ℕ} {t : String}
    {rest : List Char} (ht : printItems? l d xs = some t) (hfuel : t.toList.length ≤ fuel + 1)
    (hitems : ∀ {ts : List String} {blanks : List Char}, printEach? l (d + 1) xs = some ts → ts ≠ [] →
      Blanks blanks → (joinWith (l.between d) ts).toList.length < fuel →
      readItems fuel [] ((joinWith (l.between d) ts).toList ++ (blanks ++ ']' :: rest)) =
        .ok (.list (rereadEach xs), rest)) :
    readValue (fuel + 1) (t.toList ++ rest) = .ok (.list (rereadEach xs), rest) := by
  rcases printItems?_eq_some ht with ⟨rfl, rfl⟩ | ⟨ts, hne, hts, rfl⟩
  · rfl
  · have hbegins := beginsValue_printEach? (l.between d) hts hne
    have htext : ("[" ++ l.start d ++ joinWith (l.between d) ts ++ l.finish d ++ "]").toList ++ rest =
        '[' :: ((l.start d).toList ++
          ((joinWith (l.between d) ts).toList ++ ((l.finish d).toList ++ ']' :: rest))) := by
      simp
    rw [htext, readValue_list (skip_blanks (hl.start d) (hbegins.not_space _)) (hbegins.not_end _)]
    refine hitems hts hne (hl.finish d) ?_
    simp only [String.toList_append, List.length_append] at hfuel
    have hopen : "[".toList.length = 1 := rfl
    have hclose : "]".toList.length = 1 := rfl
    omega

/-- A map is read if the members between its braces are. -/
theorem readValue_printMap {l : Layout} (hl : l.Readable) {es : List (Value × Value)} {d fuel : ℕ}
    {t : String} {rest : List Char} (ht : print? l d (.map es) = some t)
    (hfuel : t.toList.length ≤ fuel + 1)
    (hmembers : ∀ {ts : List String} {blanks : List Char}, printMembers? l (d + 1) es = some ts →
      ts ≠ [] → Blanks blanks → (joinWith (l.between d) ts).toList.length < fuel →
      readMembers fuel [] ((joinWith (l.between d) ts).toList ++ (blanks ++ '\x7d' :: rest)) =
        .ok (.map (rereadOnto [] es), rest)) :
    readValue (fuel + 1) (t.toList ++ rest) = .ok (.map (rereadOnto [] es), rest) := by
  rcases printMap_eq_some ht with ⟨rfl, rfl⟩ | ⟨ts, hne, hts, rfl⟩
  · rfl
  · obtain ⟨cs, hcs⟩ := beginsString_printMembers? (l.between d) hts hne
    have htext : ("\x7b" ++ l.start d ++ joinWith (l.between d) ts ++ l.finish d ++ "\x7d").toList ++ rest =
        '\x7b' :: ((l.start d).toList ++
          ((joinWith (l.between d) ts).toList ++ ((l.finish d).toList ++ '\x7d' :: rest))) := by
      simp
    have hskip : skip ((l.start d).toList ++
        ((joinWith (l.between d) ts).toList ++ ((l.finish d).toList ++ '\x7d' :: rest))) =
          (joinWith (l.between d) ts).toList ++ ((l.finish d).toList ++ '\x7d' :: rest) := by
      rw [hcs, List.cons_append]
      exact skip_end (hl.start d) rfl _
    rw [htext, readValue_map hskip (by rw [hcs]; intro left heq; cases (List.cons.inj heq).1)]
    refine hmembers hts hne (hl.finish d) ?_
    simp only [String.toList_append, List.length_append] at hfuel
    have hopen : "\x7b".toList.length = 1 := rfl
    have hclose : "\x7d".toList.length = 1 := rfl
    omega

mutual

/-- A value that was written is read as far as its text goes. -/
theorem readValue_print? {l : Layout} (hl : l.Readable) :
    ∀ (v : Value) {d fuel : ℕ} {t : String} {rest : List Char}, print? l d v = some t →
      t.toList.length ≤ fuel → EndsNumber rest →
      readValue fuel (t.toList ++ rest) = .ok (reread v, rest)
  | v, d, 0, t, rest, ht, hfuel, hrest => by
    obtain ⟨c, cs, hcs, -, -⟩ := beginsValue_print? ht
    rw [hcs] at hfuel
    cases hfuel
  | .null, d, fuel + 1, t, rest, ht, hfuel, hrest => by
    rw [print?, Option.some.injEq] at ht
    subst ht
    rfl
  | .bool b, d, fuel + 1, t, rest, ht, hfuel, hrest => by
    rw [print?, Option.some.injEq] at ht
    subst ht
    cases b <;> rfl
  | .int n, d, fuel + 1, t, rest, ht, hfuel, hrest => by
    rw [print?] at ht
    exact integer?_reads_back ht fuel hrest
  | .num x, d, fuel + 1, t, rest, ht, hfuel, hrest => by
    rw [print?, Option.some.injEq] at ht
    subst ht
    exact number_reads_back x fuel hrest
  | .text s, d, fuel + 1, t, rest, ht, hfuel, hrest => by
    rw [print?, Option.some.injEq] at ht
    subst ht
    rw [toList_string, readValue, stringAt_escaped]
    simp only [String.ofList_toList, reread]
  | .list xs, d, fuel + 1, t, rest, ht, hfuel, hrest => by
    rw [print?] at ht
    exact readValue_printItems? hl ht hfuel (readItems_printEach? hl xs)
  | .tuple xs, d, fuel + 1, t, rest, ht, hfuel, hrest => by
    rw [print?] at ht
    exact readValue_printItems? hl ht hfuel (readItems_printEach? hl xs)
  | .map es, d, fuel + 1, t, rest, ht, hfuel, hrest =>
    readValue_printMap hl ht hfuel (readMembers_printMembers? hl es)
  | .bytes bs, d, fuel + 1, t, rest, ht, hfuel, hrest => by
    rw [print?] at ht
    cases ht
  | .date x, d, fuel + 1, t, rest, ht, hfuel, hrest => by
    rw [print?] at ht
    cases ht
  | .moment m, d, fuel + 1, t, rest, ht, hfuel, hrest => by
    rw [print?] at ht
    cases ht
  | .set xs, d, fuel + 1, t, rest, ht, hfuel, hrest => by
    rw [print?] at ht
    cases ht

theorem readItems_printEach? {l : Layout} (hl : l.Readable) :
    ∀ (xs : List Value) {d d' fuel : ℕ} {done : List Value} {rest : List Char} {ts : List String}
      {blanks : List Char}, printEach? l d xs = some ts → ts ≠ [] → Blanks blanks →
      (joinWith (l.between d') ts).toList.length < fuel →
      readItems fuel done ((joinWith (l.between d') ts).toList ++ (blanks ++ ']' :: rest)) =
        .ok (.list (done.reverse ++ rereadEach xs), rest)
  | [], d, d', fuel, done, rest, ts, blanks, hts, hne, hblanks, hfuel => by
    rw [printEach?, Option.some.injEq] at hts
    exact absurd hts.symm hne
  | v :: vs, d, d', 0, done, rest, ts, blanks, hts, hne, hblanks, hfuel => by
    cases hfuel
  | v :: vs, d, d', fuel + 1, done, rest, ts, blanks, hts, hne, hblanks, hfuel => by
    obtain ⟨t, us, ht, hus, rfl⟩ := printEach?_cons hts
    cases us with
    | nil =>
      obtain rfl : vs = [] := by
        cases vs with
        | nil => rfl
        | cons w ws =>
          obtain ⟨_, _, -, -, heq⟩ := printEach?_cons hus
          cases heq
      simp only [joinWith, String.intercalate_singleton] at hfuel ⊢
      have hend : EndsNumber (blanks ++ ']' :: rest) :=
        endsNumber_blanks_append hblanks (endsNumber_cons (by decide) rest)
      rw [readItems_last done (readValue_print? hl v ht (by omega) hend) (skip_end hblanks rfl rest)]
      simp [rereadEach]
    | cons u us =>
      obtain ⟨between, hsep, hbetween⟩ := hl.between d'
      have hbegins := beginsValue_printEach? (l.between d') hus (List.cons_ne_nil u us)
      have hjoin : (joinWith (l.between d') (t :: u :: us)).toList =
          t.toList ++ ',' :: (between ++ (joinWith (l.between d') (u :: us)).toList) := by
        rw [joinWith, String.intercalate_cons_cons, String.toList_append, String.toList_append, hsep]
        simp [joinWith]
      rw [hjoin] at hfuel ⊢
      simp only [List.length_append, List.length_cons] at hfuel
      rw [List.append_assoc, List.cons_append, List.append_assoc,
        readItems_next done (readValue_print? hl v ht (by omega) (endsNumber_cons (by decide) _)) rfl,
        skip_blanks hbetween (hbegins.not_space _),
        readItems_printEach? hl vs hus (List.cons_ne_nil u us) hblanks (by omega)]
      simp [rereadEach]

theorem readMembers_printMembers? {l : Layout} (hl : l.Readable) :
    ∀ (es : List (Value × Value)) {d d' fuel : ℕ} {done : List (Value × Value)} {rest : List Char}
      {ts : List String} {blanks : List Char}, printMembers? l d es = some ts → ts ≠ [] →
      Blanks blanks → (joinWith (l.between d') ts).toList.length < fuel →
      readMembers fuel done ((joinWith (l.between d') ts).toList ++ (blanks ++ '\x7d' :: rest)) =
        .ok (.map (rereadOnto done es), rest)
  | [], d, d', fuel, done, rest, ts, blanks, hts, hne, hblanks, hfuel => by
    rw [printMembers?, Option.some.injEq] at hts
    exact absurd hts.symm hne
  | (k, v) :: es, d, d', 0, done, rest, ts, blanks, hts, hne, hblanks, hfuel => by
    cases hfuel
  | (k, v) :: es, d, d', fuel + 1, done, rest, ts, blanks, hts, hne, hblanks, hfuel => by
    obtain ⟨name, t, us, hname, ht, hus, rfl⟩ := printMembers?_cons hts
    obtain ⟨after, hcolon, hafter⟩ := hl.colon
    have hvalue := beginsValue_print? ht
    cases us with
    | nil =>
      obtain rfl : es = [] := by
        cases es with
        | nil => rfl
        | cons e es =>
          obtain ⟨_, _, _, -, -, -, heq⟩ := printMembers?_cons hus
          cases heq
      have htext : (string name ++ l.colon ++ t).toList ++ (blanks ++ '\x7d' :: rest) =
          (string name).toList ++ ':' :: (after ++ (t.toList ++ (blanks ++ '\x7d' :: rest))) := by
        simp [String.toList_append, hcolon]
      simp only [joinWith, String.intercalate_singleton] at hfuel ⊢
      have hend : EndsNumber (blanks ++ '\x7d' :: rest) :=
        endsNumber_blanks_append hblanks (endsNumber_cons (by decide) rest)
      have hlength : t.toList.length ≤ fuel := by
        simp only [String.toList_append, List.length_append, hcolon, List.length_cons] at hfuel
        omega
      have hread := readValue_print? hl v ht hlength hend
      rw [← skip_blanks hafter (hvalue.not_space _)] at hread
      rw [htext, readMembers_last done rfl hread (skip_end hblanks rfl rest)]
      simp [rereadOnto, hname]
    | cons u us =>
      obtain ⟨between, hsep, hbetween⟩ := hl.between d'
      obtain ⟨cs, hcs⟩ := beginsString_printMembers? (l.between d') hus (List.cons_ne_nil u us)
      have hjoin : (joinWith (l.between d') ((string name ++ l.colon ++ t) :: u :: us)).toList =
          (string name).toList ++ ':' :: (after ++ (t.toList ++
            ',' :: (between ++ (joinWith (l.between d') (u :: us)).toList))) := by
        rw [joinWith, String.intercalate_cons_cons]
        simp [String.toList_append, hsep, hcolon, joinWith]
      rw [hjoin] at hfuel ⊢
      simp only [List.length_append, List.length_cons] at hfuel
      have hread := readValue_print? hl v ht (show t.toList.length ≤ fuel by omega)
        (endsNumber_cons (show ','.isDigit = false ∧ _ by decide)
          (between ++ ((joinWith (l.between d') (u :: us)).toList ++ (blanks ++ '\x7d' :: rest))))
      rw [← skip_blanks hafter (hvalue.not_space _)] at hread
      have hskip : skip (between ++ ((joinWith (l.between d') (u :: us)).toList ++
          (blanks ++ '\x7d' :: rest))) =
            (joinWith (l.between d') (u :: us)).toList ++ (blanks ++ '\x7d' :: rest) := by
        rw [hcs, List.cons_append]
        exact skip_end hbetween rfl _
      have htext : (string name).toList ++ ':' :: (after ++ (t.toList ++
            ',' :: (between ++ (joinWith (l.between d') (u :: us)).toList))) ++
              (blanks ++ '\x7d' :: rest) =
          (string name).toList ++ ':' :: (after ++ (t.toList ++ ',' ::
            (between ++ ((joinWith (l.between d') (u :: us)).toList ++ (blanks ++ '\x7d' :: rest))))) := by
        simp
      have hcolon' (cs : List Char) : skip (':' :: cs) = ':' :: cs := rfl
      rw [htext, readMembers_next done (hcolon' _) hread rfl, hskip,
        readMembers_printMembers? hl es hus (List.cons_ne_nil u us) hblanks (by omega)]
      simp [rereadOnto, hname]

end

/-- The document that was written is the document that is read, as far as JSON can tell. -/
theorem parse_pretty? {v : Value} {t : String} (h : pretty? v = some t) : parse t = .ok (reread v) := by
  have hbegins := beginsValue_print? h
  have hread := readValue_print? indented_readable v h (Nat.le_succ _) EndsNumber.nil
  have hskip : skip ([] ++ (t.toList ++ [])) = t.toList ++ [] :=
    skip_blanks (fun _ hc => nomatch hc) (hbegins.not_space [])
  rw [List.nil_append, List.append_nil] at hskip
  rw [List.append_nil] at hread
  obtain ⟨c, cs, hcs, -, hmark⟩ := hbegins
  unfold parse readAll
  split
  · rename_i heq
    rw [hcs] at heq
    obtain ⟨rfl, -⟩ := List.cons.inj heq
    simp at hmark
  · rw [hskip, hread]
    rfl

end Runbook.Json
