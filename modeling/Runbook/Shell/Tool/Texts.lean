import Runbook.Pattern.Search
import Runbook.Shell.Format
import Runbook.Shell.Tool.Basic

/-! Tools that pass on a part of what they read, or count it. -/

namespace Runbook.Shell.Tool

open Text

def cat : Tool := fun c => c.fromSources c.options.2 id fun _ bs => bs

/-- The count of lines or bytes of an option, whether it counts bytes, whether it says where to begin, and
the operands. -/
def amount : List String → (Option Nat × Bool × Bool) × List String
  | "-n" :: n :: rest => read false n rest
  | "-c" :: n :: rest => read true n rest
  | s :: rest =>
    match s.toList with
    | '-' :: 'n' :: n => read false (String.ofList n) rest
    | '-' :: 'c' :: n => read true (String.ofList n) rest
    | '-' :: d :: ds => if d.isDigit then read false (String.ofList (d :: ds)) rest else ((some 10, false, false), s :: rest)
    | _ => ((some 10, false, false), s :: rest)
  | [] => ((some 10, false, false), [])
where
  read (bytes : Bool) (n : String) (rest : List String) : (Option Nat × Bool × Bool) × List String :=
    match n.toList with
    | '+' :: ds => ((Arithmetic.digits? 10 ds, bytes, true), rest)
    | '-' :: ds => ((Arithmetic.digits? 10 ds, bytes, false), rest)
    | ds => ((Arithmetic.digits? 10 ds, bytes, false), rest)

/-- A part of each source, under its name where there are several. -/
def partOf (bytesOf : Nat → Bool → List UInt8 → List UInt8)
    (linesOf : Nat → Bool → List (List UInt8) → List (List UInt8)) : Tool := fun c =>
  let ((count, bytes, beginning), names) := amount c.args
  match count with
  | none => c.failed 1 "invalid number of lines"
  | some n =>
    let cut (bs : List UInt8) : List UInt8 :=
      if bytes then bytesOf n beginning bs else (linesOf n beginning (lines bs)).flatten
    let heading (name : String) : List UInt8 :=
      if names.length ≤ 1 then []
      else ofText ((if names.head? = some name then "" else "\n") ++ "==> " ++ name ++ " <==\n")
    c.fromSources names (fun n => "cannot open '" ++ n ++ "' for reading") fun name bs =>
      heading name ++ cut bs

def head : Tool := partOf (fun n _ bs => bs.take n) (fun n _ ls => ls.take n)

def tail : Tool :=
  partOf (fun n fromStart bs => bs.drop (if fromStart then n - 1 else bs.length - n))
    (fun n fromStart ls => ls.drop (if fromStart then n - 1 else ls.length - n))

def countWords (bs : List UInt8) : Nat :=
  (bs.foldl (fun (count, inside) b =>
    let blank := b = 32 || (9 ≤ b && b ≤ 13)
    (if !blank && !inside then count + 1 else count, !blank)) (0, false)).1

def wc : Tool := fun c =>
  let (opts, names) := c.options
  let counts (bs : List UInt8) : List (Char × Nat) :=
    [('l', bs.count 10), ('w', countWords bs), ('m', (Utf8.decodeLossy bs).length), ('c', bs.length)]
  let wanted (k : Char) : Bool := if opts.isEmpty then k != 'm' else opts.contains k
  let chosen (bs : List UInt8) : List Nat := ((counts bs).filter fun (k, _) => wanted k).map (·.2)
  let width :=
    if (chosen []).length = 1 && names.length ≤ 1 then 1
    else if names.isEmpty then 7
    else
      (Nat.toDigits 10 ((c.sources names).foldl (fun n (_, r) => n + (r.toOption.getD []).length) 0)).length
  let row (ns : List Nat) (name : String) : List UInt8 :=
    ofText (joinWith " " (ns.map fun n => String.ofList (padLeft width ' ' (natText n))) ++
      (if name = "-" then "" else " " ++ name) ++ "\n")
  let deed := c.fromSources names id fun name bs => row (chosen bs) name
  let total := (c.sources names).foldl (fun ns (_, r) =>
    List.zipWith (· + ·) ns (chosen (r.toOption.getD []))) ((chosen []).map fun _ => 0)
  if names.length ≤ 1 then deed else { deed with said := deed.said ++ [(1, row total "total")] }

def leadingNumber (bs : List UInt8) : Int :=
  let cs := (bs.map fun b => Char.ofNat b.toNat).dropWhile Unicode.isBlank
  let digits (ds : List Char) : Int := ((Arithmetic.digits? 10 (ds.takeWhile Char.isDigit)).getD 0 : Nat)
  match cs with
  | '-' :: ds => -(digits ds)
  | ds => digits ds

def dropRepeats : List (List UInt8) → List (List UInt8)
  | a :: b :: rest => if a = b then dropRepeats (b :: rest) else a :: dropRepeats (b :: rest)
  | ls => ls

def sort : Tool := fun c =>
  let (opts, names) := c.options
  match (c.sources names).find? fun (_, r) => r.toOption.isNone with
  | some (n, r) =>
    c.failed 2 ("cannot read: " ++ n ++ ": " ++
      match r with
      | .error e => e
      | .ok _ => "")
  | none =>
    let all := (c.sources names).flatMap fun (_, r) => (lines (r.toOption.getD [])).map bare
    let le (a b : List UInt8) : Bool :=
      if opts.contains 'n' && leadingNumber a != leadingNumber b then
        decide (leadingNumber a ≤ leadingNumber b)
      else bytesLE a b
    let sorted := all.mergeSort fun a b => if opts.contains 'r' then le b a else le a b
    c.done ((if opts.contains 'u' then dropRepeats sorted else sorted).flatMap ended)

/-- The runs of equal lines, each with its length. -/
def runs : List (List UInt8) → List (Nat × List UInt8)
  | [] => []
  | a :: rest =>
    match runs rest with
    | (n, b) :: more => if a = b then (n + 1, b) :: more else (1, a) :: (n, b) :: more
    | [] => [(1, a)]

def uniq : Tool := fun c =>
  let (opts, names) := c.options
  c.fromSources (names.take 1) id fun _ bs =>
    let kept := (runs ((lines bs).map bare)).filter fun (n, _) =>
      (!opts.contains 'd' || 1 < n) && (!opts.contains 'u' || n == 1)
    kept.flatMap fun (n, l) =>
      if opts.contains 'c' then asciiCount n ++ l ++ [10] else l ++ [10]
where
  asciiCount (n : Nat) : List UInt8 := ofText (String.ofList (padLeft 7 ' ' (natText n)) ++ " ")

/-- The bytes of a set as it is written: ranges, escapes and named classes. -/
def setOf : Nat → List Char → List UInt8
  | 0, _ => []
  | _ + 1, [] => []
  | fuel + 1, '[' :: ':' :: cs =>
    match cut? [':', ']'] cs with
    | some (name, rest) => classOf (String.ofList name) ++ setOf fuel rest
    | none => 91 :: 58 :: setOf fuel cs
  | fuel + 1, '\\' :: cs =>
    let (bs, rest) := Format.escape cs
    bs ++ setOf fuel rest
  | fuel + 1, a :: '-' :: b :: rest =>
    if a.toNat < 128 && b.toNat < 128 && b != '\\' then
      (List.range (b.toNat + 1 - a.toNat)).map (fun n => (a.toNat + n).toUInt8) ++ setOf fuel rest
    else Utf8.encodeChar a ++ setOf fuel ('-' :: b :: rest)
  | fuel + 1, a :: rest => Utf8.encodeChar a ++ setOf fuel rest
where
  classOf (name : String) : List UInt8 :=
    let test : Char → Bool :=
      match name with
      | "upper" => Char.isUpper
      | "lower" => Char.isLower
      | "digit" => Char.isDigit
      | "alpha" => Char.isAlpha
      | "alnum" => Char.isAlphanum
      | "space" => fun c => c = ' ' || ('\t' ≤ c && c ≤ '\r')
      | "blank" => fun c => c = ' ' || c = '\t'
      | "punct" => fun c => '!' ≤ c && c ≤ '~' && !c.isAlphanum
      | _ => fun _ => false
    ((List.range 128).filter fun n => test (Char.ofNat n)).map (·.toUInt8)

/-- Without the repetition of a byte for which the test holds. -/
def squeeze (test : UInt8 → Bool) (bs : List UInt8) : List UInt8 :=
  (bs.foldl (fun acc b => if acc.head? = some b && test b then acc else b :: acc) []).reverse

def tr : Tool := fun c =>
  let (opts, names) := c.options
  let sets := names.map fun s => setOf (s.length + 1) s.toList
  let inFirst (s : List UInt8) (b : UInt8) : Bool :=
    s.contains b != (opts.contains 'c' || opts.contains 'C')
  match sets with
  | [] => c.failed 1 "missing operand\nTry 'tr --help' for more information."
  | [s] =>
    if opts.contains 'd' then c.done (c.input.filter fun b => !inFirst s b)
    else if opts.contains 's' then c.done (squeeze (inFirst s) c.input)
    else
      c.failed 1 ("missing operand after '" ++ names.headD "" ++
        "'\nTwo strings must be given when translating.\nTry 'tr --help' for more information.")
  | s :: t :: _ =>
    if opts.contains 'd' then c.done (squeeze t.contains (c.input.filter fun b => !inFirst s b))
    else
      let image (b : UInt8) : UInt8 :=
        if opts.contains 'c' || opts.contains 'C' then if s.contains b then b else t.getLast?.getD b
        else
          match s.findIdx? (· == b) with
          | some i => (t[i]?).getD (t.getLast?.getD b)
          | none => b
      let out := c.input.map image
      c.done (if opts.contains 's' then squeeze t.contains out else out)

/-- A pattern in which a backslash makes the marks of repetition, choice and groups, in the form in which
it makes them plain. -/
def basicForm : List Char → List Char
  | '\\' :: c :: rest => if "+?|(){}".toList.contains c then c :: basicForm rest else '\\' :: c :: basicForm rest
  | c :: rest => if "+?|(){}".toList.contains c then '\\' :: c :: basicForm rest else c :: basicForm rest
  | [] => []

def grep : Tool := fun c =>
  let (opts, names) := c.options
  match names with
  | [] => c.failed 2 "usage: grep [OPTION]... PATTERNS [FILE]..."
  | form :: names =>
    let plain := opts.contains 'F'
    let fold (s : String) : String := if opts.contains 'i' then String.ofList (s.toList.map Char.toLower) else s
    let text := if opts.contains 'E' then form else String.ofList (basicForm form.toList)
    let pattern := (Pattern.parse (fold text)).toOption
    let fits (line : List UInt8) : Bool :=
      let s := fold (Utf8.decodeLossy line)
      let found :=
        if plain then hasPart s (fold form) else (pattern.map fun p => p.occursIn s).getD false
      found != opts.contains 'v'
    let chosen (bs : List UInt8) : List (List UInt8) := ((lines bs).map bare).filter fits
    let mark (name : String) : List UInt8 :=
      if 1 < names.length && !opts.contains 'h' then ofText (name ++ ":") else []
    let any := (c.sources names).any fun (_, r) => !(chosen (r.toOption.getD [])).isEmpty
    let deed := c.fromSources names id fun name bs =>
      if opts.contains 'q' then []
      else if opts.contains 'c' then mark name ++ ofText s!"{(chosen bs).length}\n"
      else if opts.contains 'l' then if (chosen bs).isEmpty then [] else ofText (name ++ "\n")
      else (chosen bs).flatMap fun l => mark name ++ l ++ [10]
    { deed with status := if deed.status != 0 then 2 else if any then 0 else 1 }

/-- The fields of a list such as `1,3-`. -/
def inRanges (ranges : String) (n : Nat) : Bool :=
  (splitOn ranges ',').any fun r =>
    match splitOn r '-' with
    | [a] => a.toNat? == some n
    | [a, b] => decide ((a.toNat?).getD 1 ≤ n) && decide (n ≤ (b.toNat?).getD n)
    | _ => false

/-- Values of options as words of their own. -/
def parted (args : List String) : List String :=
  args.flatMap fun s =>
    match s.toList with
    | '-' :: k :: c :: cs =>
      if "dfc".toList.contains k then [String.ofList ['-', k], String.ofList (c :: cs)] else [s]
    | _ => [s]

/-- The character between fields, the list of fields or of bytes, and the operands. -/
def cutArgs (d : Option Char) (r : Option (Bool × String)) :
    List String → Option Char × Option (Bool × String) × List String
  | "-d" :: v :: rest => cutArgs v.toList.head? r rest
  | "-f" :: v :: rest => cutArgs d (some (true, v)) rest
  | "-c" :: v :: rest => cutArgs d (some (false, v)) rest
  | rest => (d, r, rest)

def numbered {α : Type} (xs : List α) : List (Nat × α) := (List.range xs.length).zip xs

def cut : Tool := fun c =>
  match cutArgs none none (parted c.args) with
  | (_, none, _) =>
    c.failed 1 "you must specify a list of bytes, characters, or fields\nTry 'cut --help' for more information."
  | (delimiter, some (fields, ranges), names) =>
    let d := delimiter.getD '\t'
    c.fromSources names id fun _ bs => (lines bs).flatMap fun line =>
      if fields then
        let parts := splitOn (Utf8.decodeLossy (bare line)) d
        if parts.length = 1 then ended line
        else
          let kept := ((numbered parts).filter fun (i, _) => inRanges ranges (i + 1)).map (·.2)
          ofText (joinWith (String.singleton d) kept ++ "\n")
      else ((numbered (bare line)).filter fun (i, _) => inRanges ranges (i + 1)).map (·.2) ++ [10]

end Runbook.Shell.Tool
