import Runbook.Pattern.Basic
import Runbook.Text.Basic
import Runbook.Unicode.Names

/-! Reading regular expressions. A text that is no regular expression is malformed; a repetition count
beyond the bound is a failure of its own. -/

namespace Runbook.Pattern

inductive Flaw where
  | malformed
  | tooManyRepetitions
  | incompatibleFlags
deriving DecidableEq, Repr

/-- A character, or a character after a backslash. -/
inductive Token where
  | plain (c : Char)
  | escaped (c : Char)
deriving DecidableEq, Repr

def tokens : List Char → Except Flaw (List Token)
  | [] => .ok []
  | '\\' :: [] => .error .malformed
  | '\\' :: c :: rest => (tokens rest).map (.escaped c :: ·)
  | c :: rest => (tokens rest).map (.plain c :: ·)

/-- What the groups and flags read so far are. `widths` has an entry for each group, the whole pattern
first, with none for a group that is open. -/
structure Scope where
  flags : Flags := {}
  unicode : Bool := false
  widths : List (Option Width) := [none]
  names : List (String × Nat) := []
  lookbehind : Option Nat := none
  pending : List Nat := []

namespace Scope

def isClosed (s : Scope) (g : Nat) : Bool := ((s.widths[g]?).bind id).isSome

/-- A reference inside a lookbehind names a closed group from outside it. -/
def allowsReference (s : Scope) (g : Nat) : Bool :=
  match s.lookbehind with
  | some limit => s.isClosed g && g < limit
  | none => true

/-- Opens a group, with a name that no other group has. -/
def open? (s : Scope) (name : Option String) : Option (Nat × Scope) :=
  let g := s.widths.length
  let next := { s with widths := s.widths ++ [none] }
  match name with
  | none => some (g, next)
  | some n =>
    if s.names.any (·.1 == n) then none else some (g, { next with names := s.names ++ [(n, g)] })

def close (s : Scope) (g : Nat) (body : List Node) : Scope :=
  { s with widths := s.widths.set g (some (widthOfSeq s.widths body)) }

end Scope

abbrev Read (α : Type) := Except Flaw (α × List Token)

def malformed {α : Type} : Except Flaw α := .error .malformed

def hexDigit? (c : Char) : Option Nat :=
  if c.isDigit then some (c.toNat - 48)
  else if 'a' ≤ c ∧ c ≤ 'f' then some (c.toNat - 87)
  else if 'A' ≤ c ∧ c ≤ 'F' then some (c.toNat - 55)
  else none

def octDigit? (c : Char) : Option Nat :=
  if '0' ≤ c ∧ c ≤ '7' then some (c.toNat - 48) else none

/-- The value of at most `most` digits, how many there are, and the rest. -/
def takeDigits (digit? : Char → Option Nat) (base : Nat) :
    Nat → Nat → Nat → List Token → Nat × Nat × List Token
  | 0, value, count, ts => (value, count, ts)
  | most + 1, value, count, ts =>
    match ts with
    | .plain c :: rest =>
      match digit? c with
      | some d => takeDigits digit? base most (value * base + d) (count + 1) rest
      | none => (value, count, ts)
    | ts => (value, count, ts)

/-- A code point of exactly so many hexadecimal digits. -/
def hexCode (count : Nat) (ts : List Token) : Read Nat :=
  let (value, found, rest) := takeDigits hexDigit? 16 count 0 0 ts
  if found = count ∧ value < 0x110000 then .ok (value, rest) else malformed

/-- The text up to a closing brace. -/
def untilBrace : List Token → Option (List Char × List Token)
  | [] => none
  | .plain '\x7d' :: rest => some ([], rest)
  | .plain c :: rest => (untilBrace rest).map fun (cs, r) => (c :: cs, r)
  | .escaped c :: rest => (untilBrace rest).map fun (cs, r) => ('\\' :: c :: cs, r)

/-- A code point by the name of its character in braces. -/
def namedCode (ts : List Token) : Read Nat :=
  match ts with
  | .plain '\x7b' :: rest =>
    match untilBrace rest with
    | some (name, rest) =>
      match Unicode.charNamed? (String.ofList name) with
      | some n => .ok (n, rest)
      | none => malformed
    | none => malformed
  | _ => malformed

def controlEscape? : Char → Option Nat
  | 'a' => some 7
  | 'f' => some 12
  | 'n' => some 10
  | 'r' => some 13
  | 't' => some 9
  | 'v' => some 11
  | '\\' => some 92
  | _ => none

def classEscape? : Char → Option (Class × Bool)
  | 'd' => some (.digit, false)
  | 'D' => some (.digit, true)
  | 's' => some (.space, false)
  | 'S' => some (.space, true)
  | 'w' => some (.word, false)
  | 'W' => some (.word, true)
  | _ => none

def anchorEscape? : Char → Option Anchor
  | 'A' => some .textStart
  | 'Z' => some .textFinish
  | 'b' => some .boundary
  | 'B' => some .noBoundary
  | _ => none

/-- An escape inside a set: a class or a code point. -/
def setEscape (c : Char) (ts : List Token) : Read SetItem :=
  if c = 'b' then .ok (.one 8, ts)
  else
    match controlEscape? c, classEscape? c with
    | some n, _ => .ok (.one n, ts)
    | none, some (k, negated) => .ok (.kind k negated, ts)
    | none, none =>
      if c = 'x' then (hexCode 2 ts).map fun (n, r) => (.one n, r)
      else if c = 'u' then (hexCode 4 ts).map fun (n, r) => (.one n, r)
      else if c = 'U' then (hexCode 8 ts).map fun (n, r) => (.one n, r)
      else if c = 'N' then (namedCode ts).map fun (n, r) => (.one n, r)
      else
        match octDigit? c with
        | some d =>
          let (value, _, rest) := takeDigits octDigit? 8 2 d 0 ts
          if value ≤ 0o377 then .ok (.one value, rest) else malformed
        | none => if c.isAlphanum then malformed else .ok (.one c.toNat, ts)

def digit? (c : Char) : Option Nat := if c.isDigit then some (c.toNat - 48) else none

/-- Three octal digits after a backslash, the first of them given. -/
def octalEscape? (first : Char) : List Token → Option (Nat × List Token)
  | .plain b :: .plain c :: rest =>
    match octDigit? first, octDigit? b, octDigit? c with
    | some x, some y, some z => some ((x * 8 + y) * 8 + z, rest)
    | _, _, _ => none
  | _ => none

/-- A reference to a group by one or two digits, or an octal escape of three. -/
def numberEscape (s : Scope) (first : Char) (ts : List Token) : Read Node :=
  match octalEscape? first ts with
  | some (value, rest) => if value ≤ 0o377 then .ok (.one value, rest) else malformed
  | none =>
    let (g, _, rest) := takeDigits digit? 10 1 (first.toNat - 48) 0 ts
    if g < s.widths.length ∧ s.isClosed g ∧ s.allowsReference g then .ok (.backref g, rest)
    else malformed

def escape (s : Scope) (c : Char) (ts : List Token) : Read Node :=
  match classEscape? c, anchorEscape? c, controlEscape? c with
  | some (k, negated), _, _ => .ok (.set false [.kind k negated], ts)
  | none, some a, _ => .ok (.anchor a, ts)
  | none, none, some n => .ok (.one n, ts)
  | none, none, none =>
    if c = 'x' then (hexCode 2 ts).map fun (n, r) => (.one n, r)
    else if c = 'u' then (hexCode 4 ts).map fun (n, r) => (.one n, r)
    else if c = 'U' then (hexCode 8 ts).map fun (n, r) => (.one n, r)
    else if c = 'N' then (namedCode ts).map fun (n, r) => (.one n, r)
    else if c = '0' then
      let (value, _, rest) := takeDigits octDigit? 8 2 0 0 ts
      .ok (.one value, rest)
    else if c.isDigit then numberEscape s c ts
    else if c.isAlphanum then malformed
    else .ok (.one c.toNat, ts)

/-- One member of a set, or the low end of a range. -/
def setMember (t : Token) (ts : List Token) : Read SetItem :=
  match t with
  | .plain c => .ok (.one c.toNat, ts)
  | .escaped c => setEscape c ts

/-- The members of a set up to the closing bracket; a bracket at the start is a member. -/
def setMembers : Nat → List SetItem → List Token → Read (List SetItem)
  | 0, _, _ => malformed
  | _ + 1, _, [] => malformed
  | fuel + 1, done, t :: ts =>
    if t = .plain ']' ∧ !done.isEmpty then .ok (done.reverse, ts)
    else
      match setMember t ts with
      | .error e => .error e
      | .ok (low, .plain '-' :: rest) =>
        match rest with
        | [] => malformed
        | .plain ']' :: more => .ok ((.one 45 :: low :: done).reverse, more)
        | t' :: more =>
          match setMember t' more with
          | .error e => .error e
          | .ok (high, more) =>
            match low, high with
            | .one a, .one b =>
              if a ≤ b then setMembers fuel (.range a b :: done) more else malformed
            | _, _ => malformed
      | .ok (item, rest) => setMembers fuel (item :: done) rest

def setNode (ts : List Token) : Read Node :=
  let (negated, ts) :=
    match ts with
    | .plain '^' :: rest => (true, rest)
    | ts => (false, ts)
  (setMembers (ts.length + 1) [] ts).map fun (items, rest) => (.set negated items, rest)

structure Bounds where
  least : Nat
  most : Option Nat

def takeWhileDigits : List Token → List Char × List Token
  | .plain c :: rest =>
    if c.isDigit then
      let (ds, more) := takeWhileDigits rest
      (c :: ds, more)
    else ([], .plain c :: rest)
  | ts => ([], ts)

def valueOf (ds : List Char) : Nat := ds.foldl (fun n d => 10 * n + (d.toNat - 48)) 0

/-- The counts in braces; none if what follows the brace is no count, and the brace stands for itself. -/
def braces? (ts : List Token) : Option (Except Flaw (Bounds × List Token)) :=
  match ts with
  | .plain '\x7d' :: _ => none
  | ts =>
    let (low, rest) := takeWhileDigits ts
    let (high, rest) :=
      match rest with
      | .plain ',' :: more => takeWhileDigits more
      | rest => (low, rest)
    match rest with
    | .plain '\x7d' :: rest =>
      let least := valueOf low
      let most := if high.isEmpty then none else some (valueOf high)
      if maxRepeat ≤ least ∨ (most.any (maxRepeat ≤ ·)) then some (.error .tooManyRepetitions)
      else if most.any (· < least) then some malformed
      else some (.ok (⟨least, most⟩, rest))
    | _ => none

/-- The counts of a repetition sign. -/
def quantifier? (c : Char) (ts : List Token) : Option (Except Flaw (Bounds × List Token)) :=
  match c with
  | '?' => some (.ok (⟨0, some 1⟩, ts))
  | '*' => some (.ok (⟨0, none⟩, ts))
  | '+' => some (.ok (⟨1, none⟩, ts))
  | '\x7b' => braces? ts
  | _ => none

def greedOf : List Token → Greed × List Token
  | .plain '?' :: rest => (.lazy, rest)
  | .plain '+' :: rest => (.possessive, rest)
  | ts => (.greedy, ts)

/-- Repeats the last part read, which stands first; anchors and repetitions cannot be repeated. -/
def repeatLast (b : Bounds) (greed : Greed) : List Node → Except Flaw (List Node)
  | [] => malformed
  | .anchor _ :: _ => malformed
  | .repeated .. :: _ => malformed
  | n :: rest => .ok (.repeated greed b.least b.most [n] :: rest)

def tokenText : Token → List Char
  | .plain c => [c]
  | .escaped c => ['\\', c]

/-- The characters up to a terminator, of which there is at least one. -/
def nameUntil (stop : Char) : List Char → List Token → Read (List Char)
  | _, [] => malformed
  | done, t :: ts =>
    if t = .plain stop then (if done.isEmpty then malformed else .ok (done.reverse, ts))
    else nameUntil stop ((tokenText t).reverse ++ done) ts

def isName : List Char → Bool
  | c :: cs => !Unicode.isDigit c && Unicode.isWordChar c && cs.all Unicode.isWordChar
  | [] => false

def flagOf? : Char → Option Flags
  | 'i' => some { ignoreCase := true }
  | 'm' => some { multiline := true }
  | 's' => some { dotAll := true }
  | 'a' => some { ascii := true }
  | 'x' => some { verbose := true }
  | 'u' => some {}
  | _ => none

/-- The letters of flags up to a character that ends them. -/
def flagLetters : List Char → List Token → Read (List Char × Char)
  | _, [] => malformed
  | _, .escaped _ :: _ => malformed
  | done, .plain c :: ts =>
    if c = ')' ∨ c = ':' ∨ c = '-' then .ok ((done.reverse, c), ts)
    else
      match flagOf? c with
      | some _ => flagLetters (c :: done) ts
      | none => malformed

def unionOf (letters : List Char) : Flags :=
  letters.foldl (fun f c => f.union ((flagOf? c).getD {})) {}

/-- Flags for the whole pattern, or for the group that follows. -/
inductive FlagPart where
  | global (on : Flags) (unicode : Bool)
  | scoped (change : FlagChange)

/-- The flags after `(?`. Letters for the alphabet exclude each other and cannot be turned off. -/
def flagPart (ts : List Token) : Read FlagPart :=
  match flagLetters [] ts with
  | .error e => .error e
  | .ok ((on, stop), rest) =>
    if on.contains 'a' ∧ on.contains 'u' then malformed
    else if stop = ')' then
      if on.isEmpty then malformed else .ok (.global (unionOf on) (on.contains 'u'), rest)
    else if stop = ':' then
      if on.isEmpty then malformed else .ok (.scoped { on := unionOf on }, rest)
    else
      match flagLetters [] rest with
      | .error e => .error e
      | .ok ((off, stop'), rest) =>
        if off.isEmpty ∨ stop' ≠ ':' ∨ off.contains 'a' ∨ off.contains 'u' ∨
            on.any off.contains then malformed
        else .ok (.scoped { on := unionOf on, off := unionOf off }, rest)

/-- The group that a condition asks for, by name or by number. -/
def conditionGroup (s : Scope) (name : List Char) : Except Flaw (Nat × Scope) :=
  if isName name then
    match s.names.find? (·.1 == String.ofList name) with
    | some (_, g) => .ok (g, s)
    | none => malformed
  else if name.all Char.isDigit then
    let g := valueOf name
    if g = 0 then malformed else .ok (g, { s with pending := g :: s.pending })
  else malformed

def skipComment : List Token → Except Flaw (List Token)
  | [] => malformed
  | .plain ')' :: rest => .ok rest
  | _ :: rest => skipComment rest

def skipLine : List Token → List Token
  | [] => []
  | .plain '\n' :: rest => rest
  | _ :: rest => skipLine rest

def isVerboseBlank (c : Char) : Bool :=
  c = ' ' || c = '\t' || c = '\n' || c = '\r' || c = '\x0b' || c = '\x0c'

/-- Splices a group without a number and without flags into the sequence around it. -/
def splice : List Node → List Node
  | [] => []
  | .group none c body :: rest =>
    if c.on.isNone && c.off.isNone then body ++ splice rest else .group none c body :: splice rest
  | n :: rest => n :: splice rest

/-- What has been read of a sequence: the parts, the last one first, and the scope. -/
structure Progress where
  done : List Node
  scope : Scope
  verbose : Bool

mutual

/-- Alternatives with bars between them. `top` holds at the level of the whole pattern. -/
def readOptions : Nat → Scope → Bool → Bool → List Token →
    Read (List Node × Scope)
  | 0, _, _, _, _ => malformed
  | fuel + 1, s, verbose, top, ts =>
    match readSeq fuel ⟨[], s, verbose⟩ top ts with
    | .error e => .error e
    | .ok ((first, s), rest) => readMore fuel s verbose top [first] rest

def readMore : Nat → Scope → Bool → Bool → List (List Node) → List Token →
    Read (List Node × Scope)
  | 0, _, _, _, _, _ => malformed
  | fuel + 1, s, verbose, top, options, ts =>
    match ts with
    | .plain '|' :: rest =>
      let verbose := if top then s.flags.verbose else verbose
      match readSeq fuel ⟨[], s, verbose⟩ false rest with
      | .error e => .error e
      | .ok ((next, s), rest) => readMore fuel s verbose top (options ++ [next]) rest
    | ts =>
      match options with
      | [only] => .ok ((only, s), ts)
      | options => .ok (([.branch options], s), ts)

/-- A sequence up to a bar or a closing parenthesis. `first` holds where flags for the whole pattern may
stand. -/
def readSeq : Nat → Progress → Bool → List Token → Read (List Node × Scope)
  | 0, _, _, _ => malformed
  | fuel + 1, p, first, ts =>
    let add (n : Node) (rest : List Token) := readSeq fuel { p with done := n :: p.done } first rest
    match ts with
    | [] => .ok ((splice p.done.reverse, p.scope), [])
    | .escaped c :: rest =>
      match escape p.scope c rest with
      | .error e => .error e
      | .ok (n, rest) => add n rest
    | .plain c :: rest =>
      if c = '|' ∨ c = ')' then .ok ((splice p.done.reverse, p.scope), ts)
      else if p.verbose ∧ isVerboseBlank c then readSeq fuel p first rest
      else if p.verbose ∧ c = '#' then readSeq fuel p first (skipLine rest)
      else if c = '.' then add .any rest
      else if c = '^' then add (.anchor .start) rest
      else if c = '$' then add (.anchor .finish) rest
      else if c = '[' then
        match setNode rest with
        | .error e => .error e
        | .ok (n, rest) => add n rest
      else if c = '(' then
        match rest with
        | .plain '?' :: more => readExtension fuel p first more
        | rest => readGroup fuel p first none {} false rest
      else
        match quantifier? c rest with
        | none => add (.one c.toNat) rest
        | some (.error e) => .error e
        | some (.ok (b, rest)) =>
          let (greed, rest) := greedOf rest
          match repeatLast b greed p.done with
          | .error e => .error e
          | .ok done => readSeq fuel { p with done } first rest

/-- A group up to its closing parenthesis, and the rest of the sequence. The name `some none` stands for
a group without a number. -/
def readGroup : Nat → Progress → Bool → Option (Option String) → FlagChange → Bool → List Token →
    Read (List Node × Scope)
  | 0, _, _, _, _, _, _ => malformed
  | fuel + 1, p, first, name, change, atomic, ts =>
    let opened : Option (Option Nat × Scope) :=
      match name with
      | some none => some (none, p.scope)
      | some (some n) => (p.scope.open? (some n)).map fun (g, s) => (some g, s)
      | none => (p.scope.open? none).map fun (g, s) => (some g, s)
    match opened with
    | none => malformed
    | some (index, s) =>
      let verbose := (p.verbose || change.on.verbose) && !change.off.verbose
      match readOptions fuel s verbose false ts with
      | .ok ((body, s), .plain ')' :: rest) =>
        let s := match index with
          | some g => s.close g body
          | none => s
        let node : Node := if atomic then .atomic body else .group index change body
        readSeq fuel { p with done := node :: p.done, scope := s } first rest
      | .ok _ => malformed
      | .error e => .error e

/-- A lookahead or lookbehind; what is looked behind has a fixed width. -/
def readLook : Nat → Progress → Bool → Bool → Bool → List Token →
    Read (List Node × Scope)
  | 0, _, _, _, _, _ => malformed
  | fuel + 1, p, first, ahead, negated, ts =>
    let outer := p.scope.lookbehind
    let s :=
      if ahead || outer.isSome then p.scope
      else { p.scope with lookbehind := some p.scope.widths.length }
    match readOptions fuel s p.verbose false ts with
    | .ok ((body, s), .plain ')' :: rest) =>
      let s := if ahead then s else { s with lookbehind := outer }
      let w := widthOfSeq s.widths body
      if !ahead ∧ w.least ≠ w.most then malformed
      else readSeq fuel { p with
        done := .look (if ahead then none else some w.least) negated body :: p.done, scope := s } first rest
    | .ok _ => malformed
    | .error e => .error e

/-- What follows `(?`. -/
def readExtension : Nat → Progress → Bool → List Token →
    Read (List Node × Scope)
  | 0, _, _, _ => malformed
  | fuel + 1, p, first, ts =>
    match ts with
    | .plain ':' :: rest => readGroup fuel p first (some none) {} false rest
    | .plain '>' :: rest => readGroup fuel p first (some none) {} true rest
    | .plain '=' :: rest => readLook fuel p first true false rest
    | .plain '!' :: rest => readLook fuel p first true true rest
    | .plain '<' :: .plain '=' :: rest => readLook fuel p first false false rest
    | .plain '<' :: .plain '!' :: rest => readLook fuel p first false true rest
    | .plain '#' :: rest =>
      match skipComment rest with
      | .error e => .error e
      | .ok rest => readSeq fuel p first rest
    | .plain 'P' :: .plain '<' :: rest =>
      match nameUntil '>' [] rest with
      | .error e => .error e
      | .ok (name, rest) =>
        if isName name then readGroup fuel p first (some (some (String.ofList name))) {} false rest
        else malformed
    | .plain 'P' :: .plain '=' :: rest =>
      match nameUntil ')' [] rest with
      | .error e => .error e
      | .ok (name, rest) =>
        match p.scope.names.find? (·.1 == String.ofList name) with
        | some (_, g) =>
          if p.scope.isClosed g ∧ p.scope.allowsReference g then
            readSeq fuel { p with done := .backref g :: p.done } first rest
          else malformed
        | none => malformed
    | .plain '(' :: rest =>
      match nameUntil ')' [] rest with
      | .error e => .error e
      | .ok (name, rest) =>
        match conditionGroup p.scope name with
        | .error e => .error e
        | .ok (g, s) =>
          if !s.allowsReference g then malformed
          else
            match readSeq fuel ⟨[], s, p.verbose⟩ false rest with
            | .error e => .error e
            | .ok ((yes, s), .plain '|' :: rest) =>
              match readSeq fuel ⟨[], s, p.verbose⟩ false rest with
              | .ok ((no, s), .plain ')' :: rest) =>
                readSeq fuel { p with done := .choice g yes no :: p.done, scope := s } first rest
              | .ok _ => malformed
              | .error e => .error e
            | .ok ((yes, s), .plain ')' :: rest) =>
              readSeq fuel { p with done := .choice g yes [] :: p.done, scope := s } first rest
            | .ok _ => malformed
    | ts =>
      match flagPart ts with
      | .error e => .error e
      | .ok (.global on unicode, rest) =>
        if first ∧ p.done.isEmpty then
          let s := { p.scope with
            flags := p.scope.flags.union on, unicode := p.scope.unicode || unicode }
          readSeq fuel { p with scope := s, verbose := s.flags.verbose } first rest
        else malformed
      | .ok (.scoped change, rest) => readGroup fuel p first (some none) change false rest

end

end Pattern

open Pattern in
/-- A regular expression and its flags. -/
structure Pattern where
  flags : Flags
  body : List Node

namespace Pattern

/-- Conditions may name groups that come later, but they have to come. -/
def parse (text : String) : Except Flaw Pattern :=
  match tokens text.toList with
  | .error e => .error e
  | .ok ts =>
    match readOptions (6 * ts.length + 16) {} false true ts with
    | .error e => .error e
    | .ok (_, _ :: _) => malformed
    | .ok ((body, s), []) =>
      if s.pending.any (s.widths.length ≤ ·) then malformed
      else if s.flags.ascii && s.unicode then .error .incompatibleFlags
      else .ok ⟨s.flags, body⟩

end Pattern

end Runbook
