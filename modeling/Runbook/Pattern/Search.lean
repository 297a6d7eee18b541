import Runbook.Pattern.Reader

/-! Searching a text for a regular expression. The leftmost start with a match is found by trying the
choices of each part in order; a part hands what is left to the rest of the pattern. -/

namespace Runbook.Pattern

/-- A place in a text: the characters before it, the nearest first, those after it, and the texts that
the groups took. -/
structure Place where
  before : List Char
  after : List Char
  groups : List (Nat × List Char)

namespace Place

def index (p : Place) : Nat := p.before.length

def advance (p : Place) : Option (Char × Place) :=
  match p.after with
  | c :: rest => some (c, { p with before := c :: p.before, after := rest })
  | [] => none

/-- Moves back by a count of characters. -/
def back? : Nat → Place → Option Place
  | 0, p => some p
  | n + 1, p =>
    match p.before with
    | c :: rest => back? n { p with before := rest, after := c :: p.after }
    | [] => none

def group? (p : Place) (g : Nat) : Option (List Char) := (p.groups.find? (·.1 == g)).map (·.2)

/-- Notes what a group took between the start and here. -/
def capture (p : Place) (g : Nat) (start : Nat) : Place :=
  { p with groups := (g, (p.before.take (p.index - start)).reverse) ::
      p.groups.filter (·.1 != g) }

end Place

def sameChar (f : Flags) (code : Nat) (c : Char) : Bool :=
  if f.ignoreCase then Fold.same f.ascii code c.toNat else code == c.toNat

def wordBefore (f : Flags) (p : Place) : Bool :=
  (p.before.head?.map fun c => Class.word.contains f.ascii c.toNat).getD false

def wordAfter (f : Flags) (p : Place) : Bool :=
  (p.after.head?.map fun c => Class.word.contains f.ascii c.toNat).getD false

/-- An empty text has neither a boundary nor a place inside or outside a word. -/
def anchorHolds (f : Flags) (p : Place) : Anchor → Bool
  | .start => p.before.isEmpty || (f.multiline && p.before.head? == some '\n')
  | .finish =>
    p.after.isEmpty || p.after == ['\n'] || (f.multiline && p.after.head? == some '\n')
  | .textStart => p.before.isEmpty
  | .textFinish => p.after.isEmpty
  | .boundary => wordBefore f p != wordAfter f p
  | .noBoundary => !(p.before.isEmpty && p.after.isEmpty) && wordBefore f p == wordAfter f p

/-- Takes one character that passes a test. -/
def takeOne (test : Char → Bool) (p : Place) (next : Place → Option Place) : Option Place :=
  match p.advance with
  | some (c, p') => if test c then next p' else none
  | none => none

/-- Takes the given characters. -/
def takeText (f : Flags) : List Char → Place → Option Place
  | [], p => some p
  | c :: cs, p =>
    match p.advance with
    | some (d, p') => if sameChar f c.toNat d then takeText f cs p' else none
    | none => none

mutual

/-- The first place at which the sequence and then `next` succeed. -/
def runSeq : Nat → Flags → List Node → Place → (Place → Option Place) → Option Place
  | 0, _, _, _, _ => none
  | fuel + 1, f, nodes, p, next =>
    match nodes with
    | [] => next p
    | n :: rest => runNode fuel f n p fun p' => runSeq fuel f rest p' next

def runNode : Nat → Flags → Node → Place → (Place → Option Place) → Option Place
  | 0, _, _, _, _ => none
  | fuel + 1, f, n, p, next =>
    match n with
    | .one code => takeOne (sameChar f code) p next
    | .any => takeOne (fun c => f.dotAll || c != '\n') p next
    | .set negated items => takeOne (fun c => setContains f negated items c.toNat) p next
    | .anchor a => if anchorHolds f p a then next p else none
    | .group index change body =>
      runSeq fuel (f.change change) body p fun p' =>
        next (match index with
          | some g => p'.capture g p.index
          | none => p')
    | .branch options => runOptions fuel f options p next
    | .repeated .possessive least most body =>
      match runRepeat fuel f .greedy least most body 0 p some with
      | some p' => next p'
      | none => none
    | .repeated greed least most body => runRepeat fuel f greed least most body 0 p next
    | .backref g =>
      match p.group? g with
      | some cs =>
        match takeText f cs p with
        | some p' => next p'
        | none => none
      | none => none
    | .look back negated body =>
      let found :=
        match p.back? (back.getD 0) with
        | some q => runSeq fuel f body q some
        | none => none
      match found with
      | some q => if negated then none else next { p with groups := q.groups }
      | none => if negated then next p else none
    | .atomic body =>
      match runSeq fuel f body p some with
      | some p' => next p'
      | none => none
    | .choice g yes no => runSeq fuel f (if (p.group? g).isSome then yes else no) p next

def runOptions : Nat → Flags → List (List Node) → Place → (Place → Option Place) → Option Place
  | 0, _, _, _, _ => none
  | fuel + 1, f, options, p, next =>
    match options with
    | [] => none
    | o :: rest =>
      match runSeq fuel f o p next with
      | some p' => some p'
      | none => runOptions fuel f rest p next

/-- Repetition number `count` and what follows. A repetition that takes nothing is not tried again once
there are enough of them. -/
def runRepeat : Nat → Flags → Greed → Nat → Option Nat → List Node → Nat → Place →
    (Place → Option Place) → Option Place
  | 0, _, _, _, _, _, _, _, _ => none
  | fuel + 1, f, greed, least, most, body, count, p, next =>
    let again (_ : Unit) : Option Place :=
      if most.any (· ≤ count) then none
      else
        runSeq fuel f body p fun p' =>
          if least ≤ count ∧ p'.index = p.index then none
          else runRepeat fuel f greed least most body (count + 1) p' next
    if count < least then again ()
    else
      match greed with
      | .lazy =>
        match next p with
        | some p' => some p'
        | none => again ()
      | _ =>
        match again () with
        | some p' => some p'
        | none => next p

end

/-- Steps that suffice: each part once for every character and repetition. -/
def fuelFor (p : Pattern) (length : Nat) : Nat := (sizeOfSeq p.body + 2) * (length + sizeOfSeq p.body + 3)

/-- Tries each start from here on. -/
def searchFrom (p : Pattern) (fuel : Nat) : List Char → List Char → Option Place
  | before, after =>
    match runSeq fuel p.flags p.body ⟨before, after, []⟩ some with
    | some q => some q
    | none =>
      match after with
      | [] => none
      | c :: rest => searchFrom p fuel (c :: before) rest

/-- Whether the pattern matches anywhere in the text. -/
def occursIn (p : Pattern) (text : String) : Bool :=
  let cs := text.toList
  (searchFrom p (fuelFor p cs.length) [] cs).isSome

end Runbook.Pattern
