import Runbook.Shell.Syntax

/-! Reading scripts: characters to tokens, tokens to commands, one line of commands at a time. -/

namespace Runbook.Shell

structure SyntaxError where
  line : Nat
  message : String
deriving DecidableEq, Repr

/-! ## Words -/

inductive Flaw where
  | openQuote
  | openBackquote
  | openBrace
  | openParenthesis
  | openNumber
  | badSubstitution
deriving DecidableEq, Repr

def Flaw.message : Flaw → String
  | .openQuote => "Syntax error: Unterminated quoted string"
  | .openBackquote => "Syntax error: EOF in backquote substitution"
  | .openBrace => "Syntax error: Missing '\x7d'"
  | .openParenthesis => "Syntax error: end of file unexpected (expecting \")\")"
  | .openNumber => "Syntax error: Missing '))'"
  | .badSubstitution => "Bad substitution"

def isNameStart (c : Char) : Bool := c.isAlpha || c == '_'

def isNamePart (c : Char) : Bool := c.isAlphanum || c == '_'

def isName (cs : List Char) : Bool :=
  match cs with
  | c :: rest => isNameStart c && rest.all isNamePart
  | [] => false

/-- Whether a character ends a word that is not quoted. -/
def endsWord (c : Char) : Bool := " \t\n;&|<>()".toList.contains c

/-- The text up to the mark that closes what was opened before it, and what follows the mark. Marks between
quotes do not count. -/
def enclosed (opening closing : Char) (depth : Nat) (quote : Option Char) :
    List Char → Option (List Char × List Char)
  | [] => none
  | '\\' :: c :: rest =>
    if quote = some '\'' then
      (enclosed opening closing depth (if c = '\'' then none else quote) rest).map fun (a, b) =>
        ('\\' :: c :: a, b)
    else (enclosed opening closing depth quote rest).map fun (a, b) => ('\\' :: c :: a, b)
  | c :: rest =>
    match quote with
    | some q =>
      (enclosed opening closing depth (if c = q then none else quote) rest).map fun (a, b) => (c :: a, b)
    | none =>
      if c = closing && depth = 0 then some ([], rest)
      else
        let depth := if c = opening then depth + 1 else if c = closing then depth - 1 else depth
        let quote := if c = '\'' || c = '"' then some c else none
        (enclosed opening closing depth quote rest).map fun (a, b) => (c :: a, b)

/-- The text before the next back quote, without the backslashes that guard marks in it. -/
def backquoted : List Char → Option (List Char × List Char)
  | [] => none
  | '`' :: rest => some ([], rest)
  | '\\' :: c :: rest =>
    (backquoted rest).map fun (a, b) =>
      (if c = '`' || c = '\\' || c = '$' then c :: a else '\\' :: c :: a, b)
  | c :: rest => (backquoted rest).map fun (a, b) => (c :: a, b)

def isSpecial (c : Char) : Bool := c.isDigit || "?$#@*!-".toList.contains c

/-- The rule behind the name of a parameter in braces. -/
def ruleOf? : List Char → Option (Option Rule)
  | [] => some none
  | ':' :: '-' :: w => some (some ⟨.fallback, true, w⟩)
  | '-' :: w => some (some ⟨.fallback, false, w⟩)
  | ':' :: '=' :: w => some (some ⟨.assigned, true, w⟩)
  | '=' :: w => some (some ⟨.assigned, false, w⟩)
  | ':' :: '+' :: w => some (some ⟨.replacement, true, w⟩)
  | '+' :: w => some (some ⟨.replacement, false, w⟩)
  | ':' :: '?' :: w => some (some ⟨.demand, true, w⟩)
  | '?' :: w => some (some ⟨.demand, false, w⟩)
  | '%' :: '%' :: w => some (some ⟨.trimmed true true, false, w⟩)
  | '%' :: w => some (some ⟨.trimmed true false, false, w⟩)
  | '#' :: '#' :: w => some (some ⟨.trimmed false true, false, w⟩)
  | '#' :: w => some (some ⟨.trimmed false false, false, w⟩)
  | _ => none

/-- The name at the start of a text, and the rest. -/
def nameAt : List Char → List Char × List Char
  | c :: rest =>
    if isNameStart c then (c :: rest.takeWhile isNamePart, rest.dropWhile isNamePart)
    else if c.isDigit then (c :: rest.takeWhile Char.isDigit, rest.dropWhile Char.isDigit)
    else if isSpecial c then ([c], rest)
    else ([], c :: rest)
  | [] => ([], [])

def braced (quoted : Bool) (body : List Char) : Except Flaw Piece :=
  match body with
  | '#' :: c :: more =>
    match nameAt (c :: more) with
    | (name, []) =>
      if name.isEmpty then .error .badSubstitution else .ok (.size (String.ofList name) quoted)
    | _ => .error .badSubstitution
  | _ =>
    match nameAt body with
    | ([], _) => .error .badSubstitution
    | (name, rest) =>
      match ruleOf? rest with
      | some rule => .ok (.parameter (String.ofList name) rule quoted)
      | none => .error .badSubstitution

/-- The substitution behind a dollar, and the rest. A dollar before anything else stands for itself. -/
def dollar (quoted : Bool) (cs : List Char) : Except Flaw (Piece × List Char) :=
  let command (rest : List Char) :=
    match enclosed '(' ')' 0 none rest with
    | some (script, after) => .ok (.output script quoted, after)
    | none => .error .openParenthesis
  match cs with
  | '(' :: '(' :: rest =>
    match enclosed '(' ')' 0 none rest with
    | some (body, ')' :: after) => .ok (.number body quoted, after)
    | some _ => command ('(' :: rest)
    | none => .error .openNumber
  | '(' :: rest => command rest
  | '\x7b' :: rest =>
    match enclosed '\x7b' '\x7d' 0 none rest with
    | some (body, after) => (braced quoted body).map (·, after)
    | none => .error .openBrace
  | c :: rest =>
    if isNameStart c then
      .ok (.parameter (String.ofList (nameAt cs).1) none quoted, (nameAt cs).2)
    else if isSpecial c then .ok (.parameter (String.singleton c) none quoted, rest)
    else .ok (.text ['$'] quoted, cs)
  | [] => .ok (.text ['$'] quoted, [])

/-- The pieces of a text in double quotes. With `closed` a quote has to end it, and what follows is the
rest; without, it goes to the end. -/
def quotedPieces (closed : Bool) : Nat → List Char → Except Flaw (Word × List Char)
  | 0, _ => .error .openQuote
  | _ + 1, [] => if closed then .error .openQuote else .ok ([], [])
  | fuel + 1, '\\' :: c :: rest => do
    let (w, after) ← quotedPieces closed fuel rest
    if c = '\n' then return (w, after)
    else if "$`\\".toList.contains c || (c = '"' && closed) then return (.text [c] true :: w, after)
    else return (.text ['\\', c] true :: w, after)
  | fuel + 1, '$' :: rest => do
    let (p, rest) ← dollar true rest
    let (w, after) ← quotedPieces closed fuel rest
    return (p :: w, after)
  | fuel + 1, '`' :: rest =>
    match backquoted rest with
    | none => .error .openBackquote
    | some (script, rest) => do
      let (w, after) ← quotedPieces closed fuel rest
      return (.output script true :: w, after)
  | fuel + 1, c :: rest =>
    if c = '"' && closed then .ok ([], rest)
    else do
      let (w, after) ← quotedPieces closed fuel rest
      return (.text [c] true :: w, after)

/-- The pieces of a word, and what follows it. With `whole` only the end of the text ends the word. -/
def plainPieces (whole : Bool) : Nat → List Char → Except Flaw (Word × List Char)
  | 0, cs => .ok ([], cs)
  | _ + 1, [] => .ok ([], [])
  | fuel + 1, '\\' :: c :: rest => do
    let (w, after) ← plainPieces whole fuel rest
    return (if c = '\n' then w else .text [c] true :: w, after)
  | fuel + 1, '$' :: rest => do
    let (p, rest) ← dollar false rest
    let (w, after) ← plainPieces whole fuel rest
    return (w.push p, after)
  | fuel + 1, '`' :: rest =>
    match backquoted rest with
    | none => .error .openBackquote
    | some (script, rest) => do
      let (w, after) ← plainPieces whole fuel rest
      return (.output script false :: w, after)
  | fuel + 1, '\'' :: rest =>
    match Text.cut? ['\''] rest with
    | none => .error .openQuote
    | some (inside, rest) => do
      let (w, after) ← plainPieces whole fuel rest
      return (.text inside true :: w, after)
  | fuel + 1, '"' :: rest => do
    let (q, rest) ← quotedPieces true (rest.length + 1) rest
    let (w, after) ← plainPieces whole fuel rest
    return ((if q.isEmpty then [.text [] true] else q) ++ w, after)
  | fuel + 1, c :: rest =>
    if endsWord c && !whole then .ok ([], c :: rest)
    else do
      let (w, after) ← plainPieces whole fuel rest
      return (w.push (.text [c] false), after)

/-- A text as one word. -/
def readWord (cs : List Char) : Except Flaw Word := (plainPieces true (cs.length + 1) cs).map (·.1)

/-- A text as if it stood in double quotes. -/
def readQuoted (cs : List Char) : Except Flaw Word := (quotedPieces false (cs.length + 1) cs).map (·.1)

/-! ## Tokens -/

/-- The lines before the one that holds a delimiter alone, and what follows that line. With `strip` tabs at
the start of lines do not count. -/
def linesBefore (delimiter : List Char) (strip : Bool) : List (List Char) → List Char × List (List Char)
  | [] => ([], [])
  | l :: rest =>
    let l := if strip then l.dropWhile (· == '\t') else l
    if l = delimiter then ([], rest)
    else
      let (body, after) := linesBefore delimiter strip rest
      (l ++ '\n' :: body, after)

/-- The document that begins on the line after this one, and the text without it. -/
def document (delimiter : List Char) (strip : Bool) (cs : List Char) : List Char × List Char :=
  match Text.splitChars '\n' cs with
  | here :: below =>
    let (body, after) := linesBefore delimiter strip (if below.getLast? = some [] then below.dropLast else below)
    (body, here ++ after.flatMap fun l => '\n' :: l)
  | [] => ([], [])

/-- The characters of a word without its quotes, and whether there were any. -/
def unquote (w : Word) : List Char × Bool :=
  (w.flatMap fun
    | .text cs _ => cs
    | _ => [], w.any fun
    | .text _ quoted => quoted
    | _ => false)

inductive Token where
  | word (w : Word) (line : Nat)
  | sign (s : String) (line : Nat)
  | stream (n : Nat) (line : Nat)
  | document (body : Word) (line : Nat)
  | newline (line : Nat)
  | flaw (f : Flaw) (line : Nat)
  | ended (line : Nat)
deriving DecidableEq, Repr

/-- The signs, those that begin with others before them. -/
def signs : List String := ["&&", "||", ";;", "<<-", "<<", ">>", ">&", "<&", ">|", ";", "&", "|", "(", ")", "<", ">"]

def signAt? (cs : List Char) : Option (String × List Char) :=
  signs.findSome? fun s => (s.toList.isPrefixOf? cs).map (s, ·)

/-- The tokens of a text; an end, or a flaw in its place, stands behind all others. `taken` counts the lines
of documents that begin on a line. -/
def tokens (taken : Nat) : Nat → Nat → List Char → List Token
  | 0, line, _ => [.ended line]
  | _ + 1, line, [] => [.ended line]
  | fuel + 1, line, c :: rest =>
    if c = ' ' || c = '\t' then tokens taken fuel line rest
    else if c = '\n' then .newline line :: tokens 0 fuel (line + 1 + taken) rest
    else if c = '#' then tokens taken fuel line (rest.dropWhile (· != '\n'))
    else if c = '\\' && rest.head? = some '\n' then tokens taken fuel (line + 1) (rest.drop 1)
    else
      match signAt? (c :: rest) with
      | some (s, after) =>
        if s = "<<" || s = "<<-" then
          let after := after.dropWhile fun c => c = ' ' || c = '\t'
          match plainPieces false (after.length + 1) after with
          | .error f => [.flaw f line]
          | .ok (w, after) =>
            let (delimiter, quoted) := unquote w
            let (body, after) := document delimiter (s = "<<-") after
            match if quoted then .ok [.text body true] else readQuoted body with
            | .error f => [.flaw f line]
            | .ok w =>
              .document w line :: tokens (taken + body.count '\n' + 1) fuel line after
        else .sign s line :: tokens taken fuel line after
      | none =>
        let digits := (c :: rest).takeWhile Char.isDigit
        let behind := (c :: rest).dropWhile Char.isDigit
        if !digits.isEmpty && (behind.head? = some '<' || behind.head? = some '>') then
          .stream ((String.ofList digits).toNat?.getD 0) line :: tokens taken fuel line behind
        else
          match plainPieces false (rest.length + 2) (c :: rest) with
          | .error f => [.flaw f line]
          | .ok (w, after) =>
            let own := (c :: rest).take (rest.length + 1 - after.length)
            .word w line :: tokens taken fuel (line + own.count '\n') after

namespace Token

def isNewline : Token → Bool
  | .newline _ => true
  | _ => false

def isEnd : Token → Bool
  | .ended _ => true
  | _ => false

def isSign (name : String) : Token → Bool
  | .sign s _ => s == name
  | _ => false

def line : Token → Nat
  | .word _ n | .sign _ n | .stream _ n | .document _ n | .newline n | .flaw _ n | .ended n => n

def keywords : List String :=
  ["if", "then", "else", "elif", "fi", "do", "done", "case", "esac", "while", "until", "for", "in", "!",
    "\x7b", "\x7d"]

def keyword? : Token → Option String
  | .word w _ => w.bare?.filter keywords.contains
  | _ => none

def isKeyword (k : String) (t : Token) : Bool := t.keyword? == some k

/-- Whether a list of commands ends before the token. -/
def closes (t : Token) : Bool :=
  match t with
  | .word .. =>
    (t.keyword?.map ["then", "else", "elif", "fi", "do", "done", "esac", "\x7d"].contains).getD false
  | .sign s _ => s == ")" || s == ";;"
  | .ended _ => true
  | _ => false

def shown (t : Token) : String :=
  match t with
  | .newline _ => "newline"
  | .sign s _ =>
    if s.startsWith "<" || s.startsWith ">" then "redirection" else "\"" ++ s ++ "\""
  | .stream .. | .document .. => "redirection"
  | .flaw .. | .ended _ => "end of file"
  | .word .. =>
    match t.keyword? with
    | some k => "\"" ++ k ++ "\""
    | none => "word"

end Token

/-! ## Commands -/

/-- Reads from the tokens ahead. -/
abbrev Reading := StateT (List Token) (Except SyntaxError)

namespace Reading

def ahead : Reading Token := do return (← get).head?.getD (.ended 1)

def behindAhead : Reading Token := do return ((← get).drop 1).head?.getD (.ended 1)

def advance : Reading Unit := modify fun ts => if ts.length ≤ 1 then ts else ts.drop 1

def skipLines : Reading Unit := modify (·.dropWhile Token.isNewline)

/-- The token ahead cannot stand where it stands; `wanted` could. -/
def unexpected {α : Type} (wanted : Option String) : Reading α := do
  match ← ahead with
  | .flaw f n => throw ⟨n, f.message⟩
  | t =>
    throw ⟨t.line, "Syntax error: " ++ t.shown ++ " unexpected" ++
      match wanted with
      | some w => " (expecting " ++ w ++ ")"
      | none => ""⟩

/-- Takes a token if it is ahead. -/
def takeIf (test : Token → Bool) : Reading Bool := do
  if test (← ahead) then
    advance
    return true
  else return false

def keyword (k : String) : Reading Unit := do
  if !(← takeIf (·.isKeyword k)) then unexpected (some ("\"" ++ k ++ "\""))

def sign (s : String) : Reading Unit := do
  if !(← takeIf (·.isSign s)) then unexpected (some ("\"" ++ s ++ "\""))

def redirectOf? (stream : Option Nat) (sign : String) (target : Word) : Option Redirect :=
  match sign with
  | "<" => some ⟨stream.getD 0, .read, target⟩
  | ">" | ">|" => some ⟨stream.getD 1, .write, target⟩
  | ">>" => some ⟨stream.getD 1, .append, target⟩
  | ">&" => some ⟨stream.getD 1, .copy, target⟩
  | "<&" => some ⟨stream.getD 0, .copy, target⟩
  | _ => none

/-- A redirection, where one stands. -/
def redirect? : Reading (Option Redirect) := do
  let stream ←
    match ← ahead with
    | .stream n _ =>
      advance
      pure (some n)
    | _ => pure none
  match ← ahead with
  | .document w _ =>
    advance
    return some ⟨stream.getD 0, .document, w⟩
  | .sign s _ =>
    if (redirectOf? none s []).isNone then return none
    advance
    match ← ahead with
    | .word w _ =>
      advance
      return redirectOf? stream s w
    | _ => unexpected none
  | _ => return none

def redirects : Nat → Reading (List Redirect)
  | 0 => return []
  | fuel + 1 => do
    match ← redirect? with
    | some r => return r :: (← redirects fuel)
    | none => return []

/-- The name and the value of a word that assigns. -/
def assignment? : Word → Option (String × Word)
  | .text cs false :: rest =>
    match Text.cut? ['='] cs with
    | some (name, value) =>
      if isName name then
        some (String.ofList name, if value.isEmpty then rest else .text value false :: rest)
      else none
    | none => none
  | _ => none

/-- The words and redirections of a command that stands alone. -/
def simpleParts (s : Simple) : Nat → Reading Simple
  | 0 => return s
  | fuel + 1 => do
    match ← redirect? with
    | some r => simpleParts { s with redirects := s.redirects ++ [r] } fuel
    | none =>
      match ← ahead with
      | .word w _ =>
        advance
        match if s.words.isEmpty then assignment? w else none with
        | some a => simpleParts { s with assignments := s.assignments ++ [a] } fuel
        | none => simpleParts { s with words := s.words ++ [w] } fuel
      | _ => return s

/-- The words up to the end of a line. -/
def wordsAhead : Nat → Reading (List Word)
  | 0 => return []
  | fuel + 1 => do
    match ← ahead with
    | .word w _ =>
      advance
      return w :: (← wordsAhead fuel)
    | _ => return []

/-- The patterns of a branch, parted by bars. -/
def patterns : Nat → Reading (List Word)
  | 0 => unexpected none
  | fuel + 1 => do
    match ← ahead with
    | .word w _ =>
      advance
      if ← takeIf (·.isSign "|") then return w :: (← patterns fuel) else return [w]
    | _ => unexpected none

mutual

/-- Commands up to what closes them. -/
def commands : Nat → Reading Script
  | 0 => unexpected none
  | fuel + 1 => do
    skipLines
    if (← ahead).isEnd then return .skip
    let first ← conjunction fuel
    let t ← ahead
    let first := if t.isSign "&" then .background first else first
    if t.isSign "&" || t.isSign ";" || t.isNewline then
      advance
      skipLines
      if (← ahead).closes then return first else return .sequence first (← commands fuel)
    else return first

/-- Pipelines joined by the signs for both and for either, from the left. -/
def conjunction : Nat → Reading Script
  | 0 => unexpected none
  | fuel + 1 => do conjoined fuel (← pipeline fuel)

def conjoined : Nat → Script → Reading Script
  | 0, _ => unexpected none
  | fuel + 1, a => do
    if ← takeIf (·.isSign "&&") then
      skipLines
      conjoined fuel (.both a (← pipeline fuel))
    else if ← takeIf (·.isSign "||") then
      skipLines
      conjoined fuel (.either a (← pipeline fuel))
    else return a

def pipeline : Nat → Reading Script
  | 0 => unexpected none
  | fuel + 1 => do
    if ← takeIf (·.isKeyword "!") then return .inverse (← pipeline fuel)
    match ← pipeParts fuel with
    | [a] => return a
    | parts => return .pipe parts

def pipeParts : Nat → Reading (List Script)
  | 0 => unexpected none
  | fuel + 1 => do
    let a ← command fuel
    if ← takeIf (·.isSign "|") then
      skipLines
      return a :: (← pipeParts fuel)
    else return [a]

def command : Nat → Reading Script
  | 0 => unexpected none
  | fuel + 1 => do
    match ← compound? fuel with
    | some a =>
      let rs ← redirects fuel
      return if rs.isEmpty then a else .redirected a rs
    | none =>
      let t ← ahead
      match t, (← behindAhead).isSign "(" with
      | .word w _, true =>
        advance
        match w.bare? with
        | some name =>
          advance
          sign ")"
          skipLines
          return .define name (← command fuel)
        | none => unexpected none
      | _, _ =>
        let s ← simpleParts { line := t.line } ((← get).length + 1)
        if s.words.isEmpty && s.assignments.isEmpty && s.redirects.isEmpty then unexpected none
        else return .simple s

def compound? : Nat → Reading (Option Script)
  | 0 => unexpected none
  | fuel + 1 => do
    if ← takeIf (·.isSign "(") then
      let a ← commands fuel
      sign ")"
      return some (.subshell a)
    match (← ahead).keyword? with
    | some "\x7b" =>
      advance
      let a ← commands fuel
      keyword "\x7d"
      return some a
    | some "if" =>
      advance
      return some (← choice fuel)
    | some "while" =>
      advance
      return some (← repeated fuel false)
    | some "until" =>
      advance
      return some (← repeated fuel true)
    | some "for" =>
      advance
      return some (← each fuel)
    | some "case" =>
      advance
      return some (← cases_ fuel)
    | some _ => unexpected none
    | none => return none

/-- What follows a word that tests. -/
def choice : Nat → Reading Script
  | 0 => unexpected none
  | fuel + 1 => do
    let test ← commands fuel
    keyword "then"
    let yes ← commands fuel
    if ← takeIf (·.isKeyword "elif") then return .choice test yes (← choice fuel)
    else if ← takeIf (·.isKeyword "else") then
      let no ← commands fuel
      keyword "fi"
      return .choice test yes no
    else
      keyword "fi"
      return .choice test yes .skip

def repeatedBody : Nat → Reading Script
  | 0 => unexpected none
  | fuel + 1 => do
    keyword "do"
    let body ← commands fuel
    keyword "done"
    return body

def repeated : Nat → Bool → Reading Script
  | 0, _ => unexpected none
  | fuel + 1, stopOn => do
    let test ← commands fuel
    return .repeated stopOn test (← repeatedBody fuel)

def each : Nat → Reading Script
  | 0 => unexpected none
  | fuel + 1 => do
    let t ← ahead
    let name : Option String :=
      match t with
      | .word w _ => w.bare?.filter fun s => isName s.toList
      | _ => none
    match name with
    | none => throw (SyntaxError.mk t.line "Syntax error: Bad for loop variable")
    | some name =>
      advance
      skipLines
      let words ←
        if ← takeIf (·.isKeyword "in") then some <$> wordsAhead (← get).length else pure none
      let _ ← takeIf (·.isSign ";")
      skipLines
      return .each name words (← repeatedBody fuel)

def cases_ : Nat → Reading Script
  | 0 => unexpected none
  | fuel + 1 => do
    match ← ahead with
    | .word w _ =>
      advance
      skipLines
      keyword "in"
      return .cases w (← branches fuel)
    | _ => unexpected (some "word")

def branches : Nat → Reading (List (List Word × Script))
  | 0 => unexpected none
  | fuel + 1 => do
    skipLines
    if ← takeIf (·.isKeyword "esac") then return []
    let _ ← takeIf (·.isSign "(")
    let forms ← patterns (← get).length
    sign ")"
    skipLines
    let body ← if (← ahead).closes then pure .skip else commands fuel
    if ← takeIf (·.isSign ";;") then return (forms, body) :: (← branches fuel)
    keyword "esac"
    return [(forms, body)]

end

/-- The commands of one line, with its end. -/
def lineOfCommands : Nat → Reading Script
  | 0 => unexpected none
  | fuel + 1 => do
    let first ← conjunction (20 * (← get).length + 20)
    let first ←
      if ← takeIf (·.isSign "&") then pure (.background first)
      else
        if !(← takeIf (·.isSign ";")) && !(← ahead).isNewline && !(← ahead).isEnd then unexpected none
        pure first
    if ← takeIf Token.isNewline then return first
    if (← ahead).isEnd then return first
    return .sequence first (← lineOfCommands fuel)

/-- The lines of commands in turn; the first one that cannot be read is the last. -/
def lines : Nat → List Token → List (Except SyntaxError Script)
  | 0, _ => []
  | fuel + 1, ts =>
    let ts := ts.dropWhile Token.isNewline
    if (ts.head?.map Token.isEnd).getD true then []
    else
      match (lineOfCommands (ts.length + 1)).run ts with
      | .error e => [.error e]
      | .ok (s, rest) => .ok s :: lines fuel rest

end Reading

def readScript (cs : List Char) : List (Except SyntaxError Script) :=
  let ts := tokens 0 (cs.length + 1) 1 cs
  Reading.lines ts.length ts

end Runbook.Shell
