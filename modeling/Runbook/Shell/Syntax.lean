import Runbook.Text.Basic

/-! Scripts of the shell: words, redirections and commands. The text inside a substitution is kept as it
is written; it is read when its word is expanded. -/

namespace Runbook.Shell

/-- What a parameter stands for beside its own value. -/
inductive Substitute where
  /-- a word in place of a missing value -/
  | fallback
  /-- the same, which becomes the value -/
  | assigned
  /-- a word in place of a value that is there -/
  | replacement
  /-- no value is a fault -/
  | demand
  /-- the value without what fits a pattern at one of its ends -/
  | trimmed (atEnd longest : Bool)
deriving DecidableEq, Repr

/-- With `emptyToo` an empty value counts as a missing one. -/
structure Rule where
  kind : Substitute
  emptyToo : Bool
  word : List Char
deriving DecidableEq, Repr

inductive Piece where
  | text (cs : List Char) (quoted : Bool)
  | parameter (name : String) (rule : Option Rule) (quoted : Bool)
  | size (name : String) (quoted : Bool)
  | number (expression : List Char) (quoted : Bool)
  | output (script : List Char) (quoted : Bool)
deriving DecidableEq, Repr

abbrev Word := List Piece

namespace Word

/-- The word with a piece in front; plain texts side by side are one text. -/
def push (p : Piece) (w : Word) : Word :=
  match p, w with
  | .text a false, .text b false :: rest => .text (a ++ b) false :: rest
  | p, w => p :: w

/-- The text of a word without quotes and substitutions. -/
def bare? : Word → Option String
  | [.text cs false] => some (String.ofList cs)
  | _ => none

end Word

/-- The word of a `document` is itself what is read. -/
inductive RedirectKind where
  | read
  | document
  | write
  | append
  | copy
deriving DecidableEq, Repr

structure Redirect where
  stream : Nat
  kind : RedirectKind
  target : Word
deriving DecidableEq, Repr

/-- A command with the assignments before it; `line` is where it begins. -/
structure Simple where
  assignments : List (String × Word) := []
  words : List Word := []
  redirects : List Redirect := []
  line : Nat := 1
deriving DecidableEq, Repr

inductive Script where
  | skip
  | simple (command : Simple)
  | pipe (parts : List Script)
  | both (a b : Script)
  | either (a b : Script)
  | inverse (a : Script)
  | sequence (a b : Script)
  | background (a : Script)
  | subshell (a : Script)
  | choice (test yes no : Script)
  | repeated (stopOn : Bool) (test body : Script)
  | each (name : String) (words : Option (List Word)) (body : Script)
  | cases (word : Word) (branches : List (List Word × Script))
  | define (name : String) (body : Script)
  | redirected (a : Script) (redirects : List Redirect)
deriving Inhabited

end Runbook.Shell
