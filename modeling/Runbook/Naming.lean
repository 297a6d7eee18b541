import Runbook.Text.Basic
import Runbook.Unicode.Alphanumeric

/-! Names with a form: branches, pull request titles, repositories and directory names. A line feed at
the very end is outside the form and does not count. -/

namespace Runbook

open Text

namespace Naming

/-- The text without a line feed at its end. -/
def body (cs : List Char) : List Char := if cs.getLast? = some '\n' then cs.dropLast else cs

def isAsciiWord (c : Char) : Bool := c.isAlphanum || c == '_'

def isBranchChar (c : Char) : Bool := isAsciiWord c || c == '.' || c == '-' || c == '/'

def forbiddenParts : List String := ["..", "~", "^", ":", "\\", " ", "[", "@\x7b"]

/-- A branch name that no command can mistake for anything else. -/
def isSafeBranch (name : String) : Bool :=
  let cs := body name.toList
  !name.isEmpty && name.length ≤ 255 && !cs.isEmpty && cs.all isBranchChar &&
    !forbiddenParts.any (hasPart name) &&
    !(startsWith name "-" || startsWith name "/") && !(endsWith name "/" || endsWith name ".lock")

def isLineControl (c : Char) : Bool := c = '\n' || c = '\r' || c = '\t'

/-- A title of 1 to 256 characters on one line without tabs. -/
def isValidTitle (title : String) : Bool :=
  0 < title.length && title.length ≤ 256 && !title.toList.any isLineControl

def isRepositoryChar (c : Char) : Bool := Unicode.isWordChar c || c == '.' || c == '-'

/-- An owner and a name with a slash between them. -/
def isRepository (repo : String) : Bool :=
  match cut? ['/'] (body repo.toList) with
  | some (owner, name) =>
    !owner.isEmpty && owner.all isRepositoryChar && !name.isEmpty && name.all isRepositoryChar
  | none => false

def isSafeNameChar (c : Char) : Bool := isAsciiWord c || c == '-'

/-- A name usable as a directory: other characters become low lines. -/
def safeName (name : String) : String :=
  if name.isEmpty then "_"
  else String.ofList (name.toList.map fun c => if isSafeNameChar c then c else '_')

end Naming

end Runbook
