import Runbook.Act
import Runbook.Agent.Model
import Runbook.Value.Display

/-! The collaborators of the steps: a runner of commands, an agent that answers prompts and a service that
hosts pull requests. What they do to the world, and what they answer, is theirs. -/

namespace Runbook

inductive Command where
  | line (text : String)
  | words (argv : List String)
deriving DecidableEq, Repr

namespace Command

/-- The command in messages: a line as it is, words as a list. -/
def display : Command → String
  | .line text => text
  | .words argv => (Value.list (argv.map .text)).inner

end Command

/-- What a finished process leaves. -/
structure ProcessResult where
  stdout : String := ""
  stderr : String := ""
  exitCode : Int := 0
deriving DecidableEq, Repr

def ProcessResult.ok (r : ProcessResult) : Bool := r.exitCode == 0

/-- A pull request to be opened. -/
structure PullRequestDraft where
  repo : String
  title : String
  head : String
  base : String
  body : String
deriving DecidableEq, Repr

structure PullRequest where
  number : Int
  url : String
  title : String := ""
  state : String := "open"
deriving DecidableEq, Repr

namespace PullRequest

def toValue (p : PullRequest) : Value := .obj [
  ("number", .int p.number), ("url", .text p.url), ("title", .text p.title), ("state", .text p.state)]

end PullRequest

/-- Runs a command in a directory for at most so many seconds, and stops the commands that run. -/
structure Runner (σ : Type) where
  execute : Command → Option String → Binary64 → Act σ ProcessResult
  terminate : Act σ Unit

structure Agent (σ : Type) where
  provider : σ → Provider
  setProvider : Provider → Act σ Unit
  chat : String → Act σ String

/-- A merge is answered with a document. -/
structure Hosting (σ : Type) where
  create : PullRequestDraft → Act σ PullRequest
  latest : String → Act σ (Option PullRequest)
  merge : String → Int → Act σ Value

/-- The collaborators, each of which may be missing, and the settings of the steps. -/
structure Services (σ : Type) where
  runner : Option (Runner σ)
  agent : Option (Agent σ)
  hosting : Option (Hosting σ)
  offerModel : String → σ → σ
  fileExists : Option String → String → Act σ Bool
  workDir : Option String := none
  shellTimeout : Binary64
  defaultRepo : Option String := none

end Runbook
