import Runbook.Act
import Runbook.Text.Basic
import Runbook.Unicode.Lowercase
import Runbook.Value.Basic

/-! Language models: their providers, and services that answer the messages of a conversation. -/

namespace Runbook

open Text

/-! ## Providers -/

structure Provider where
  name : String
  model : String
deriving DecidableEq, Repr

namespace Provider

def known : List String := ["ollama", "lm_studio", "openai_compatible"]

/-- A model, with the name of a known provider before a colon or else of the given provider. A model's
own name may have colons. -/
def parse (spec fallback : String) : Provider :=
  match split? spec ":" with
  | some (start, rest) =>
    if !rest.isEmpty && known.contains start then ⟨start, rest⟩ else ⟨fallback, spec⟩
  | none => ⟨fallback, spec⟩

def display (p : Provider) : String := p.name ++ ":" ++ p.model

def toValue (p : Provider) : Value := .obj [("name", .text p.name), ("model", .text p.model)]

end Provider

/-- The part of a model's name before its tag. -/
def modelBase (model : String) : String :=
  match split? model ":" with
  | some (base, _) => base
  | none => model

def normalModel (model : String) : String := Unicode.toLower (trim model)

/-- A model is offered under its exact name or under its base name, whatever the case. -/
def isModelOffered (model : String) (offered : List String) : Bool :=
  let wanted := normalModel model
  offered.any fun name =>
    normalModel name == wanted || modelBase (normalModel name) == modelBase wanted

/-! ## Services -/

/-- The role is that of the system, of the user or of the assistant. -/
structure Message where
  role : String
  content : String
deriving DecidableEq, Repr

namespace Message

def toValue (m : Message) : Value := .obj [("role", .text m.role), ("content", .text m.content)]

end Message

structure ModelReply where
  content : String
  model : String
deriving DecidableEq, Repr

namespace ModelReply

def toValue (r : ModelReply) : Value :=
  .obj [("content", .text r.content), ("model", .text r.model), ("done", .bool true)]

end ModelReply

/-- A service of language models. `generate` takes the default model where none is named. -/
structure ModelService (σ : Type) where
  generate : List Message → Option String → Binary64 → Act σ ModelReply
  models : Act σ (List String)
  isAvailable : Act σ Bool

/-- The model named, else the default one. -/
def modelOr (model : Option String) (default : String) : String :=
  match model with
  | some m => if m.isEmpty then default else m
  | none => default

end Runbook
