import Runbook.Manager
import Runbook.Proofs.Execution.Perform

/-! Collaborators whose answers depend on nothing but what they were asked before: they see their own part
of the world alone. -/

namespace Runbook

variable {γ : Type} {α : Type}

/-- An operation on the collaborators' part of the world. -/
def World.onPartners (act : Act γ α) : Act (World γ) α :=
  act.within (·.partners) fun p w => { w with partners := p }

namespace Services

/-- Collaborators in a world of which they see their own part. Whether there is a file is seen in the
files. -/
def onPartners (v : Services γ) : Services (World γ) where
  runner := v.runner.map fun r => {
    execute := fun c dir seconds => World.onPartners (r.execute c dir seconds)
    terminate := World.onPartners r.terminate }
  agent := v.agent.map fun a => {
    provider := fun w => a.provider w.partners
    setProvider := fun p => World.onPartners (a.setProvider p)
    chat := fun prompt => World.onPartners (a.chat prompt) }
  hosting := v.hosting.map fun h => {
    create := fun d => World.onPartners (h.create d)
    latest := fun repo => World.onPartners (h.latest repo)
    merge := fun repo n => World.onPartners (h.merge repo n) }
  offerModel := fun model w => { w with partners := v.offerModel model w.partners }
  fileExists := World.fileExists
  workDir := v.workDir
  shellTimeout := v.shellTimeout
  defaultRepo := v.defaultRepo

/-- What holds of all operations on the collaborators' part holds of the collaborators. -/
theorem all_onPartners (v : Services γ) {K : (α : Type) → Act (World γ) α → Prop}
    (hpart : ∀ (α : Type) (act : Act γ α), K α (World.onPartners act))
    (hfile : ∀ dir file, K Bool (World.fileExists dir file)) : v.onPartners.All K where
  execute r hr c dir t := by
    obtain ⟨r, -, rfl⟩ := Option.map_eq_some_iff.mp hr
    exact hpart _ _
  provider a ha := by
    obtain ⟨a, -, rfl⟩ := Option.map_eq_some_iff.mp ha
    exact hpart _ (Act.view a.provider)
  setProvider a ha p := by
    obtain ⟨a, -, rfl⟩ := Option.map_eq_some_iff.mp ha
    exact hpart _ _
  chat a ha prompt := by
    obtain ⟨a, -, rfl⟩ := Option.map_eq_some_iff.mp ha
    exact hpart _ _
  create h hh d := by
    obtain ⟨h, -, rfl⟩ := Option.map_eq_some_iff.mp hh
    exact hpart _ _
  latest h hh repo := by
    obtain ⟨h, -, rfl⟩ := Option.map_eq_some_iff.mp hh
    exact hpart _ _
  merge h hh repo n := by
    obtain ⟨h, -, rfl⟩ := Option.map_eq_some_iff.mp hh
    exact hpart _ _
  offerModel model := hpart _ (Act.change (v.offerModel model))
  fileExists dir file := hfile dir file

end Services

/-- A manager of sessions on paper: no command is run, no agent is asked and nothing is hosted. -/
def Manager.bare : Manager Unit where
  store := ⟨⟨true, ["state"]⟩⟩
  directories := []
  services := Services.onPartners {
    runner := none
    agent := none
    hosting := none
    offerModel := fun _ w => w
    fileExists := fun _ _ => pure false
    shellTimeout := .nan }
  maxIterations := 2
  newId := World.onPartners (pure "s")

namespace Workflow

/-- A question that is asked again after every answer. -/
def asking : Workflow where
  name := "demo"
  steps := [
    ⟨"ask", none, .interactive { prompt := "Go on?" }⟩,
    ⟨"again", none, .loop "ask" "true" none⟩]

end Workflow

/-- A world without files. -/
def World.empty : World Unit where
  files := {}
  partners := ()

end Runbook
