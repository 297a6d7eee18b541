import Mathlib.Tactic
import Runbook.Fault.Classify

/-! Classifying faults. The failure that a fault becomes has hints; classifying it once more fills in names that
are missing and changes nothing else, and a failure of the engine keeps whatever it came with. -/

namespace Runbook

/-! ## Hints -/

namespace Failure

variable {f : Failure}

theorem foldl_hints_ne_nil {given : List String} (h : given ≠ []) (hints : List String) :
    hints.foldl (fun hs hint => if hs.contains hint then hs else hs ++ [hint]) given ≠ [] := by
  induction hints generalizing given with
  | nil => exact h
  | cons hint hints ih =>
    rw [List.foldl_cons]
    refine ih ?_
    split_ifs
    · exact h
    · simp

theorem hints_addHints_ne_nil {hints : List String} (h : hints ≠ []) : (f.addHints hints).hints ≠ [] := by
  cases hints with
  | nil => exact absurd rfl h
  | cons hint hints =>
    unfold addHints
    dsimp only
    rw [List.foldl_cons]
    refine foldl_hints_ne_nil ?_ hints
    split_ifs with hthere
    · rw [List.contains_iff_mem] at hthere
      exact List.ne_nil_of_mem hthere
    · simp

/-- Every entry of the guide has hints. -/
theorem hints_ne_nil_of_mem_guide {a : Advice} (h : a ∈ guide) : a.hints ≠ [] := by
  revert a
  decide

theorem mem_guide_of_adviceFor? {message : String} {a : Advice} (h : adviceFor? message = some a) : a ∈ guide := by
  unfold adviceFor? at h
  exact List.mem_of_find?_eq_some h

theorem hints_advised_ne_nil (f : Failure) : f.advised.hints ≠ [] := by
  unfold advised
  split_ifs with hempty
  · cases hadvice : adviceFor? f.message with
    | some a => exact hints_addHints_ne_nil (hints_ne_nil_of_mem_guide (mem_guide_of_adviceFor? hadvice))
    | none => exact hints_addHints_ne_nil (by decide)
  · simpa using hempty

/-- A failure with hints is not advised any further. -/
theorem advised_of_hints (h : f.hints ≠ []) : f.advised = f := by
  unfold advised
  rw [if_neg (by simpa using h)]

/-- Advice touches nothing but the hints. -/
theorem advised_eq (f : Failure) : f.advised = { f with hints := f.advised.hints } := by
  unfold advised
  split_ifs
  · cases adviceFor? f.message <;> rfl
  · rfl

theorem kind_advised (f : Failure) : f.advised.kind = f.kind := by rw [advised_eq]

theorem message_advised (f : Failure) : f.advised.message = f.message := by rw [advised_eq]

theorem category_advised (f : Failure) : f.advised.category = f.category := by rw [advised_eq]

theorem retryable_advised (f : Failure) : f.advised.retryable = f.retryable := by rw [advised_eq]

theorem context_advised (f : Failure) : f.advised.context = f.context := by rw [advised_eq]

end Failure

/-! ## Names -/

namespace Context

theorem isGiven_orElseText (a : Option String) {b : Option String} (h : isGiven b = true) :
    isGiven (orElseText a b) = true := by
  unfold orElseText
  split
  · split_ifs with hempty
    · exact h
    · simpa [isGiven] using hempty
  · exact h

theorem orElseText_of_isGiven {a : Option String} (h : isGiven a = true) (b : Option String) : orElseText a b = a := by
  unfold orElseText
  split
  · rename_i t
    have hne : ¬t.isEmpty = true := by simpa [isGiven] using h
    rw [if_neg hne]
  · cases h

/-- What was filled in with something is not filled in again. -/
theorem orElseText_orElseText (a : Option String) {b : Option String} (h : isGiven b = true) (c : Option String) :
    orElseText (orElseText a b) c = orElseText a b :=
  orElseText_of_isGiven (isGiven_orElseText a h) c

theorem orElseText_of_not_isGiven {a : Option String} (h : isGiven a = false) (b : Option String) :
    orElseText a b = b := by
  unfold orElseText
  split
  · rename_i t
    have hempty : t.isEmpty = true := by simpa [isGiven] using h
    rw [if_pos hempty]
  · rfl

theorem orElseText_again (a b : Option String) : orElseText (orElseText a b) b = orElseText a b := by
  cases ha : isGiven a with
  | true => rw [orElseText_of_isGiven ha, orElseText_of_isGiven ha]
  | false =>
    rw [orElseText_of_not_isGiven ha]
    cases hb : isGiven b with
    | true => exact orElseText_of_isGiven hb b
    | false => exact orElseText_of_not_isGiven hb b

theorem fill_fill_self (a c : Context) : (a.fill c).fill c = a.fill c := by
  simp only [fill, orElseText_again]

/-- Whatever the first context names, the second one names as well. A name that is empty names nothing. -/
structure KeptIn (c d : Context) : Prop where
  step : isGiven c.step = true → d.step = c.step
  workflow : isGiven c.workflow = true → d.workflow = c.workflow
  session : isGiven c.session = true → d.session = c.session

theorem keptIn_fill (c more : Context) : c.KeptIn (c.fill more) where
  step h := orElseText_of_isGiven h _
  workflow h := orElseText_of_isGiven h _
  session h := orElseText_of_isGiven h _

end Context

/-! ## Classifying again -/

namespace Failure

/-- Nothing that is set in the first failure is another in the second one, which may have hints and names where the
first one has none. -/
structure KeptIn (f g : Failure) : Prop where
  kind : g.kind = f.kind
  message : g.message = f.message
  category : g.category = f.category
  retryable : g.retryable = f.retryable
  cause : g.cause = f.cause
  problems : g.problems = f.problems
  limit : g.limit = f.limit
  hints : f.hints ≠ [] → g.hints = f.hints
  context : f.context.KeptIn g.context

theorem keptIn_advised (f : Failure) (c : Context) : f.KeptIn (f.advised.inContext c) := by
  rw [advised_eq]
  exact ⟨rfl, rfl, rfl, rfl, rfl, rfl, rfl, fun h => by rw [advised_of_hints h]; rfl, f.context.keptIn_fill c⟩

end Failure

namespace Fault

/-- What a fault names by itself. -/
def givenContext : Fault → Context
  | .failure f => f.context
  | _ => {}

/-- The failure that a fault is before hints are given and names filled in. -/
def toFailure : Fault → Failure
  | .failure f => f
  | .schema errors => .ofMessage none (schemaText errors) (IncidentKind.label .schema)
  | .incident i => .ofMessage i.kind.category? i.message i.kind.label

theorem classify_eq (e : Fault) (c : Context) : e.classify c = e.toFailure.advised.inContext c := by
  cases e <;> rfl

theorem hints_classify_ne_nil (e : Fault) (c : Context) : (e.classify c).hints ≠ [] :=
  Failure.hints_advised_ne_nil _

theorem context_classify (e : Fault) (c : Context) : (e.classify c).context = e.givenContext.fill c := by
  rw [classify_eq, Failure.inContext, Failure.context_advised]
  cases e <;> rfl

/-- Classifying again fills in the names that are missing, and that is all. -/
theorem classify_classify (e : Fault) (c d : Context) :
    (Fault.failure (e.classify c)).classify d = (e.classify c).inContext d := by
  rw [classify_eq, toFailure, Failure.advised_of_hints (e.hints_classify_ne_nil c)]

theorem inContext_classify_self (e : Fault) (c : Context) : (e.classify c).inContext c = e.classify c := by
  have hfilled : (e.classify c).context.fill c = (e.classify c).context := by
    rw [context_classify, Context.fill_fill_self]
  rw [Failure.inContext, hfilled]

/-- Any fault becomes a failure with hints. To classify that again changes nothing that is set, whatever the context,
and nothing at all in the same one; a failure of the engine keeps what it came with. -/
theorem classify_keeps_what_is_set :
    (∀ (e : Fault) (c : Context), (e.classify c).hints ≠ [] ∧
        (Fault.failure (e.classify c)).classify c = e.classify c ∧
        ∀ d, (e.classify c).KeptIn ((Fault.failure (e.classify c)).classify d)) ∧
      ∀ (f : Failure) (c : Context), f.KeptIn ((Fault.failure f).classify c) := by
  have hkept (f : Failure) (c : Context) : f.KeptIn ((Fault.failure f).classify c) := f.keptIn_advised c
  refine ⟨fun e c => ⟨e.hints_classify_ne_nil c, ?_, hkept _⟩, hkept⟩
  rw [classify_classify, inContext_classify_self]

end Fault

end Runbook
