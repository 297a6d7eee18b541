import Runbook.Hosting.GitHub
import Runbook.Proofs.Execution.Failing
import Runbook.Proofs.Execution.Notes
import Runbook.Proofs.Json.Kinds

/-! What becomes of the calls that GitHub refuses: they are rejections with the status of the reply, unless the reply
has a document in which no message can be looked up. -/

namespace Runbook

open Http

variable {σ α β : Type}

/-! ## Refused replies -/

/-- The reply has a document, and that is not an object. -/
def Http.Reply.IsStray (r : Reply) : Prop := ∃ doc, r.document = .ok doc ∧ doc.isMap = false

/-- What is said of a document in which a message is looked up in vain. -/
def noMember (typeName : String) : Fault := .ofKind .member ("'" ++ typeName ++ "' object has no attribute 'get'")

namespace GitHub

variable {r : Reply}

/-- Other replies are reported with their status, and with a text. -/
theorem rejection_of_not_isStray (h : ¬ r.IsStray) :
    ∃ text, text ≠ "" ∧ rejection r = .incident ⟨.hostingRejected, text, r.status, false⟩ := by
  suffices hdetail : ∃ detail : String, rejection r = .incident
      ⟨.hostingRejected, if detail.isEmpty then "HTTP " ++ Text.intText r.status else detail, r.status, false⟩ by
    obtain ⟨detail, hdetail⟩ := hdetail
    refine ⟨_, ?_, hdetail⟩
    split_ifs with hempty
    · simp
    · simpa using hempty
  unfold rejection
  cases hdocument : r.document with
  | error e => exact ⟨_, rfl⟩
  | ok doc =>
    have hmap : doc.isMap = true := by
      by_contra hmap
      exact h ⟨doc, hdocument, by simpa using hmap⟩
    simp only [hmap, Bool.not_true, Bool.false_eq_true, if_false]
    by_cases hholds : (doc.field "message").holds = true
    · exact ⟨_, if_pos hholds⟩
    · exact ⟨_, if_neg hholds⟩

/-- A message is looked up in a stray document as in an object. -/
theorem rejection_of_isStray (h : r.IsStray) : ∃ name ∈ Json.plainTypes, rejection r = noMember name := by
  obtain ⟨doc, hdocument, hmap⟩ := h
  refine ⟨doc.typeName, (Reply.isKind_document hdocument).typeName_mem hmap, ?_⟩
  simp only [rejection, hdocument, hmap, Bool.not_false, if_true]
  rfl

end GitHub

/-! ## Failures of steps -/

namespace Failure

/-- The failure of a step whose call was rejected with a status. It needs permission if the status says so, and is worth
another try if the service is to blame. -/
structure IsRejected (status : Int) (f : Failure) : Prop where
  category : f.category = if status = 401 ∨ status = 403 then .permission else .execution
  retryable : f.retryable = true ↔ 500 ≤ status

end Failure

namespace Engine

variable (w : Workflow) (s : Session) (step : Step) (f : Fault)

theorem category_raisedFailure : (raisedFailure w s step f).category = f.toFailure.category := by
  simp only [raisedFailure, named, stepFailure, Fault.classify_eq, Fault.toFailure, Failure.inContext,
    Failure.category_advised]

theorem retryable_raisedFailure : (raisedFailure w s step f).retryable = f.toFailure.retryable := by
  simp only [raisedFailure, named, stepFailure, Fault.classify_eq, Fault.toFailure, Failure.inContext,
    Failure.retryable_advised]

end Engine

/-- A step whose call was rejected fails so, whatever the text of the rejection. -/
theorem isRejected_hostingFault (step : String) (action : PullRequestAction) (text : String) (status : Int) :
    (Execution.hostingFault step action (.incident ⟨.hostingRejected, text, status, false⟩)).toFailure.IsRejected
      status where
  category := rfl
  retryable := decide_eq_true_iff

/-- There is no word in it that tells a category, and no advice on it. -/
theorem toFailure_noMember : ∀ name ∈ Json.plainTypes,
    (noMember name).toFailure.category = .execution ∧ (noMember name).toFailure.retryable = true := by
  decide +kernel

/-! ## Replies and what is made of them -/

/-- A way for requests on which it is noted what comes back. -/
def Http.Transport.noting (send : Transport σ) : Transport (σ × List (Except Fault Reply)) :=
  fun request => (send request).noting id

namespace Act

/-- An operation that is refused ends with the rejection, in other words. -/
def Reports (words : Fault → Fault) (act : Act (σ × List (Except Fault Reply)) α) : Prop :=
  ∀ p, ∃ replies, (act p).2.2 = p.2 ++ replies ∧
    ∀ r, .ok r ∈ replies → r.isRefused = true → (act p).1 = .error (words (GitHub.rejection r))

/-- The operation gets one reply, or none in time, and ends with the rejection if it is refused. -/
def AsksOnce (act : Act (σ × List (Except Fault Reply)) α) : Prop :=
  ∀ p, ∃ reply, (act p).2.2 = p.2 ++ [reply] ∧
    ∀ r, reply = .ok r → r.isRefused = true → (act p).1 = .error (GitHub.rejection r)

variable {act : Act (σ × List (Except Fault Reply)) α} {words : Fault → Fault}

theorem AsksOnce.reports (h : act.AsksOnce) : act.Reports id := by
  intro p
  obtain ⟨reply, hnotes, hrefused⟩ := h p
  refine ⟨[reply], hnotes, fun r hr => hrefused r ?_⟩
  exact (List.mem_singleton.mp hr).symm

theorem AsksOnce.bind_ofExcept (h : act.AsksOnce) (f : α → Except Fault β) :
    (act >>= fun a => ofExcept (f a)).AsksOnce := by
  intro p
  obtain ⟨reply, hnotes, hrefused⟩ := h p
  refine ⟨reply, ?_, fun r hr hr' => ?_⟩
  · rw [bind_apply]
    cases (act p).1 with
    | ok a => simpa using hnotes
    | error e => exact hnotes
  · rw [bind_apply, hrefused r hr hr']

/-- An operation without requests has nothing to report. -/
theorem Moves.reports (h : Moves (fun p q => q.2 = p.2) α act) : act.Reports words :=
  fun p => ⟨[], by simp [h p], by simp⟩

namespace Reports

theorem bind {next : α → Act (σ × List (Except Fault Reply)) β} (h : act.Reports words)
    (hnext : ∀ a, (next a).Reports words) : (act >>= next).Reports words := by
  intro p
  obtain ⟨replies, hnotes, hrefused⟩ := h p
  rw [bind_apply]
  cases hresult : (act p).1 with
  | error e =>
    refine ⟨replies, hnotes, fun r hr hr' => ?_⟩
    exact congrArg Except.error (Except.error.inj (hresult.symm.trans (hrefused r hr hr')))
  | ok a =>
    obtain ⟨more, hmore, hrefused'⟩ := hnext a (act p).2
    refine ⟨replies ++ more, by rw [hmore, hnotes, List.append_assoc], fun r hr hr' => ?_⟩
    rcases List.mem_append.mp hr with hr | hr
    · -- The operation went on, so nothing was refused before.
      have hended := hrefused r hr hr'
      rw [hresult] at hended
      cases hended
    · exact hrefused' r hr hr'

theorem reword (h : act.Reports id) (words : Fault → Fault) : (act.reword words).Reports words := by
  intro p
  obtain ⟨replies, hnotes, hrefused⟩ := h p
  rw [reword_apply]
  refine ⟨replies, hnotes, fun r hr hr' => ?_⟩
  rw [hrefused r hr hr']
  rfl

theorem ofExcept (r : Except Fault α) : (ofExcept r : Act (σ × List (Except Fault Reply)) α).Reports words :=
  Moves.reports fun p => by rw [ofExcept_apply]

theorem return_ (a : α) : (pure a : Act (σ × List (Except Fault Reply)) α).Reports words := ofExcept (.ok a)

theorem throw_ (e : Fault) : (throw e : Act (σ × List (Except Fault Reply)) α).Reports words := ofExcept (.error e)

end Reports

end Act

namespace GitHub

variable (g : GitHub) (send : Transport σ)

theorem follows_call (method path : String) (query : Option String) (body : Option Value) :
    (g.call send.noting method path query body).Follows (g.call send method path query body) :=
  ((Act.follows_noting _ _).reword _).bind fun _ => Act.follows_ofExcept _

theorem follows_hosting : (g.hosting send.noting).Follows (g.hosting send) where
  create _ := (follows_call g send _ _ _ _).bind fun _ => Act.follows_ofExcept _
  latest _ := (follows_call g send _ _ _ _).bind fun _ => Act.follows_ofExcept _
  merge _ _ := follows_call g send _ _ _ _

theorem asksOnce_call (method path : String) (query : Option String) (body : Option Value) :
    (g.call send.noting method path query body).AsksOnce := by
  intro p
  unfold call
  dsimp only
  generalize ({ method, url := _, headers := _, body } : Request) = request
  have hsent := Act.reword_apply (send.noting request) (unavailable method path) p
  change _ = ((send request p.1).1.mapError _, (send request p.1).2, p.2 ++ [(send request p.1).1]) at hsent
  refine ⟨(send request p.1).1, ?_⟩
  cases hreply : (send request p.1).1 with
  | error e =>
    rw [hreply] at hsent
    rw [Act.bind_error hsent]
    exact ⟨rfl, fun r hr => nomatch hr⟩
  | ok r =>
    rw [hreply] at hsent
    rw [Act.bind_ok hsent, Act.ofExcept_apply]
    refine ⟨rfl, ?_⟩
    rintro r' ⟨⟩ hrefused
    exact if_pos hrefused

theorem asksOnce_create (d : PullRequestDraft) : (g.create send.noting d).AsksOnce :=
  (asksOnce_call g send _ _ _ _).bind_ofExcept _

theorem asksOnce_latest (repo : String) : (g.latest send.noting repo).AsksOnce :=
  (asksOnce_call g send _ _ _ _).bind_ofExcept _

theorem asksOnce_merge (repo : String) (n : Int) : (g.merge send.noting repo n).AsksOnce :=
  asksOnce_call g send _ _ _ _

end GitHub

/-! ## Steps on pull requests -/

namespace Services

/-- The collaborators with GitHub as their hosting service. -/
def onGitHub (v : Services σ) (g : GitHub) (send : Transport σ) : Services σ :=
  { v with hosting := some (g.hosting send) }

/-- The same with notes of the replies. -/
def notingReplies (v : Services σ) (g : GitHub) (send : Transport σ) : Services (σ × List (Except Fault Reply)) :=
  (v.beside _).onGitHub g send.noting

theorem follows_notingReplies (v : Services σ) (g : GitHub) (send : Transport σ) :
    (v.notingReplies g send).Follows (v.onGitHub g send) :=
  { v.follows_beside _ with hosting := .some (g.follows_hosting send) }

end Services

namespace Execution

open Act

variable (v : Services σ) (g : GitHub) (send : Transport σ) (step : String) (p : PullRequestStep)

theorem reports_headOf (words : Fault → Fault) : (headOf (v.notingReplies g send) step p).Reports words := by
  have hclosed : Closed (Moves fun p q : σ × List (Except Fault Reply) => q.2 = p.2) :=
    closed_moves (fun _ => rfl) fun _ _ _ h h' => h'.trans h
  exact Moves.reports (headOf_all hclosed (v.all_beside fun _ _ _ => rfl) step p)

theorem reports_openPullRequest :
    (openPullRequest (v.notingReplies g send) (g.hosting send.noting) step p).Reports (hostingFault step .create) := by
  simp only [openPullRequest, createPullRequest]
  split
  · exact .throw_ _
  · refine (reports_headOf v g send step p _).bind fun head => (Reports.ofExcept _).bind fun _ => ?_
    refine (Reports.ofExcept _).bind fun _ => (Reports.ofExcept _).bind fun _ => ?_
    exact ((g.asksOnce_create send _).reports.reword _).bind fun _ => .return_ _

theorem reports_reviewPullRequest :
    (reviewPullRequest (v.notingReplies g send) (g.hosting send.noting) step p).Reports
      (hostingFault step .review) := by
  simp only [reviewPullRequest]
  refine (Reports.ofExcept _).bind fun _ => ((g.asksOnce_latest send _).reports.reword _).bind fun found => ?_
  cases found <;> exact .return_ _

theorem reports_mergePullRequest :
    (mergePullRequest (v.notingReplies g send) (g.hosting send.noting) step p).Reports (hostingFault step .merge) := by
  simp only [mergePullRequest]
  refine (Reports.ofExcept _).bind fun _ => ((g.asksOnce_latest send _).reports.reword _).bind fun found => ?_
  cases found with
  | none => exact .return_ _
  | some pr =>
    refine ((g.asksOnce_merge send _ _).reports.reword _).bind fun payload => ?_
    split
    · exact .throw_ _
    · exact .return_ _

theorem reports_pullRequest :
    (pullRequest (v.notingReplies g send) step p).Reports (hostingFault step p.action) := by
  have hhosting : (v.notingReplies g send).hosting = some (g.hosting send.noting) := rfl
  simp only [pullRequest, hhosting]
  cases p.action with
  | create => exact reports_openPullRequest v g send step p
  | review => exact reports_reviewPullRequest v g send step p
  | merge => exact reports_mergePullRequest v g send step p

end Execution

/-- Whatever is noted of its replies, the client does the same, and each of its operations ends with the rejection if it
is refused. The rejection has the status of the reply, except that a stray reply is no rejection at all. -/
structure GitHub.ReportsRefusals (g : GitHub) (send : Transport σ) : Prop where
  follows : (g.hosting send.noting).Follows (g.hosting send)
  create : ∀ d, (g.create send.noting d).AsksOnce
  latest : ∀ repo, (g.latest send.noting repo).AsksOnce
  merge : ∀ repo n, (g.merge send.noting repo n).AsksOnce
  rejection : ∀ r : Reply, ¬ r.IsStray →
    ∃ text, text ≠ "" ∧ rejection r = .incident ⟨.hostingRejected, text, r.status, false⟩
  stray : ∀ r : Reply, r.IsStray → ∃ name ∈ Json.plainTypes, GitHub.rejection r = noMember name

/-- How a run ends with a step that ends with the fault because of the reply: for want of permission, or worth another
try, as the status says. But after a stray reply it ends as if another try were worth it, whatever the status. -/
structure Http.Reply.EndsStep (r : Reply) (step : Step) (f : Fault) : Prop where
  rejected : ¬ r.IsStray → ∀ w s, (Engine.raisedFailure w s step f).IsRejected r.status
  stray : r.IsStray → ∀ w s, (Engine.raisedFailure w s step f).category = .execution ∧
    (Engine.raisedFailure w s step f).retryable = true

theorem endsStep_hostingFault (r : Reply) (step : Step) (action : PullRequestAction) :
    r.EndsStep step (Execution.hostingFault step.id action (GitHub.rejection r)) where
  rejected h w s := by
    obtain ⟨text, -, hrejection⟩ := GitHub.rejection_of_not_isStray h
    have hrejected := isRejected_hostingFault step.id action text r.status
    rw [hrejection]
    exact ⟨by rw [Engine.category_raisedFailure, hrejected.category],
      by rw [Engine.retryable_raisedFailure, hrejected.retryable]⟩
  stray h w s := by
    obtain ⟨name, hname, hrejection⟩ := GitHub.rejection_of_isStray h
    rw [hrejection, Engine.category_raisedFailure, Engine.retryable_raisedFailure]
    exact toFailure_noMember name hname

/-- The client ends each operation that is refused with the rejection, and so does a step on pull requests, in its own
words. A reply tells of no rejection only where it has a document that is no object. -/
theorem refusals_are_rejections_unless_stray (v : Services σ) (g : GitHub) (send : Transport σ) (s : Session)
    {step : Step} {p : PullRequestStep} (htask : step.task = .pullRequest p) (x : σ) :
    let filled := step.fill s.variables
    let plain := Execution.perform (v.onGitHub g send) s filled
    let noted := Execution.perform (v.notingReplies g send) s filled
    g.ReportsRefusals send ∧ noted.Follows plain ∧
      ∀ r, .ok r ∈ (noted (x, [])).2.2 → r.isRefused = true → ∃ f, (plain x).1 = .error f ∧ r.EndsStep step f := by
  intro filled plain noted
  have hfollows : noted.Follows plain := Execution.follows_perform (v.follows_notingReplies g send) s filled
  obtain ⟨q, hfilled⟩ : ∃ q : PullRequestStep, filled.task = .pullRequest q :=
    ⟨_, congrArg (Task.fill s.variables) htask⟩
  have hreports : noted.Reports (Execution.hostingFault step.id q.action) := by
    have hperform : noted = Execution.pullRequest (v.notingReplies g send) step.id q := by
      simp only [noted, Execution.perform, hfilled]
      rfl
    rw [hperform]
    exact Execution.reports_pullRequest v g send step.id q
  have hclient : g.ReportsRefusals send := ⟨g.follows_hosting send, g.asksOnce_create send, g.asksOnce_latest send,
    g.asksOnce_merge send, fun _ => GitHub.rejection_of_not_isStray, fun _ => GitHub.rejection_of_isStray⟩
  refine ⟨hclient, hfollows, fun r hr hrefused => ⟨_, ?_, endsStep_hostingFault r step q.action⟩⟩
  obtain ⟨replies, hnotes, hall⟩ := hreports (x, [])
  rw [List.nil_append] at hnotes
  rw [← (hfollows (x, [])).1]
  exact hall r (hnotes ▸ hr) hrefused

/-! ## Forbidden calls -/

/-- The same reply to every request. -/
def Http.Transport.replying (r : Reply) : Transport σ := fun _ => pure r

/-- A call is forbidden, with an empty object. -/
def Http.Reply.forbidding : Reply := ⟨403, [0x7B, 0x7D]⟩

/-- A call is forbidden, with an empty list. -/
def Http.Reply.forbiddingList : Reply := ⟨403, [0x5B, 0x5D]⟩

/-- Looks at the latest pull request. -/
def Step.reviewing : Step := ⟨"look", none, .pullRequest { action := .review, repo := some "o/n" }⟩

def Workflow.reviewing : Workflow where
  name := "demo"
  steps := [.reviewing]

namespace Execution

/-- What the step comes to if GitHub always replies the same. -/
def reviewed (r : Reply) : Except Fault Outcome :=
  (perform (Services.missing.onGitHub { token := "t" } (.replying r)) (.holding []) (Step.reviewing.fill []) ()).1

/-- A review that is forbidden with an object fails for want of permission. -/
theorem forbidden_review_needs_permission :
    ∃ f, reviewed .forbidding = .error f ∧
      (Engine.raisedFailure .reviewing (.holding []) .reviewing f).category = .permission ∧
      (Engine.raisedFailure .reviewing (.holding []) .reviewing f).retryable = false := by
  have hreview := (refusals_are_rejections_unless_stray .missing { token := "t" } (.replying .forbidding) (.holding [])
    (show Step.reviewing.task = .pullRequest { action := .review, repo := some "o/n" } from rfl) ()).2.2
  have hplain : ¬ Reply.forbidding.IsStray := by
    rintro ⟨doc, hdocument, hmap⟩
    have hobject : Reply.forbidding.document = .ok (.map []) := rfl
    obtain rfl := Except.ok.inj (hobject.symm.trans hdocument)
    cases hmap
  obtain ⟨f, hended, hends⟩ := hreview .forbidding List.mem_cons_self rfl
  have hrejected := hends.rejected hplain .reviewing (.holding [])
  refine ⟨f, hended, hrejected.category, ?_⟩
  have hstatus : ¬ (500 ≤ Reply.forbidding.status) := by decide
  simpa using mt hrejected.retryable.mp hstatus

/-- One that is forbidden with a list ends with no rejection, and fails as if another try were worth it. -/
theorem list_is_no_rejection :
    Reply.forbiddingList.status = 403 ∧
      (GitHub.latest { token := "t" } (.replying .forbiddingList) "o/n" ()).1 = .error (noMember "list") ∧
      (noMember "list").label ≠ IncidentKind.label .hostingRejected ∧
      reviewed .forbiddingList = .error (noMember "list") ∧
      (Engine.raisedFailure .reviewing (.holding []) .reviewing (noMember "list")).category = .execution ∧
      (Engine.raisedFailure .reviewing (.holding []) .reviewing (noMember "list")).retryable = true := by
  have hfailure := toFailure_noMember "list" (by decide)
  refine ⟨rfl, rfl, by decide, rfl, ?_, ?_⟩
  · rw [Engine.category_raisedFailure]
    exact hfailure.1
  · rw [Engine.retryable_raisedFailure]
    exact hfailure.2

end Execution

end Runbook
