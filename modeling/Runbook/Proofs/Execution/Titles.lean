import Runbook.Proofs.Execution.Guard
import Runbook.Proofs.Execution.Notes

/-! Which titles reach the hosting service, whatever a step has for a title and whatever the variables hold. -/

namespace Runbook

variable {σ : Type}

namespace Naming

/-- A title of 1 to 256 characters without line feeds, carriage returns and tabs. -/
structure IsTitle (title : String) : Prop where
  pos : 0 < title.length
  length_le : title.length ≤ 256
  feed : '\n' ∉ title.toList
  carriage : '\r' ∉ title.toList
  tab : '\t' ∉ title.toList

theorem any_isLineControl_iff (cs : List Char) :
    cs.any isLineControl = true ↔ '\n' ∈ cs ∨ '\r' ∈ cs ∨ '\t' ∈ cs := by
  induction cs with
  | nil => simp
  | cons c cs ih =>
    rw [List.any_cons, Bool.or_eq_true, ih]
    simp only [isLineControl, Bool.or_eq_true, decide_eq_true_eq, List.mem_cons]
    grind

theorem isValidTitle_iff (title : String) : isValidTitle title = true ↔ IsTitle title := by
  have hcontrol := any_isLineControl_iff title.toList
  simp only [isValidTitle, Bool.and_eq_true, Bool.not_eq_true', decide_eq_true_eq, ← Bool.not_eq_true, hcontrol,
    not_or]
  constructor
  · rintro ⟨⟨hpos, hlength⟩, hfeed, hcarriage, htab⟩
    exact ⟨hpos, hlength, hfeed, hcarriage, htab⟩
  · intro h
    exact ⟨⟨h.pos, h.length_le⟩, h.feed, h.carriage, h.tab⟩

end Naming

/-! ## Collaborators that note what they are asked to open -/

/-- A hosting service that writes down the pull requests that it is asked to open. -/
def Hosting.notingDrafts (h : Hosting σ) : Hosting (σ × List PullRequestDraft) where
  create d := (h.create d).noting fun _ => d
  latest repo := (h.latest repo).beside _
  merge repo n := (h.merge repo n).beside _

namespace Services

/-- The collaborators with notes of the pull requests that are to be opened. -/
def notingDrafts (v : Services σ) : Services (σ × List PullRequestDraft) :=
  { v.beside (List PullRequestDraft) with hosting := v.hosting.map (·.notingDrafts) }

theorem follows_notingDrafts (v : Services σ) : v.notingDrafts.Follows v :=
  { v.follows_beside (List PullRequestDraft) with
    hosting := by
      unfold notingDrafts
      cases v.hosting with
      | none => exact .none
      | some h =>
        refine .some ⟨fun _ => Act.follows_noting _ _, fun _ => Act.follows_beside _, fun _ _ => ?_⟩
        exact Act.follows_beside _ }

end Services

namespace Execution

open Act Naming

variable {v : Services σ} {h : Hosting σ} {step : Step} {p : PullRequestStep}

/-- The pull requests that the hosting service is asked to open in a step. -/
def drafts (v : Services σ) (s : Session) (step : Step) (x : σ) : List PullRequestDraft :=
  (perform v.notingDrafts s step (x, [])).2.2

theorem runAll_notingDrafts (step : String) (commands : List (List String)) :
    runAll v.notingDrafts step commands = runAll (v.beside (List PullRequestDraft)) step commands := by
  apply runAll_congr <;> rfl

theorem git_notingDrafts (step : String) (action : GitAction) (message base : Option String) :
    git v.notingDrafts step action message base = git (v.beside (List PullRequestDraft)) step action message base := by
  unfold git
  simp only [runAll_notingDrafts]

theorem headOf_notingDrafts (step : String) (p : PullRequestStep) :
    headOf v.notingDrafts step p = headOf (v.beside (List PullRequestDraft)) step p := rfl

/-- A step that opens no pull request asks for none. -/
theorem drafts_eq_nil (s : Session) (hstep : ∀ p, step.task = .pullRequest p → p.action ≠ .create) (x : σ) :
    drafts v s step x = [] := by
  have hbeside : perform v.notingDrafts s step = perform (v.beside (List PullRequestDraft)) s step := by
    unfold perform
    cases htask : step.task with
    | git action message base => exact git_notingDrafts _ _ _ _
    | pullRequest p =>
      dsimp only
      unfold pullRequest Services.notingDrafts Services.beside
      cases v.hosting with
      | none => rfl
      | some h =>
        cases haction : p.action with
        | create => exact absurd haction (hstep p htask)
        | review => rfl
        | merge => rfl
    | _ => rfl
  have hall : (v.beside (List PullRequestDraft)).All NotesNothing := v.all_beside fun _ => notesNothing_beside
  have hnotes := perform_all closed_notesNothing hall s step (x, [])
  rw [drafts, hbeside]
  exact hnotes

/-! ## Opening a pull request -/

section Opening

variable (v h) (p) (x : σ × List PullRequestDraft)

/-- At most one pull request is asked for, with the title that is given. -/
theorem notes_createPullRequest (step title head : String) :
    (createPullRequest v.notingDrafts h.notingDrafts step p title head x).2.2 = x.2 ∨
      ∃ d : PullRequestDraft, d.title = title ∧
        (createPullRequest v.notingDrafts h.notingDrafts step p title head x).2.2 = x.2 ++ [d] := by
  unfold createPullRequest
  rcases checkBranchName_cases step head with ⟨-, hhead⟩ | ⟨-, hhead⟩
  swap
  · rw [hhead]
    exact .inl rfl
  rcases checkBranchName_cases step (Git.given p.base defaultPullRequestBase) with ⟨-, hbase⟩ | ⟨-, hbase⟩
  swap
  · rw [hhead, hbase]
    exact .inl rfl
  rw [hhead, hbase]
  cases hrepo : repoOf v.notingDrafts step p.repo with
  | error e => exact .inl rfl
  | ok repo =>
    refine .inr ⟨⟨repo, title, head, Git.given p.base defaultPullRequestBase, p.body.getD ""⟩, rfl, ?_⟩
    generalize hd : PullRequestDraft.mk repo title head (Git.given p.base defaultPullRequestBase) (p.body.getD "") = d
    simp only [Act.ofExcept, pure_bind]
    rw [hd]
    have hcreated := Act.reword_apply (h.notingDrafts.create d) (hostingFault step .create) x
    change _ = ((h.create d x.1).1.mapError _, (h.create d x.1).2, x.2 ++ [d]) at hcreated
    rw [bind_apply, hcreated]
    cases (h.create d x.1).1 <;> rfl

theorem openPullRequest_eq_throw (v : Services σ) (h : Hosting σ) (step : String)
    (htitle : ¬ IsTitle (p.title.getD "")) :
    ∃ e, IsRefusal step e ∧ ∀ y, openPullRequest v h step p y = (.error e, y) := by
  have hcheck : (!isValidTitle (p.title.getD "")) = true := by simpa [← isValidTitle_iff] using htitle
  rw [openPullRequest, if_pos hcheck]
  exact ⟨_, isRefusal_refusal _ _ _, fun y => rfl⟩

/-- The title of a pull request that is asked for is valid. -/
theorem notes_openPullRequest (step : String) :
    (openPullRequest v.notingDrafts h.notingDrafts step p x).2.2 = x.2 ∨
      ∃ d : PullRequestDraft, d.title = p.title.getD "" ∧ IsTitle d.title ∧
        (openPullRequest v.notingDrafts h.notingDrafts step p x).2.2 = x.2 ++ [d] := by
  by_cases htitle : IsTitle (p.title.getD "")
  · have hcheck : ¬ (!isValidTitle (p.title.getD "")) = true := by simpa [← isValidTitle_iff] using htitle
    have hall : (v.beside (List PullRequestDraft)).All NotesNothing := v.all_beside fun _ => notesNothing_beside
    have hhead := headOf_all closed_notesNothing hall step p x
    rw [openPullRequest, if_neg hcheck, headOf_notingDrafts, bind_apply]
    generalize headOf (v.beside (List PullRequestDraft)) step p x = named at hhead
    obtain ⟨result, y⟩ := named
    cases result with
    | error e => exact .inl hhead
    | ok head =>
      have hcreate := notes_createPullRequest v h p y step (p.title.getD "") head
      rw [hhead] at hcreate
      rcases hcreate with hnone | ⟨d, hd, hnotes⟩
      · exact .inl hnone
      · exact .inr ⟨d, hd, hd ▸ htitle, hnotes⟩
  · obtain ⟨e, -, hthrow⟩ := openPullRequest_eq_throw p v.notingDrafts h.notingDrafts step htitle
    rw [hthrow x]
    exact .inl rfl

end Opening

/-! ## Steps -/

/-- The title that a step gives to a pull request, with its placeholders filled. -/
def titleWith (p : PullRequestStep) (b : Bindings) : String := (Task.fillOption b p.title).getD ""

theorem exists_task_fill (b : Bindings) (htask : step.task = .pullRequest p) :
    ∃ q, (step.fill b).task = .pullRequest q ∧ q.action = p.action ∧ q.title.getD "" = titleWith p b := by
  have hfill : (step.fill b).task = (Task.pullRequest p).fill b := by rw [Step.fill, htask]
  exact ⟨_, hfill, rfl, rfl⟩

theorem perform_create (s : Session) (htask : step.task = .pullRequest p) (haction : p.action = .create) :
    v.hosting = none ∧ (∃ e, perform v s step = throw e) ∨
      ∃ h, v.hosting = some h ∧ perform v s step = openPullRequest v h step.id p := by
  rw [perform, htask]
  dsimp only
  rw [pullRequest]
  cases hhosting : v.hosting with
  | none => exact .inl ⟨rfl, _, rfl⟩
  | some h =>
    refine .inr ⟨h, rfl, ?_⟩
    dsimp only
    rw [haction]

/-- The hosting service is only asked to open pull requests with valid titles. -/
theorem drafts_create (s : Session) (htask : step.task = .pullRequest p) (haction : p.action = .create) (x : σ) :
    drafts v s step x = [] ∨
      ∃ d : PullRequestDraft, d.title = p.title.getD "" ∧ IsTitle d.title ∧ drafts v s step x = [d] := by
  unfold drafts
  rcases perform_create (v := v.notingDrafts) s htask haction with ⟨-, e, hperform⟩ | ⟨h', hhosting, hperform⟩
  · rw [hperform]
    exact .inl rfl
  · obtain ⟨h, -, rfl⟩ := Option.map_eq_some_iff.mp hhosting
    rw [hperform]
    exact notes_openPullRequest v h p (x, []) step.id

/-- A step whose title is not valid fails before anything is asked of a collaborator: as invalid, unless there is no
hosting service at all. -/
theorem perform_create_untitled (s : Session) (htask : step.task = .pullRequest p) (haction : p.action = .create)
    (htitle : ¬ IsTitle (p.title.getD "")) (x : σ) :
    ∃ e, perform v s step x = (.error e, x) ∧ (v.hosting.isSome → IsRefusal step.id e) := by
  rcases perform_create (v := v) s htask haction with ⟨hhosting, e, hperform⟩ | ⟨h, hhosting, hperform⟩
  · rw [hperform]
    exact ⟨e, rfl, by simp [hhosting]⟩
  · obtain ⟨e, he, hthrow⟩ := openPullRequest_eq_throw p v h step.id htitle
    rw [hperform]
    exact ⟨e, hthrow x, fun _ => he⟩

/-- Whatever the variables hold and the collaborators do, the hosting service is asked to open at most one pull request
in a step, with the filled title of the step, and that is valid. With another title the step fails before anything is
asked of a collaborator, as invalid if there is a hosting service. -/
theorem only_valid_titles_go_out (v : Services σ) (s : Session) (step : Step) (x : σ) :
    (perform v.notingDrafts s (step.fill s.variables)).Follows (perform v s (step.fill s.variables)) ∧
      (drafts v s (step.fill s.variables) x).length ≤ 1 ∧
      (∀ d ∈ drafts v s (step.fill s.variables) x, IsTitle d.title ∧
        ∃ p, step.task = .pullRequest p ∧ p.action = .create ∧ d.title = titleWith p s.variables) ∧
      ∀ p, step.task = .pullRequest p → p.action = .create → ¬ IsTitle (titleWith p s.variables) →
        drafts v s (step.fill s.variables) x = [] ∧
          ∃ e, perform v s (step.fill s.variables) x = (.error e, x) ∧ (v.hosting.isSome → IsRefusal step.id e) := by
  refine ⟨follows_perform v.follows_notingDrafts s _, ?_⟩
  by_cases hcreate : ∃ p, step.task = .pullRequest p ∧ p.action = .create
  · obtain ⟨p, htask, haction⟩ := hcreate
    obtain ⟨q, hq, hqaction, hqtitle⟩ := exists_task_fill s.variables htask
    have hdrafts := drafts_create (v := v) s hq (hqaction.trans haction) x
    rw [hqtitle] at hdrafts
    refine ⟨?_, ?_, ?_⟩
    · rcases hdrafts with hnone | ⟨d, -, -, hone⟩ <;> simp [*]
    · rcases hdrafts with hnone | ⟨d, hd, htitle, hone⟩
      · simp [hnone]
      · rw [hone, List.forall_mem_singleton]
        exact ⟨htitle, p, htask, haction, hd⟩
    · intro p' htask' _ huntitled
      obtain rfl : p = p' := Task.pullRequest.inj (htask.symm.trans htask')
      refine ⟨?_, ?_⟩
      · rcases hdrafts with hnone | ⟨d, hd, htitle, -⟩
        · exact hnone
        · exact absurd (hd ▸ htitle) huntitled
      · exact perform_create_untitled s hq (hqaction.trans haction) (hqtitle.symm ▸ huntitled) x
  · have hnone : drafts v s (step.fill s.variables) x = [] := by
      refine drafts_eq_nil s ?_ x
      intro q hq haction
      cases htask : step.task with
      | pullRequest p =>
        obtain ⟨q', hq', hqaction, -⟩ := exists_task_fill s.variables htask
        obtain rfl : q' = q := Task.pullRequest.inj (hq'.symm.trans hq)
        exact hcreate ⟨p, htask, hqaction.symm.trans haction⟩
      | _ => simp [Step.fill, htask, Task.fill] at hq
    refine ⟨by simp [hnone], by simp [hnone], ?_⟩
    intro p htask haction
    exact absurd ⟨p, htask, haction⟩ hcreate

/-- A service that opens every pull request as the first. -/
def quietHosting : Hosting Unit where
  create _ := pure { number := 1, url := "u" }
  latest _ := pure none
  merge _ _ := pure .null

/-- A step that opens a pull request with the value of a variable as its title. -/
def titledByVariable : Step where
  id := "s"
  task := .pullRequest {
    action := .create
    title := some "\x7b\x7bt\x7d\x7d"
    head := some "topic"
    repo := some "o/n" }

/-- A title over two lines is refused. -/
theorem title_over_two_lines_stays :
    drafts { Services.missing with hosting := some quietHosting } (Session.holding [("t", .text "a\nb")])
      (titledByVariable.fill [("t", .text "a\nb")]) () = [] :=
  ((only_valid_titles_go_out { Services.missing with hosting := some quietHosting }
    (Session.holding [("t", .text "a\nb")]) titledByVariable ()).2.2.2 _ rfl rfl
      fun h => h.feed (by decide +kernel)).1

/-- Blanks go out as a title, and so do control characters other than those that end a line. -/
theorem blank_title_goes_out :
    ["   ", "a\x1bb", "a\x00b"].map (fun title =>
      (drafts { Services.missing with hosting := some quietHosting } (Session.holding [("t", .text title)])
        (titledByVariable.fill [("t", .text title)]) ()).map (·.title)) = [["   "], ["a\x1bb"], ["a\x00b"]] := by
  decide +kernel

end Execution

end Runbook
