import Runbook.Proofs.Execution.Commands

/-! The message of a commit as people see it, in double quotes: by the rules of double quotes it reads as the message
that git got, so that no two messages look alike. -/

namespace Runbook

open Text

namespace Git

/-! ## Reading -/

/-- How the reading of a text behind an opening quote ends: with the last character, at a quote, with what is behind it,
or at a backslash that has no character behind it. -/
inductive Ending where
  | complete
  | quote (after : List Char)
  | backslash
deriving DecidableEq, Repr

/-- What a text behind an opening quote stands for, and how it ends: a backslash makes the character behind it literal,
and any other quote ends the text. -/
def unquote : List Char → List Char × Ending
  | [] => ([], .complete)
  | ['\\'] => ([], .backslash)
  | '\\' :: c :: rest => (c :: (unquote rest).1, (unquote rest).2)
  | '"' :: after => ([], .quote after)
  | c :: rest => (c :: (unquote rest).1, (unquote rest).2)

theorem unquote_backslash (c : Char) (rest : List Char) :
    unquote ('\\' :: c :: rest) = (c :: (unquote rest).1, (unquote rest).2) := by
  rw [unquote]

theorem unquote_quote (after : List Char) : unquote ('"' :: after) = ([], .quote after) := by
  rw [unquote]

/-- A character that is neither a backslash nor a quote stands for itself. -/
theorem unquote_cons {c : Char} (hbackslash : c ≠ '\\') (hquote : c ≠ '"') (rest : List Char) :
    unquote (c :: rest) = (c :: (unquote rest).1, (unquote rest).2) := by
  rw [unquote]
  · simp [hbackslash]
  · simp [hbackslash]
  · simp [hquote]

/-! ## Messages -/

/-- A character of a message as it is shown. -/
def escapeChar (c : Char) : List Char := if c = '\\' || c = '"' then ['\\', c] else [c]

theorem toList_escapeMessage (message : String) :
    (escapeMessage message).toList = message.toList.flatMap escapeChar := String.toList_ofList

/-- What is shown for a character is read as the character, whichever it is. -/
theorem unquote_escapeChar_append (c : Char) (rest : List Char) :
    unquote (escapeChar c ++ rest) = (c :: (unquote rest).1, (unquote rest).2) := by
  by_cases hbackslash : c = '\\'
  · subst hbackslash
    exact unquote_backslash '\\' rest
  by_cases hquote : c = '"'
  · subst hquote
    exact unquote_backslash '"' rest
  have hplain : escapeChar c = [c] := by simp [escapeChar, hbackslash, hquote]
  rw [hplain]
  exact unquote_cons hbackslash hquote rest

/-- What is shown for some characters is read as these, and then what is behind it is read. -/
theorem unquote_flatMap_append (cs rest : List Char) :
    unquote (cs.flatMap escapeChar ++ rest) = (cs ++ (unquote rest).1, (unquote rest).2) := by
  induction cs with
  | nil => simp
  | cons c cs ih =>
    rw [List.flatMap_cons, List.append_assoc, unquote_escapeChar_append, ih]
    simp

theorem unquote_escapeMessage (message : String) :
    unquote (escapeMessage message).toList = (message.toList, .complete) := by
  have hread := unquote_flatMap_append message.toList []
  rw [List.append_nil, ← toList_escapeMessage] at hread
  simpa [unquote] using hread

theorem unquote_escapeMessage_append (message : String) (after : List Char) :
    unquote ((escapeMessage message).toList ++ '"' :: after) = (message.toList, .quote after) := by
  rw [toList_escapeMessage, unquote_flatMap_append, unquote_quote, List.append_nil]

theorem escapeMessage_injective : Function.Injective escapeMessage := by
  intro message other h
  have hread := unquote_escapeMessage message
  rw [h, unquote_escapeMessage] at hread
  exact String.toList_injective (Prod.mk.inj hread).1.symm

/-- The backslashes are doubled first, and then the quotes get theirs. -/
theorem escapeMessage_eq_replaceChar (message : String) :
    escapeMessage message = replaceChar '"' "\\\"" (replaceChar '\\' "\\\\" message) := by
  have hchar (c : Char) : escapeChar c =
      (if c = '\\' then "\\\\".toList else [c]).flatMap fun d => if d = '"' then "\\\"".toList else [d] := by
    by_cases hbackslash : c = '\\'
    · subst hbackslash
      rfl
    by_cases hquote : c = '"'
    · subst hquote
      rfl
    simp [escapeChar, hbackslash, hquote]
  apply String.toList_injective
  simp only [toList_escapeMessage, replaceChar, String.toList_ofList, List.flatMap_assoc, funext hchar]

/-- The other way round, a quote would read as a backslash that ends the message. -/
example : unquote (replaceChar '\\' "\\\\" (replaceChar '"' "\\\"" "\"")).toList = (['\\'], .quote []) := by
  decide

theorem message_eq_of_display {message other : String} {more more' : List String}
    (h : display ("git" :: "commit" :: "-m" :: message :: more) =
      display ("git" :: "commit" :: "-m" :: other :: more')) : message = other := by
  change "git commit -m \"" ++ escapeMessage message ++ "\"" = "git commit -m \"" ++ escapeMessage other ++ "\"" at h
  have hchars := congrArg String.toList h
  simp only [String.toList_append, List.append_assoc, List.append_cancel_left_eq, List.append_cancel_right_eq] at hchars
  exact escapeMessage_injective (String.toList_injective hchars)

/-- What is committed is the message of the step. -/
theorem exists_message_of_commands {step : String} {message base : Option String} {commands : List (List String)}
    (h : Git.commands step .commit message base = .ok commands) :
    ∃ m, message = some m ∧ commands = [["git", "commit", "-m", m]] := by
  cases message with
  | none => cases h
  | some m =>
    rw [Git.commands] at h
    split_ifs at h
    exact ⟨m, rfl, (Except.ok.inj h).symm⟩

end Git

/-! ## Steps -/

/-- A single command that comes to a result was executed. -/
theorem Stops.command_of_single {argv : List String} {done : List Executed} {results : List ProcessResult}
    (h : Stops [argv] done (.ok results)) : done.map (·.command) = [.words argv] := by
  generalize hcommands : [argv] = commands, hresults : Except.ok results = r at h
  cases h with
  | finished => cases hcommands
  | passed hr hrest =>
    obtain ⟨rfl, rfl⟩ := List.cons.inj hcommands
    cases hrest
    rfl
  | failed hr =>
    obtain ⟨rfl, -⟩ := List.cons.inj hcommands
    rfl
  | broken cause e => cases hresults
  | notStarted e => cases hresults

namespace Execution

variable {σ : Type} {s : Session} {step : Step} {message base : Option String}

/-- A step that comes to an outcome has had its message committed, and shows the command. -/
theorem exists_commit_of_perform (htask : step.task = .git .commit message base) (v : Services σ) {x : σ}
    {o : Outcome} (ho : (perform v s step x).1 = .ok o) :
    ∃ m, message = some m ∧ (executed v s step x).map (·.command) = [.words ["git", "commit", "-m", m]] ∧
      (Value.obj o.output).get? "commands" = some (.list [.text (Git.display ["git", "commit", "-m", m])]) := by
  cases hcommands : Git.commands step.id .commit message base with
  | error e =>
    rw [perform_of_refused htask hcommands] at ho
    cases ho
  | ok commands =>
    obtain ⟨m, rfl, rfl⟩ := Git.exists_message_of_commands hcommands
    obtain ⟨results, hstops, hresult⟩ := stops_executed htask hcommands v x
    rw [hresult] at ho
    cases results with
    | error e => cases ho
    | ok results =>
      obtain rfl := Except.ok.inj ho
      exact ⟨m, rfl, hstops.command_of_single, rfl⟩

end Execution

/-- A message as it is shown, with its backslashes doubled first and a backslash in front of its quotes then, reads as
itself: all of it is read, no quote in it ends it, and the quote behind it does. So two messages are never shown alike,
and what a step shows of its commit reads as the message that git got. -/
theorem Git.shown_message_reads_as_itself :
    (∀ message : String, escapeMessage message = replaceChar '"' "\\\"" (replaceChar '\\' "\\\\" message)) ∧
    (∀ message : String, unquote (escapeMessage message).toList = (message.toList, .complete)) ∧
    (∀ (message : String) (after : List Char),
      unquote ((escapeMessage message).toList ++ '"' :: after) = (message.toList, .quote after)) ∧
    (∀ (message other : String) (more more' : List String),
      display ("git" :: "commit" :: "-m" :: message :: more) = display ("git" :: "commit" :: "-m" :: other :: more') →
        message = other) ∧
    ∀ {σ : Type} (v : Services σ) (s : Session) (step : Step) (message base : Option String) (x : σ) (o : Outcome),
      step.task = .git .commit message base → (Execution.perform v s (step.fill s.variables) x).1 = .ok o →
      ∃ m shown, Task.fillOption s.variables message = some m ∧
        (Execution.executed v s (step.fill s.variables) x).map (·.command) = [.words ["git", "commit", "-m", m]] ∧
        (Value.obj o.output).get? "commands" = some (.list [.text ("git commit -m \"" ++ shown)]) ∧
        unquote shown.toList = (m.toList, .quote []) := by
  refine ⟨escapeMessage_eq_replaceChar, unquote_escapeMessage, unquote_escapeMessage_append,
    fun _ _ _ _ => message_eq_of_display, ?_⟩
  intro σ v s step message base x o htask ho
  have hfilled : (step.fill s.variables).task = .git .commit (Task.fillOption s.variables message)
      (Task.fillOption s.variables base) := congrArg (Task.fill s.variables) htask
  obtain ⟨m, hm, hexecuted, hshown⟩ := Execution.exists_commit_of_perform hfilled v ho
  refine ⟨m, escapeMessage m ++ "\"", hm, hexecuted, ?_, ?_⟩
  · rw [← String.append_assoc]
    exact hshown
  · rw [String.toList_append]
    exact unquote_escapeMessage_append m []

/-- A session with a message that has a quote in front and a backslash at its end. -/
def Session.quoting : Session := .holding [("message", .text "\"a\\")]

/-- Commits with the message. -/
def Step.committing : Step := ⟨"commit", none, .git .commit (some "{{message}}") none⟩

/-- The quote and the backslash each get a backslash in front of them, which is not part of what is read. -/
theorem Git.quote_and_backslash_read_as_themselves :
    unquote "\\\"a\\\\".toList = (['"', 'a', '\\'], .complete) ∧
      ∃ o, (Execution.perform (.running (.exiting 0)) .quoting (Step.committing.fill Session.quoting.variables) ()).1 =
          .ok o ∧
        ∃ shown, (Value.obj o.output).get? "commands" = some (.list [.text ("git commit -m \"" ++ shown)]) ∧
          unquote shown.toList = (['"', 'a', '\\'], .quote []) := by
  obtain ⟨-, hreads, -, -, hsteps⟩ := shown_message_reads_as_itself
  refine ⟨hreads "\"a\\", _, rfl, ?_⟩
  obtain ⟨m, shown, hm, -, hshown, hread⟩ := hsteps (.running (.exiting 0)) .quoting
    .committing (some "{{message}}") none () _ rfl rfl
  obtain rfl : "\"a\\" = m := by
    have hfill : Task.fillOption Session.quoting.variables (some "{{message}}") = some "\"a\\" := by decide +kernel
    exact Option.some.inj (hfill.symm.trans hm)
  exact ⟨shown, hshown, hread⟩

end Runbook
