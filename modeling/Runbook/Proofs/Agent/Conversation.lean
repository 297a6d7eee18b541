import Runbook.Proofs.Execution.Provider

/-! What a conversation keeps: the last exchanges that succeeded since it was reset, each whole. A prompt that comes to
nothing, after whatever attempts, leaves no trace in it. -/

namespace Runbook

variable {σ : Type}

/-- A prompt and the reply of a model, with its reasoning. -/
structure Exchange where
  prompt : String
  reply : String
deriving DecidableEq

namespace Exchange

/-- An exchange as it is kept: a message of the user and one of the assistant, who shows no reasoning. -/
def messages (e : Exchange) : List Message := [⟨"user", e.prompt⟩, ⟨"assistant", Reasoning.strip e.reply⟩]

/-- As many exchanges are kept as fill the history. -/
def kept : ℕ := Conversation.maxHistory / 2

/-- The messages of the last exchanges. -/
def lastMessages (es : List Exchange) : List Message := (es.drop (es.length - kept)).flatMap messages

theorem length_flatMap_messages (es : List Exchange) : (es.flatMap messages).length = 2 * es.length := by
  induction es with
  | nil => rfl
  | cons e es ih =>
    simp only [List.flatMap_cons, List.length_append, ih, messages, List.length_cons, List.length_nil]
    omega

/-- Exchanges are dropped two messages at a time. -/
theorem drop_flatMap_messages (es : List Exchange) (n : ℕ) :
    (es.flatMap messages).drop (2 * n) = (es.drop n).flatMap messages := by
  induction es generalizing n with
  | nil => simp
  | cons e es ih =>
    cases n with
    | zero => simp
    | succ n => simpa [messages, Nat.mul_add] using ih n

theorem keepLast_flatMap_messages (es : List Exchange) :
    Conversation.keepLast (es.flatMap messages) = lastMessages es := by
  have hdropped : 2 * es.length - Conversation.maxHistory = 2 * (es.length - kept) := by
    simp only [kept, Conversation.maxHistory]
    omega
  rw [Conversation.keepLast, length_flatMap_messages, hdropped, drop_flatMap_messages, lastMessages]

theorem length_lastMessages_le (es : List Exchange) : (lastMessages es).length ≤ Conversation.maxHistory := by
  simp only [lastMessages, length_flatMap_messages, List.length_drop, kept, Conversation.maxHistory]
  omega

/-- The first message is one of the user. -/
theorem role_of_head?_lastMessages {es : List Exchange} {m : Message} (h : (lastMessages es).head? = some m) :
    m.role = "user" := by
  rw [lastMessages] at h
  cases hlast : es.drop (es.length - kept) with
  | nil => simp [hlast] at h
  | cons e rest =>
    rw [hlast] at h
    obtain rfl : ⟨"user", e.prompt⟩ = m := by simpa [messages] using h
    rfl

end Exchange

/-- What is dropped before more is added would be dropped after it. -/
theorem Conversation.keepLast_append (ms added : List Message) :
    keepLast (keepLast ms ++ added) = keepLast (ms ++ added) := by
  have hle : ms.length - maxHistory ≤ ms.length := Nat.sub_le _ _
  unfold keepLast
  rw [← List.drop_append_of_le_length hle, List.drop_drop, List.length_drop, List.length_append]
  congr 1
  omega

/-! ## Prompts -/

namespace Talk

variable {t : Talk σ}

/-- The conversation has the same messages. -/
def SameHistory (t : Talk σ) (x y : σ) : Prop := (t.conversation y).history = (t.conversation x).history

/-- The conversation is found as it was left, and the model services do not change what was said in it. -/
structure KeepsHistory (t : Talk σ) : Prop where
  conversation_replace : ∀ c x, t.conversation (t.replace c x) = c
  generate : ∀ name messages model warmth,
    Act.Moves t.SameHistory ModelReply ((t.services name).generate messages model warmth)

/-- The reply of the model to a prompt, at the last of the attempts. -/
def replyTo (t : Talk σ) (prompt : String) : Act σ ModelReply := do
  t.update (·.noteAsked)
  let c ← Act.view t.conversation
  let messages := ⟨"system", t.systemPrompt⟩ :: c.history ++ [⟨"user", prompt⟩]
  let ask := (t.services c.provider.name).generate messages (some c.provider.model) t.warmth
  (ask.retried (Conversation.attempts - 1)).reword (noAnswer c.provider)

theorem chat_eq (t : Talk σ) (prompt : String) :
    t.chat prompt = do
      let reply ← t.replyTo prompt
      t.update (·.add prompt (Reasoning.strip reply.content))
      return Reasoning.strip reply.content := by
  simp only [chat, replyTo, bind_assoc]

/-- A prompt is answered if the model replies, and with its reply. -/
theorem chat_fst (t : Talk σ) (prompt : String) (x : σ) :
    (t.chat prompt x).1 = (t.replyTo prompt x).1.map fun reply => Reasoning.strip reply.content := by
  rw [chat_eq, Act.bind_apply]
  cases (t.replyTo prompt x).1 <;> rfl

theorem moves_replyTo (h : t.KeepsHistory) (prompt : String) :
    Act.Moves t.SameHistory ModelReply (t.replyTo prompt) := by
  have hclosed : Act.Closed (Act.Moves t.SameHistory) :=
    Act.closed_moves (fun _ => rfl) fun _ _ _ h h' => h'.trans h
  refine hclosed.bind (fun x => ?_) fun _ => hclosed.bind (fun _ => rfl) fun c => fun x => ?_
  · change (t.conversation (t.replace (t.conversation x).noteAsked x)).history = (t.conversation x).history
    rw [h.conversation_replace, Conversation.noteAsked]
    split_ifs <;> rfl
  · rw [Act.reword_apply]
    exact Act.moves_retried (R := t.SameHistory) (fun _ _ _ h h' => h'.trans h) (h.generate _ _ _ _) _ x

/-- What a conversation has after a prompt: the exchange more, if the model replied, and nothing new if not. -/
theorem history_chat (h : t.KeepsHistory) (prompt : String) (x : σ) :
    (t.conversation (t.chat prompt x).2).history =
      match (t.replyTo prompt x).1 with
      | .ok reply =>
        Conversation.keepLast ((t.conversation x).history ++ (Exchange.mk prompt reply.content).messages)
      | .error _ => (t.conversation x).history := by
  have hsame : (t.conversation (t.replyTo prompt x).2).history = (t.conversation x).history :=
    moves_replyTo h prompt x
  rw [chat_eq, Act.bind_apply]
  cases (t.replyTo prompt x).1 with
  | error f => exact hsame
  | ok reply =>
    change (t.conversation (t.replace ((t.conversation _).add _ _) _)).history = _
    rw [h.conversation_replace, ← hsame]
    rfl

/-! ## Conversations -/

/-- What an agent is told to do. -/
inductive Turn where
  | chat (prompt : String)
  | switch (p : Provider)
  | reset

/-- The exchanges that succeeded since the last reset, and the world, after a turn more. -/
def after (t : Talk σ) (told : List Exchange × σ) : Turn → List Exchange × σ
  | .chat prompt =>
    (match (t.replyTo prompt told.2).1 with
      | .ok reply => told.1 ++ [⟨prompt, reply.content⟩]
      | .error _ => told.1,
      (t.chat prompt told.2).2)
  | .switch p => (told.1, (t.setProvider p told.2).2)
  | .reset => ([], (t.reset told.2).2)

/-- The exchanges since the last reset, and the world, at the end of a conversation that begins in a world. -/
def course (t : Talk σ) (turns : List Turn) (x : σ) : List Exchange × σ := turns.foldl t.after ([], x)

/-- A turn keeps the messages of the last exchanges. -/
theorem history_after (h : t.KeepsHistory) {told : List Exchange × σ}
    (htold : (t.conversation told.2).history = Exchange.lastMessages told.1) (turn : Turn) :
    (t.conversation (t.after told turn).2).history = Exchange.lastMessages (t.after told turn).1 := by
  cases turn with
  | chat prompt =>
    dsimp only [after]
    rw [history_chat h]
    cases (t.replyTo prompt told.2).1 with
    | error f => exact htold
    | ok reply =>
      dsimp only
      rw [htold, ← Exchange.keepLast_flatMap_messages, ← Exchange.keepLast_flatMap_messages,
        Conversation.keepLast_append, List.flatMap_append, List.flatMap_singleton]
  | switch p =>
    change (t.conversation (t.replace _ told.2)).history = _
    rw [h.conversation_replace]
    exact htold
  | reset =>
    change (t.conversation (t.replace _ told.2)).history = _
    rw [h.conversation_replace]
    rfl

theorem history_course (h : t.KeepsHistory) {x : σ} (hx : (t.conversation x).history = []) (turns : List Turn) :
    (t.conversation (t.course turns x).2).history = Exchange.lastMessages (t.course turns x).1 := by
  induction turns using List.reverseRecOn with
  | nil => simpa [course, Exchange.lastMessages] using hx
  | append_singleton turns turn ih =>
    unfold course at ih ⊢
    rw [List.foldl_append]
    exact history_after h ih turn

/-- However an agent is talked to, its history has the last twenty exchanges that succeeded since it was reset, each a
message of the user and one of the assistant, who shows no reasoning. So there are at most forty messages, the first of
which is one of the user. A prompt succeeds if the model replies, and is answered with its reply; one that fails leaves
the history as it is. -/
theorem history_is_last_exchanges (h : t.KeepsHistory) {x : σ} (hx : (t.conversation x).history = [])
    (turns : List Turn) :
    let es := (t.course turns x).1
    let y := (t.course turns x).2
    (t.conversation y).history = (es.drop (es.length - 20)).flatMap Exchange.messages ∧
      (t.conversation y).history.length ≤ 40 ∧
      (∀ m, (t.conversation y).history.head? = some m → m.role = "user") ∧
      ∀ prompt, (t.chat prompt y).1 = (t.replyTo prompt y).1.map (fun reply => Reasoning.strip reply.content) ∧
        ∀ f, (t.chat prompt y).1 = .error f →
          (t.conversation (t.chat prompt y).2).history = (t.conversation y).history := by
  have hhistory := history_course h hx turns
  refine ⟨hhistory, ?_, ?_, fun prompt => ⟨t.chat_fst prompt _, fun f hfails => ?_⟩⟩
  · rw [hhistory]
    exact Exchange.length_lastMessages_le _
  · intro m hm
    rw [hhistory] at hm
    exact Exchange.role_of_head?_lastMessages hm
  · rw [history_chat h]
    rw [chat_fst] at hfails
    cases hreply : (t.replyTo prompt (t.course turns x).2).1 with
    | error e => rfl
    | ok reply => simp [hreply, Except.map] at hfails

/-! ## A service that is down at times -/

/-- A conversation with models of which one never answers. -/
def withGaps : Talk Conversation where
  conversation := id
  replace c _ := c
  services _ := {
    generate := fun _ model _ =>
      if model = some "down" then throw (.ofKind .timeout "") else pure ⟨"<think>Hm.</think> Done.", model.getD ""⟩
    models := pure []
    isAvailable := pure true }

theorem keepsHistory_withGaps : withGaps.KeepsHistory where
  conversation_replace _ _ := rfl
  generate _ messages model warmth x := by
    change ((if model = some "down" then throw (.ofKind .timeout "") else
      pure ⟨"<think>Hm.</think> Done.", model.getD ""⟩ : Act Conversation ModelReply) x).2.history = x.history
    split_ifs <;> rfl

/-- A reset, a prompt that is answered, one that is not, and twenty more that are. -/
def twentyMore : List Turn :=
  [.chat "lost", .reset, .chat "first", .switch ⟨"ollama", "down"⟩, .chat "in vain", .switch ⟨"ollama", "up"⟩] ++
    List.replicate 20 (.chat "more")

/-- After twenty more the first exchange is gone. -/
theorem first_exchange_is_gone :
    withGaps.KeepsHistory ∧ (withGaps.course twentyMore { provider := ⟨"ollama", "up"⟩ }).1.length = 21 ∧
      (withGaps.conversation (withGaps.course twentyMore { provider := ⟨"ollama", "up"⟩ }).2).history =
        (List.replicate 20 [⟨"user", "more"⟩, ⟨"assistant", "Done."⟩]).flatten := by
  have hexchanges : (withGaps.course twentyMore { provider := ⟨"ollama", "up"⟩ }).1 =
      ⟨"first", "<think>Hm.</think> Done."⟩ :: List.replicate 20 ⟨"more", "<think>Hm.</think> Done."⟩ := by
    decide +kernel
  have hplain : Reasoning.strip "<think>Hm.</think> Done." = "Done." := by decide +kernel
  refine ⟨keepsHistory_withGaps, by rw [hexchanges]; rfl, ?_⟩
  have hhistory := (history_is_last_exchanges keepsHistory_withGaps (x := { provider := ⟨"ollama", "up"⟩ }) rfl
    twentyMore).1
  rw [hhistory, hexchanges]
  simp [Exchange.messages, hplain]

end Talk

end Runbook
