import Runbook.Proofs.Agent.Conversation
import Runbook.Proofs.Text.Cutting

/-! What is left of a reply without its blocks of reasoning. The blocks are dropped in one pass, so that an opening tag
may come about from what stands on both sides of a block. This is the only way in which a block is left. -/

namespace Runbook

open Text

namespace Reasoning

variable {cs before after last : List Char} {pieces : List (List Char)} {fuel : ℕ}

/-- There is an opening tag, and a closing one after it. -/
def HasBlock (cs : List Char) : Prop :=
  ∃ before inside after, cs = before ++ (opening ++ (inside ++ (closing ++ after)))

/-- A text is cut into the pieces in front of its blocks, and what is behind the last of them. A block goes from the
first opening tag to the first closing tag after it. -/
inductive IsCut : List Char → List (List Char) → List Char → Prop where
  | last {cs : List Char} (h : ¬ HasBlock cs) : IsCut cs [] cs
  | block {before inside after last : List Char} {pieces : List (List Char)} (hbefore : ¬ opening <:+: before)
      (hinside : ¬ closing <:+: inside) (h : IsCut after pieces last) :
      IsCut (before ++ (opening ++ (inside ++ (closing ++ after)))) (before :: pieces) last

/-- An opening tag begins in front of a block and ends behind it, and a closing tag follows. -/
def JoinsTag (pieces : List (List Char)) (last : List Char) : Prop :=
  ∃ front back start ending rest, pieces = front ++ back ∧ opening = start ++ ending ∧ start ≠ [] ∧ ending ≠ [] ∧
    start <:+ front.flatten ∧ back.flatten ++ last = ending ++ rest ∧ closing <:+: rest

theorem cut?_opening_iff :
    cut? opening cs = some (before, after) ↔ cs = before ++ (opening ++ after) ∧ ¬ opening <:+: before :=
  cut?_eq_some_iff (by decide)

theorem cut?_closing_iff :
    cut? closing cs = some (before, after) ↔ cs = before ++ (closing ++ after) ∧ ¬ closing <:+: before :=
  cut?_eq_some_iff (by decide)

theorem HasBlock.append_left (h : HasBlock cs) (before : List Char) : HasBlock (before ++ cs) := by
  obtain ⟨start, inside, after, rfl⟩ := h
  exact ⟨before ++ start, inside, after, (List.append_assoc _ _ _).symm⟩

theorem hasBlock_of_infix (h : closing <:+: after) (before : List Char) : HasBlock (before ++ (opening ++ after)) := by
  obtain ⟨inside, rest, rfl⟩ := h
  exact ⟨before, inside, rest, by simp only [List.append_assoc]⟩

/-- Where the first opening tag has no closing tag after it there is no block. -/
theorem hasBlock_append_iff (hbefore : ¬ opening <:+: before) :
    HasBlock (before ++ (opening ++ after)) ↔ closing <:+: after := by
  refine ⟨?_, fun h => hasBlock_of_infix h before⟩
  rintro ⟨start, inside, rest, heq⟩
  have hcloses : closing <:+: inside ++ (closing ++ rest) := ⟨inside, rest, List.append_assoc _ _ _⟩
  generalize inside ++ (closing ++ rest) = tail at heq hcloses
  rcases List.append_eq_append_iff.mp heq with ⟨between, -, htail⟩ | ⟨between, hbetween, htail⟩
  · -- The tag of the block is not in front of the first one, so that what follows it follows that one too.
    have hlength := congrArg List.length htail
    simp only [List.length_append] at hlength
    have hwhole : tail <:+ opening ++ after := by
      rw [htail]
      exact ⟨between ++ opening, List.append_assoc _ _ _⟩
    have hsuffix : tail <:+ after := List.suffix_of_suffix_length_le hwhole (List.suffix_append _ _) (by omega)
    exact hcloses.trans hsuffix.isInfix
  · cases between with
    | nil =>
      rw [List.nil_append, List.append_cancel_left_eq] at htail
      exact htail ▸ hcloses
    | cons d between =>
      have hopens : opening <+: d :: between := isPrefix_of_isPrefix_append (by decide) ⟨tail, htail⟩
      exact absurd (hopens.isInfix.trans ⟨start, [], by simp [hbetween]⟩) hbefore

theorem not_hasBlock_of_no_opening (h : ¬ opening <:+: cs) : ¬ HasBlock cs := by
  rintro ⟨before, inside, after, rfl⟩
  exact h ⟨before, inside ++ (closing ++ after), List.append_assoc _ _ _⟩

/-! ## Dropping the blocks -/

theorem dropBlocks_of_not_hasBlock (h : ¬ HasBlock cs) (fuel : ℕ) : dropBlocks fuel cs = cs := by
  cases fuel with
  | zero => rfl
  | succ fuel =>
    rw [dropBlocks]
    cases hopens : cut? opening cs with
    | none => rfl
    | some parts =>
      obtain ⟨before, rest⟩ := parts
      obtain ⟨rfl, hbefore⟩ := cut?_opening_iff.mp hopens
      dsimp only
      cases hcloses : cut? closing rest with
      | none => rfl
      | some parts =>
        rw [hasBlock_append_iff hbefore, ← isSome_cut?_iff, hcloses] at h
        exact absurd h (by simp)

/-- A text has no block, or it has a first one. -/
theorem hasBlock_cases (cs : List Char) :
    ¬ HasBlock cs ∨ ∃ before inside after, cs = before ++ (opening ++ (inside ++ (closing ++ after))) ∧
      ¬ opening <:+: before ∧ ¬ closing <:+: inside := by
  cases hopens : cut? opening cs with
  | none =>
    have hnot : ¬ opening <:+: cs := by
      rw [← isSome_cut?_iff, hopens]
      exact Bool.false_ne_true
    exact .inl (not_hasBlock_of_no_opening hnot)
  | some parts =>
    obtain ⟨before, rest⟩ := parts
    obtain ⟨rfl, hbefore⟩ := cut?_opening_iff.mp hopens
    rw [hasBlock_append_iff hbefore, ← isSome_cut?_iff]
    cases hcloses : cut? closing rest with
    | none => exact .inl Bool.false_ne_true
    | some parts =>
      obtain ⟨inside, after⟩ := parts
      obtain ⟨hrest, hinside⟩ := cut?_closing_iff.mp hcloses
      exact .inr ⟨before, inside, after, by rw [hrest], hbefore, hinside⟩

/-- Every text can be cut. -/
theorem exists_isCut (cs : List Char) : ∃ pieces last, IsCut cs pieces last := by
  induction hn : cs.length using Nat.strong_induction_on generalizing cs with
  | h n ih =>
    rcases hasBlock_cases cs with hnot | ⟨before, inside, after, hcs, hbefore, hinside⟩
    · exact ⟨[], cs, .last hnot⟩
    · have hlength := congrArg List.length hcs
      have hopening : opening.length = 7 := rfl
      simp only [List.length_append] at hlength
      obtain ⟨pieces, last, hcut⟩ := ih after.length (by omega) after rfl
      exact ⟨before :: pieces, last, hcs ▸ .block hbefore hinside hcut⟩

namespace IsCut

theorem not_hasBlock_last (h : IsCut cs pieces last) : ¬ HasBlock last := by
  induction h with
  | last h => exact h
  | block _ _ _ ih => exact ih

theorem not_hasBlock_of_nil (h : IsCut cs [] last) : ¬ HasBlock cs := by
  cases h with
  | last h => exact h

theorem not_infix_of_mem (h : IsCut cs pieces last) : ∀ piece ∈ pieces, ¬ opening <:+: piece := by
  induction h with
  | last _ => exact nofun
  | block hbefore _ _ ih => exact List.forall_mem_cons.mpr ⟨hbefore, ih⟩

/-- What is kept is shorter by the tags of the blocks. -/
theorem length_le (h : IsCut cs pieces last) : (pieces.flatten ++ last).length + pieces.length ≤ cs.length := by
  induction h with
  | last _ => simp
  | block _ _ _ ih =>
    have hopening : opening.length = 7 := rfl
    simp only [List.flatten_cons, List.length_append, List.length_cons] at ih ⊢
    omega

/-- Dropping the blocks leaves the pieces in their order. -/
theorem dropBlocks_eq (h : IsCut cs pieces last) (hfuel : pieces.length ≤ fuel) :
    dropBlocks fuel cs = pieces.flatten ++ last := by
  induction h generalizing fuel with
  | last h => exact dropBlocks_of_not_hasBlock h fuel
  | block hbefore hinside _ ih =>
    cases fuel with
    | zero => cases hfuel
    | succ fuel =>
      rw [dropBlocks, cut?_opening_iff.mpr ⟨rfl, hbefore⟩]
      dsimp only
      rw [cut?_closing_iff.mpr ⟨rfl, hinside⟩]
      dsimp only
      rw [ih (Nat.le_of_succ_le_succ hfuel), List.flatten_cons, List.append_assoc]

end IsCut

/-! ## Tags that are put together -/

theorem JoinsTag.hasBlock (h : JoinsTag pieces last) : HasBlock (pieces.flatten ++ last) := by
  obtain ⟨front, back, start, ending, rest, rfl, hopening, -, -, ⟨before, hfront⟩, hback, hcloses⟩ := h
  have hjoined : (front ++ back).flatten ++ last = before ++ (opening ++ rest) := by
    rw [List.flatten_append, List.append_assoc, hback, ← hfront, hopening]
    simp only [List.append_assoc]
  rw [hjoined]
  exact hasBlock_of_infix hcloses before

theorem JoinsTag.cons (h : JoinsTag pieces last) (piece : List Char) : JoinsTag (piece :: pieces) last := by
  obtain ⟨front, back, start, ending, rest, rfl, hopening, hstart, hending, hfront, hback, hcloses⟩ := h
  have hfront' : start <:+ (piece :: front).flatten := hfront.trans (List.suffix_append piece front.flatten)
  exact ⟨piece :: front, back, start, ending, rest, rfl, hopening, hstart, hending, hfront', hback, hcloses⟩

/-- A block among pieces that have none has an opening tag that is in more than one of them. -/
theorem joinsTag_of_hasBlock (hpieces : ∀ piece ∈ pieces, ¬ opening <:+: piece) (hlast : ¬ HasBlock last)
    (h : HasBlock (pieces.flatten ++ last)) : JoinsTag pieces last := by
  induction pieces with
  | nil => exact absurd h hlast
  | cons piece pieces ih =>
    obtain ⟨hpiece, hpieces⟩ := List.forall_mem_cons.mp hpieces
    by_cases hrest : HasBlock (pieces.flatten ++ last)
    · exact (ih hpieces hrest).cons piece
    · obtain ⟨before, inside, after, heq⟩ := h
      rw [List.flatten_cons, List.append_assoc] at heq
      rcases List.append_eq_append_iff.mp heq with ⟨between, -, htail⟩ | ⟨start, rfl, htail⟩
      · exact absurd ⟨between, inside, after, htail⟩ hrest
      · -- The tag begins in this piece, and does not end in it.
        rcases List.append_eq_append_iff.mp htail with ⟨more, rfl, -⟩ | ⟨ending, hopening, hback⟩
        · exact absurd ⟨before, more, List.append_assoc _ _ _⟩ hpiece
        · refine ⟨[before ++ start], pieces, start, ending, _, rfl, hopening, ?_, ?_, by simp, hback, ?_⟩
          · rintro rfl
            exact hrest ⟨[], inside, after, by rw [hback, hopening, List.nil_append, List.nil_append]⟩
          · rintro rfl
            exact hpiece ⟨before, [], by rw [hopening, List.append_nil, List.append_nil]⟩
          · exact ⟨inside, after, List.append_assoc _ _ _⟩

theorem IsCut.hasBlock_iff (h : IsCut cs pieces last) : HasBlock (pieces.flatten ++ last) ↔ JoinsTag pieces last :=
  ⟨joinsTag_of_hasBlock h.not_infix_of_mem h.not_hasBlock_last, JoinsTag.hasBlock⟩

/-! ## Replies -/

theorem hasBlock_trim_iff (cs : List Char) : HasBlock (trim (String.ofList cs)).toList ↔ HasBlock cs := by
  constructor
  · intro h
    obtain ⟨start, hstart⟩ : trimStart cs <:+ cs := List.dropWhile_suffix _
    obtain ⟨rest, hrest⟩ := isPrefix_trimEnd (trimStart cs)
    obtain ⟨before, inside, after, hblock⟩ := h
    have hcs : cs = start ++ (before ++ (opening ++ (inside ++ (closing ++ (after ++ rest))))) := by
      rw [trim, String.toList_ofList, String.toList_ofList] at hblock
      rw [← hstart, ← hrest, hblock]
      simp only [List.append_assoc]
    rw [hcs]
    exact HasBlock.append_left ⟨before, inside, after ++ rest, rfl⟩ start
  · rintro ⟨before, inside, after, rfl⟩
    have hopening : HasEnds opening := ⟨⟨'<', rfl, rfl⟩, '>', rfl, rfl⟩
    have hclosing : HasEnds closing := ⟨⟨'<', rfl, rfl⟩, '>', rfl, rfl⟩
    have htrim := trim_append (hopening.join hclosing inside) before after
    have hsame : before ++ (opening ++ (inside ++ (closing ++ after))) =
        before ++ (opening ++ inside ++ closing) ++ after := by simp only [List.append_assoc]
    rw [hsame, htrim, String.toList_ofList]
    exact ⟨trimStart before, inside, trimEnd after, by simp only [List.append_assoc]⟩

theorem strip_eq (reply : String) :
    strip reply = trim (String.ofList (dropBlocks reply.toList.length reply.toList)) := by
  rw [trim, String.toList_ofList]
  rfl

/-- What is kept of a reply are the pieces, in their order, without the blanks around them. -/
theorem strip_of_isCut {reply : String} (h : IsCut reply.toList pieces last) :
    strip reply = trim (String.ofList (pieces.flatten ++ last)) := by
  have hlength := h.length_le
  rw [strip_eq, h.dropBlocks_eq (by omega)]

theorem hasBlock_strip_iff {reply : String} (h : IsCut reply.toList pieces last) :
    HasBlock (strip reply).toList ↔ JoinsTag pieces last := by
  rw [strip_of_isCut h, hasBlock_trim_iff, h.hasBlock_iff]

theorem length_trim_le (cs : List Char) : (trim (String.ofList cs)).toList.length ≤ cs.length := by
  rw [trim, String.toList_ofList, String.toList_ofList]
  exact (isPrefix_trimEnd _).length_le.trans (List.dropWhile_suffix _).length_le

/-- Stripping once more changes nothing exactly if there is no block left. -/
theorem strip_strip_iff (reply : String) : strip (strip reply) = strip reply ↔ ¬ HasBlock (strip reply).toList := by
  constructor
  · intro hsame hblock
    obtain ⟨pieces, last, hcut⟩ := exists_isCut (strip reply).toList
    have hne : pieces ≠ [] := by
      rintro rfl
      exact hcut.not_hasBlock_of_nil hblock
    have hpos := List.length_pos_iff.mpr hne
    have hlength := hcut.length_le
    have htrim := length_trim_le (pieces.flatten ++ last)
    rw [← strip_of_isCut hcut, hsame] at htrim
    omega
  · intro hnot
    have htrimmed : trim (strip reply) = strip reply := by rw [strip_eq, trim_trim]
    rw [strip_eq (strip reply), dropBlocks_of_not_hasBlock hnot, String.ofList_toList, htrimmed]

end Reasoning

/-! ## Answers -/

namespace Act

variable {σ α β : Type} {P : α → Prop} {Q : β → Prop} {act : Act σ α}

theorem Ensures.bind (h : Ensures P act) {f : α → Act σ β} (hf : ∀ a, P a → Ensures Q (f a)) :
    Ensures Q (act >>= f) := by
  intro x b hb
  rw [bind_apply] at hb
  cases hx : (act x).1 with
  | ok a =>
    rw [hx] at hb
    exact hf a (h x a hx) _ b hb
  | error e =>
    rw [hx] at hb
    cases hb

theorem Ensures.reword (h : Ensures P act) (f : Fault → Fault) : Ensures P (act.reword f) := by
  intro x a ha
  rw [reword_apply] at ha
  cases hx : (act x).1 with
  | ok b =>
    rw [hx] at ha
    obtain rfl := Except.ok.inj ha
    exact h x b hx
  | error e =>
    rw [hx] at ha
    cases ha

theorem Ensures.observe (h : Ensures P act) : Ensures (fun r => ∀ a, r = .ok a → P a) act.observe := by
  intro x r hr
  rw [observe_apply] at hr
  obtain rfl := Except.ok.inj hr
  exact h x

end Act

section Answers

open Act

variable {σ : Type} {t : Talk σ} {v : Services σ} {prompt step : String}

/-- The text is the reply of a model to the prompt, stripped of its reasoning. -/
def Talk.Answers (t : Talk σ) (prompt answer : String) : Prop :=
  ∃ x reply, (t.replyTo prompt x).1 = .ok reply ∧ answer = Reasoning.strip reply.content

theorem Talk.ensures_answers (t : Talk σ) (prompt : String) : Ensures (t.Answers prompt) (t.chat prompt) := by
  intro x answer hanswer
  rw [t.chat_fst] at hanswer
  cases hreply : (t.replyTo prompt x).1 with
  | ok reply =>
    rw [hreply] at hanswer
    exact ⟨x, reply, hreply, (Except.ok.inj hanswer).symm⟩
  | error e =>
    rw [hreply] at hanswer
    cases hanswer

theorem Execution.ensures_chatAs (v : Services σ) (t : Talk σ) (previous other : Provider) (step prompt : String) :
    Ensures (t.Answers prompt) (chatAs v t.agent previous other step prompt) := by
  have hanswer := ((t.ensures_answers prompt).reword (agentFault step)).observe
  refine ensures_bind fun _ => ensures_bind fun _ => hanswer.bind fun answer hmust => ensures_bind fun _ => ?_
  intro x text htext
  rw [ofExcept_apply] at htext
  exact hmust text htext

/-- A prompt exports an answer, whichever model is asked. -/
theorem Execution.ensures_aiPrompt (hagent : v.agent = some t.agent) (step prompt : String) (model : Option String) :
    Ensures (fun o => ∃ answer, t.Answers prompt answer ∧ o.exports.get? (step ++ "_response") = some (.text answer))
      (aiPrompt v step prompt model) := by
  have hdone (answer : String) (o : Outcome) (ho : o.exports.get? (step ++ "_response") = some (.text answer))
      (hanswer : t.Answers prompt answer) : Ensures (σ := σ)
        (fun o => ∃ answer, t.Answers prompt answer ∧ o.exports.get? (step ++ "_response") = some (.text answer))
        (pure o) := ensures_return ⟨answer, hanswer, ho⟩
  unfold aiPrompt
  rw [hagent]
  refine ensures_bind fun previous => ?_
  dsimp only
  split_ifs
  · refine ((t.ensures_answers prompt).reword (agentFault step)).bind fun answer hanswer => hdone answer _ ?_ hanswer
    simp [Bindings.get?]
  · refine (ensures_chatAs v t _ _ step prompt).bind fun answer hanswer => hdone answer _ ?_ hanswer
    simp [Bindings.get?]

end Answers

namespace Reasoning

/-- Replies are cut into the pieces that are kept and the blocks between them, and all pieces are kept in order. A block
is left exactly if an opening tag is put together where one was dropped, and only then would more be dropped a second
time. What is stripped in this way is the answer to a prompt, what the history has of it, and what a step exports. -/
theorem block_is_left_iff_tag_is_joined (reply : String) :
    (∃ pieces last, IsCut reply.toList pieces last) ∧
    (∀ pieces last, IsCut reply.toList pieces last →
      strip reply = trim (String.ofList (pieces.flatten ++ last)) ∧
        (HasBlock (strip reply).toList ↔ JoinsTag pieces last) ∧
        (strip (strip reply) = strip reply ↔ ¬ JoinsTag pieces last)) ∧
    ∀ {σ : Type} (t : Talk σ) (prompt : String) (x : σ),
      (t.chat prompt x).1 = (t.replyTo prompt x).1.map (fun reply => strip reply.content) ∧
        (∀ reply, t.KeepsHistory → (t.replyTo prompt x).1 = .ok reply →
          (t.conversation (t.chat prompt x).2).history = Conversation.keepLast
            ((t.conversation x).history ++ [⟨"user", prompt⟩, ⟨"assistant", strip reply.content⟩])) ∧
        ∀ (v : Services σ) (s : Session) (step : Step) (model : Option String) (o : Outcome),
          v.agent = some t.agent → step.task = .aiPrompt prompt model → (Execution.perform v s step x).1 = .ok o →
          ∃ y reply, (t.replyTo prompt y).1 = .ok reply ∧
            o.exports.get? (step.id ++ "_response") = some (.text (strip reply.content)) := by
  refine ⟨exists_isCut _, fun pieces last hcut => ?_, fun t prompt x => ?_⟩
  · refine ⟨strip_of_isCut hcut, hasBlock_strip_iff hcut, ?_⟩
    rw [strip_strip_iff, hasBlock_strip_iff hcut]
  · refine ⟨t.chat_fst prompt x, fun reply hkeeps hreply => by rw [Talk.history_chat hkeeps, hreply]; rfl, ?_⟩
    intro v s step model o hagent htask ho
    rw [Execution.perform, htask] at ho
    obtain ⟨answer, ⟨y, reply, hreply, rfl⟩, hexports⟩ := Execution.ensures_aiPrompt hagent step.id prompt model x o ho
    exact ⟨y, reply, hreply, hexports⟩

/-- The block is dropped from a tag, so that the tag is put together and a block is left. -/
theorem joined_tag_is_left :
    strip "<th<think>x</think>ink>secret</think>" = "<think>secret</think>" ∧
      HasBlock "<think>secret</think>".toList ∧ strip "<think>secret</think>" = "" := by
  refine ⟨by decide +kernel, ⟨[], "secret".toList, [], by decide⟩, by decide +kernel⟩

end Reasoning

end Runbook
