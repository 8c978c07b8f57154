import LLMHub.RelayConvert.ClaudeContent

namespace LLMHub

open Transducer Transducer.Emitter ClaudeConvertInfo ChatCompletionsStreamResponse ClaudeResponse

/-- How a chunk leaves the tool blocks: its tool calls are in them, or it has
none and leaves the blocks as they were, or its text has closed them. -/
inductive BlocksAfter (state : ClaudeConvertInfo) (chunk : ChatCompletionsStreamResponse) (after : ClaudeConvertInfo) : Prop
  | tools (mode : after.lastMessagesType = .tools) (base : after.toolCallBaseIndex = state.toolBase)
      (calls : chunk.toolCalls ≠ [])
  | kept (mode : after.lastMessagesType = state.lastMessagesType) (base : after.toolCallBaseIndex = state.toolCallBaseIndex)
      (blank : ∀ tool, chunk.toolArguments tool = [])
  | left (mode : after.lastMessagesType ≠ .tools) (no : chunk.toolCalls = [])
      (payload : ¬ (chunk.reasoning = [] ∧ chunk.content = []))

/-- The answer to the chunk carries all of it. -/
structure Delivers (state : ClaudeConvertInfo) (chunk : ChatCompletionsStreamResponse)
    (answer : ClaudeConvertInfo × List ClaudeResponse) : Prop where
  carries : Carries answer.2 chunk.content chunk.reasoning state.toolBase fun tool => chunk.toolArguments tool
  placed : BlocksAfter state chunk answer.1

section

variable {state : ClaudeConvertInfo} {chunk : ChatCompletionsStreamResponse}

theorem Delivers.silent {after : ClaudeConvertInfo} (blank : chunk.Blank) (mode : after.lastMessagesType = state.lastMessagesType)
    (base : after.toolCallBaseIndex = state.toolCallBaseIndex) : Delivers state chunk (after, []) := by
  have arguments := toolArguments_of_blank blank.toolCalls
  refine ⟨?_, .kept mode base arguments⟩
  rw [blank.content, blank.reasoning, funext arguments]
  exact Carries.nothing _

/-- Events around the answer that carry nothing change nothing. -/
theorem Delivers.surrounded {answer : ClaudeConvertInfo × List ClaudeResponse} {before later : List ClaudeResponse}
    (delivers : Delivers state chunk answer) (after : ClaudeConvertInfo)
    (mode : after.lastMessagesType = answer.1.lastMessagesType)
    (base : after.toolCallBaseIndex = answer.1.toolCallBaseIndex)
    (mute : Carries before [] [] state.toolBase fun _ => []) (mute' : Carries later [] [] state.toolBase fun _ => []) :
    Delivers state chunk (after, before ++ (answer.2 ++ later)) := by
  obtain ⟨carries, placed⟩ := delivers
  refine ⟨?_, ?_⟩
  · simpa only [List.append_nil, List.nil_append] using mute.append (carries.append mute')
  · cases placed with
    | tools inTools atBase calls => exact .tools (mode.trans inTools) (base.trans atBase) calls
    | kept same sameBase blank => exact .kept (mode.trans same) (base.trans sameBase) blank
    | left other no payload => exact .left (mode ▸ other) no payload

theorem Delivers.ended {answer : ClaudeConvertInfo × List ClaudeResponse} (delivers : Delivers state chunk answer)
    (usage : Option Usage) (stopReason : String) :
    Delivers state chunk (({ answer.1 with done := true } : ClaudeConvertInfo),
      answer.2 ++ (appendStopOpenBlocks.andThen (endMessage usage stopReason) answer.1).2) :=
  delivers.surrounded { answer.1 with done := true } rfl rfl (Carries.nothing _) (carries_endMessage usage stopReason answer.1 _)

theorem forwardChoice_delivers (kind : chunk.OneKind) : Delivers state chunk (forwardChoice chunk.delta state) := by
  rw [forwardChoice_eq]
  by_cases calls : chunk.toolCalls = []
  · have arguments := toolArguments_of_none calls
    rw [if_neg (not_not_intro calls)]
    by_cases thinks : chunk.reasoning = []
    · rw [if_neg (not_not_intro thinks)]
      by_cases speaks : chunk.content = []
      · rw [if_neg (not_not_intro speaks)]
        exact .silent (ChatCompletionsStreamResponse.Empty.blank ⟨calls, thinks, speaks⟩) rfl rfl
      · rw [if_pos speaks]
        refine ⟨?_, .left ?_ calls fun nothing => speaks nothing.2⟩
        · rw [thinks, funext arguments]
          exact (CarriesDelta.text chunk.content).forwardDelta _ _ _
        · rw [forwardText, (forwardDelta_state _ _ _ state).1]
          nofun
    · rw [if_pos thinks]
      refine ⟨?_, .left ?_ calls fun nothing => thinks nothing.1⟩
      · rw [kind.thinking thinks, funext arguments]
        exact (CarriesDelta.thinking chunk.reasoning).forwardDelta _ _ _
      · rw [forwardReasoning, (forwardDelta_state _ _ _ state).1]
        nofun
  · obtain ⟨mode, base⟩ := forwardToolCalls_state chunk.toolCalls state
    obtain ⟨thinks, speaks⟩ := kind.tools calls
    rw [if_pos calls]
    refine ⟨?_, .tools mode base calls⟩
    rw [thinks, speaks]
    exact carries_forwardToolCalls chunk.toolCalls state

/-- A chunk after the first is delivered, unless it awaits its usage with something to send. -/
theorem laterChunk_delivers (kind : chunk.OneKind) (awaited : chunk.isFinished → chunk.usage = none → chunk.Blank) :
    Delivers state chunk (laterChunk chunk state) := by
  have did := laterChunk_cases chunk state
  generalize laterChunk chunk state = answer at did ⊢
  cases did with
  | nothing empty => exact .silent empty.blank rfl rfl
  | usageOnly empty usage stopReason =>
    have delivers : Delivers state chunk (emit [] state) := .silent empty.blank rfl rfl
    exact delivers.ended usage stopReason
  | forwards => exact forwardChoice_delivers kind
  | waits finished noUsage reason => exact .silent (awaited finished noUsage) rfl rfl
  | finishes usage reason stopReason =>
    have delivers : Delivers { state with finishReason := reason } chunk
        (forwardChoice chunk.delta { state with finishReason := reason }) := forwardChoice_delivers kind
    obtain ⟨carries, placed⟩ := delivers.ended usage stopReason
    refine ⟨carries, ?_⟩
    cases placed with
    | tools mode base calls => exact .tools mode base calls
    | kept mode base blank => exact .kept mode base blank
    | left mode no payload => exact .left mode no payload

theorem finishFirstChoice_state (finishReason : Option String) (usage : Option Usage) (state : ClaudeConvertInfo) :
    (finishFirstChoice finishReason usage state).1.lastMessagesType = state.lastMessagesType ∧
      (finishFirstChoice finishReason usage state).1.toolCallBaseIndex = state.toolCallBaseIndex ∧
      ∀ base, Carries (finishFirstChoice finishReason usage state).2 [] [] base fun _ => [] := by
  unfold finishFirstChoice
  cases finishReason with
  | none => exact ⟨rfl, rfl, Carries.nothing⟩
  | some reason =>
    dsimp only
    by_cases blank : reason = ""
    · rw [if_pos blank]
      exact ⟨rfl, rfl, Carries.nothing⟩
    · rw [if_neg blank]
      cases usage.or state.usage with
      | none => exact ⟨rfl, rfl, Carries.nothing⟩
      | some oaiUsage => exact ⟨rfl, rfl, fun base => carries_endMessage _ _ _ base⟩

theorem firstText_delivers (kind : chunk.OneKind) (no : chunk.toolCalls = []) :
    Delivers state chunk (firstText chunk.delta state) := by
  have arguments := toolArguments_of_none no
  rw [firstText_eq]
  by_cases thinks : chunk.reasoning = []
  · rw [if_neg (not_not_intro thinks)]
    by_cases speaks : chunk.content = []
    · rw [if_neg (not_not_intro speaks)]
      exact .silent (ChatCompletionsStreamResponse.Empty.blank ⟨no, thinks, speaks⟩) rfl rfl
    · rw [if_pos speaks]
      refine ⟨?_, .left ?_ no fun nothing => speaks nothing.2⟩
      · rw [thinks, funext arguments]
        exact (CarriesDelta.text chunk.content).startBlock _ _ _
      · rw [(startBlock_state _ _ _ state).1]
        nofun
  · rw [if_pos thinks]
    refine ⟨?_, .left ?_ no fun nothing => thinks nothing.1⟩
    · rw [kind.thinking thinks, funext arguments]
      exact (CarriesDelta.thinking chunk.reasoning).startBlock _ _ _
    · rw [(startBlock_state _ _ _ state).1]
      nofun

/-- The payload of the first chunk is delivered when it has at most the tool call 0. -/
theorem firstPayload_delivers (mode : state.lastMessagesType = .none) (start : state.index = 0) (kind : chunk.OneKind)
    (first : chunk.toolCalls.length ≤ 1 ∧ ∀ toolCall ∈ chunk.toolCalls, toolCall.index.getD 0 = 0) :
    Delivers state chunk (firstPayload chunk.delta state) := by
  rcases list_of_length_le_one first.1 with no | ⟨toolCall, only⟩
  · have none : firstPayload chunk.delta state = firstText chunk.delta state := by
      simp [firstPayload, andThen, show chunk.delta.toolCalls = [] from no]
    rw [none]
    exact firstText_delivers kind no
  · obtain ⟨thinks, speaks⟩ := kind.tools (by simp [only])
    have index := first.2 toolCall (by simp [only])
    have tool : firstPayload chunk.delta state = startToolCall toolCall state := by
      rw [firstPayload, show chunk.delta.toolCalls = [toolCall] from only, firstText_eq, if_neg (not_not_intro thinks),
        if_neg (not_not_intro speaks)]
      simp [andThen]
    have base : state.toolBase = 0 := by simp [toolBase, mode, nextIndex, start]
    rw [tool]
    refine ⟨?_, .tools rfl base.symm (by simp [only])⟩
    have arguments (tool : Int) : chunk.toolArguments tool = if 0 = tool then toolCall.function.arguments else [] := by
      simp [toolArguments, only, toolOffset, index]
    rw [thinks, speaks, base, funext arguments]
    by_cases silent : toolCall.function.arguments = []
    · refine ⟨?_, ?_, fun tool => ?_⟩ <;>
      simp [startToolCall, silent, text, thinking, inputJSON]
    · refine ⟨?_, ?_, fun tool => ?_⟩ <;>
      simp [startToolCall, silent, text, thinking, inputJSON]

theorem firstChunk_delivers (estimatePromptTokens : Int) (mode : state.lastMessagesType = .none) (start : state.index = 0)
    (kind : chunk.OneKind) (first : chunk.toolCalls.length ≤ 1 ∧ ∀ toolCall ∈ chunk.toolCalls, toolCall.index.getD 0 = 0) :
    Delivers state chunk (firstChunk estimatePromptTokens chunk state) := by
  have started (message : ClaudeMessage) : Carries [.messageStart message] [] [] state.toolBase fun _ => [] :=
    ⟨rfl, rfl, fun _ => rfl⟩
  unfold firstChunk
  cases choices : chunk.choices with
  | nil =>
    have silent : Delivers state chunk (state, []) :=
      .silent (empty_of_choices choices).blank rfl rfl
    exact silent.surrounded _ rfl rfl (started _) (Carries.nothing _)
  | cons choice _ =>
    have delta : choice.delta = chunk.delta := by simp [ChatCompletionsStreamResponse.delta, choices]
    have payload := firstPayload_delivers mode start kind first
    obtain ⟨sameMode, sameBase, mute⟩ :=
      finishFirstChoice_state choice.finishReason chunk.usage (firstPayload chunk.delta state).1
    dsimp only [firstChoice]
    rw [delta]
    exact payload.surrounded _ sameMode sameBase (started _) (mute _)

end

/-- Where the tool phase stands when these chunks are to come. -/
inductive Placing (state : ClaudeConvertInfo) (rest : List ChatCompletionsStreamResponse) : Prop
  | none (no : ∀ chunk ∈ rest, chunk.toolCalls = [])
  | before (mode : state.lastMessagesType ≠ .tools) (phase : OneToolPhase rest)
  | inside (mode : state.lastMessagesType = .tools) (phase : WithinToolPhase rest)

namespace Placing

variable {state after : ClaudeConvertInfo} {chunk : ChatCompletionsStreamResponse} {rest : List ChatCompletionsStreamResponse}

/-- Text within the tool phase is behind its last tool call. -/
theorem closed (placing : Placing state (chunk :: rest)) (mode : state.lastMessagesType = .tools) (no : chunk.toolCalls = [])
    (payload : ¬ (chunk.reasoning = [] ∧ chunk.content = [])) : ∀ later ∈ rest, later.toolCalls = [] := by
  cases placing with
  | none absent => exact fun later member => absent later (List.mem_cons_of_mem _ member)
  | before other => exact absurd mode other
  | inside _ phase =>
    rcases phase.tail with ⟨-, nothing⟩ | ⟨-, absent⟩
    · exact absurd (nothing no) payload
    · exact absent

theorem step (placing : Placing state (chunk :: rest)) (placed : BlocksAfter state chunk after) : Placing after rest := by
  cases placing with
  | none absent => exact .none fun later member => absent later (List.mem_cons_of_mem _ member)
  | before other phase =>
    cases placed with
    | tools mode base calls =>
      rcases (phase.enter calls).tail with ⟨within, -⟩ | ⟨-, absent⟩
      · exact .inside mode within
      · exact .none absent
    | kept mode base blank => exact .before (mode ▸ other) phase.tail
    | left mode no payload => exact .before mode phase.tail
  | inside inTools phase =>
    have continues : after.lastMessagesType = .tools → Placing after rest := fun mode => by
      rcases phase.tail with ⟨within, -⟩ | ⟨-, absent⟩
      · exact .inside mode within
      · exact .none absent
    cases placed with
    | tools mode base calls => exact continues mode
    | kept mode base blank => exact continues (mode.trans inTools)
    | left mode no payload => exact .none ((inside inTools phase).closed inTools no payload)

end Placing

namespace Meta

/-- The converter forwards all of the chunk: its payload is of one kind, the
first chunk has at most the tool call 0, a later finish chunk has usage or
nothing to send, and nothing comes once the message has ended. -/
structure Forwards (info : Meta) (chunk : ChatCompletionsStreamResponse) : Prop where
  kind : chunk.OneKind
  first : info.sendResponseCount = 0 → chunk.toolCalls.length ≤ 1 ∧ ∀ toolCall ∈ chunk.toolCalls, toolCall.index.getD 0 = 0
  awaited : info.sendResponseCount ≠ 0 → chunk.isFinished → chunk.usage = none → chunk.Blank
  ended : info.claudeConvertInfo.done → chunk.Blank

/-- Every step of the run forwards its chunk. -/
def ForwardsAll : Meta → List ChatCompletionsStreamResponse → Prop
  | _, [] => True
  | info, chunk :: rest => info.Forwards chunk ∧ (info.convertChunk chunk).1.ForwardsAll rest

instance (info : Meta) (chunk : ChatCompletionsStreamResponse) : Decidable (info.Forwards chunk) :=
  decidable_of_iff (chunk.OneKind ∧
      (info.sendResponseCount = 0 → chunk.toolCalls.length ≤ 1 ∧ ∀ toolCall ∈ chunk.toolCalls, toolCall.index.getD 0 = 0) ∧
      (info.sendResponseCount ≠ 0 → chunk.isFinished → chunk.usage = none → chunk.Blank) ∧
      (info.claudeConvertInfo.done → chunk.Blank))
    ⟨fun ⟨kind, first, awaited, ended⟩ => ⟨kind, first, awaited, ended⟩,
      fun ⟨kind, first, awaited, ended⟩ => ⟨kind, first, awaited, ended⟩⟩

instance decidableForwardsAll : (info : Meta) → (chunks : List ChatCompletionsStreamResponse) →
    Decidable (info.ForwardsAll chunks)
  | _, [] => isTrue trivial
  | info, chunk :: rest =>
    have := decidableForwardsAll (info.convertChunk chunk).1 rest
    inferInstanceAs (Decidable (_ ∧ _))

/-- Before the first chunk no block is open. -/
def Fresh (info : Meta) : Prop :=
  info.sendResponseCount = 0 → info.claudeConvertInfo.lastMessagesType = .none ∧ info.claudeConvertInfo.index = 0

variable {info : Meta} {chunk : ChatCompletionsStreamResponse}

theorem convertChunk_delivers (fresh : info.Fresh) (forwards : info.Forwards chunk) :
    Delivers info.claudeConvertInfo chunk ((info.convertChunk chunk).1.claudeConvertInfo, (info.convertChunk chunk).2) := by
  obtain ⟨kind, first, awaited, ended⟩ := forwards
  unfold convertChunk streamResponseOpenAI2Claude
  dsimp only
  by_cases done : info.claudeConvertInfo.done
  · rw [if_pos done]
    exact .silent (ended done) rfl rfl
  · rw [if_neg done]
    by_cases count : info.sendResponseCount = 0
    · obtain ⟨mode, start⟩ := fresh count
      rw [if_pos (by omega)]
      exact firstChunk_delivers _ mode start kind (first count)
    · rw [if_neg (by omega)]
      exact laterChunk_delivers kind (awaited count)

theorem convertChunk_fresh (info : Meta) (chunk : ChatCompletionsStreamResponse) : (info.convertChunk chunk).1.Fresh :=
  fun none => absurd none (Nat.succ_ne_zero info.sendResponseCount)

/-- All chunks of a run whose steps forward them are carried, and the tool
blocks that are open at its start are the ones that the run goes on with. -/
theorem forEach_carries (chunks : List ChatCompletionsStreamResponse) (info : Meta) (fresh : info.Fresh)
    (placing : Placing info.claudeConvertInfo chunks) (forwards : info.ForwardsAll chunks) :
    ∃ base, (info.claudeConvertInfo.lastMessagesType = .tools → base = info.claudeConvertInfo.toolCallBaseIndex) ∧
      Carries (forEach convertChunk chunks info).2 (chunks.flatMap ChatCompletionsStreamResponse.content)
        (chunks.flatMap reasoning) base
        fun tool => chunks.flatMap (toolArguments tool) := by
  induction chunks generalizing info with
  | nil => exact ⟨_, fun _ => rfl, Carries.nothing _⟩
  | cons chunk rest ih =>
    obtain ⟨carries, placed⟩ := convertChunk_delivers fresh forwards.1
    obtain ⟨base, tied, later⟩ := ih _ (convertChunk_fresh info chunk) (placing.step placed) forwards.2
    cases placed with
    | tools mode atBase calls =>
      -- the tool calls are in the blocks that the rest goes on with
      have same : base = info.claudeConvertInfo.toolBase := (tied mode).trans atBase
      refine ⟨info.claudeConvertInfo.toolBase, fun inTools => if_pos inTools, ?_⟩
      exact carries.append (same ▸ later)
    | kept mode sameBase blank =>
      rw [funext blank] at carries
      refine ⟨base, fun inTools => (tied (mode.trans inTools)).trans sameBase, ?_⟩
      have all := (carries.rebase base).append later
      simpa only [forEach_cons_snd, List.flatMap_cons, blank] using all
    | left mode no payload =>
      have blank := toolArguments_of_none no
      rw [funext blank] at carries
      by_cases inTools : info.claudeConvertInfo.lastMessagesType = .tools
      · -- the phase is over, so that nothing of the rest goes to a tool block
        have absent := placing.closed inTools no payload
        have none (tool : Int) : rest.flatMap (toolArguments tool) = [] :=
          List.flatMap_eq_nil_iff.mpr fun later member =>
            toolArguments_of_none (absent later member) tool
        rw [funext none] at later
        refine ⟨_, fun _ => rfl, ?_⟩
        have all := (carries.rebase info.claudeConvertInfo.toolCallBaseIndex).append (later.rebase _)
        simpa only [forEach_cons_snd, List.flatMap_cons, blank, none] using all
      · refine ⟨base, fun other => absurd other inTools, ?_⟩
        have all := (carries.rebase base).append later
        simpa only [forEach_cons_snd, List.flatMap_cons, blank] using all

/-- The whole stream carries the text, the reasoning and, tool block by tool
block, the arguments of all chunks. -/
theorem claudeEvents_carry (estimatePromptTokens : Int) (usage : Option Usage)
    (chunks : List ChatCompletionsStreamResponse) (phase : OneToolPhase chunks)
    (forwards : ForwardsAll { estimatePromptTokens, claudeConvertInfo := { usage } } chunks) :
    ∃ base, Carries (claudeEvents { estimatePromptTokens, claudeConvertInfo := { usage } } chunks)
      (chunks.flatMap ChatCompletionsStreamResponse.content) (chunks.flatMap reasoning) base
      fun tool => chunks.flatMap (toolArguments tool) := by
  have placing : Placing { usage } chunks := .before nofun phase
  obtain ⟨base, -, carries⟩ := forEach_carries chunks _ (fun _ => ⟨rfl, rfl⟩) placing forwards
  refine ⟨base, ?_⟩
  have ending (info : Meta) : Carries info.finalize.2 [] [] base fun _ => [] := by
    unfold finalize finalizeStreamResponseOpenAI2Claude
    dsimp only
    split
    · exact Carries.nothing base
    · exact carries_endMessage _ _ _ base
  have all := carries.append
    (ending (forEach convertChunk chunks { estimatePromptTokens, claudeConvertInfo := { usage } }).1)
  simpa only [claudeEvents, andThen_snd, List.append_nil] using all

/-- Text, then two tools, the second with its last arguments in a finish chunk that has usage. -/
def finishWithUsage : List ChatCompletionsStreamResponse :=
  [.single { role := "assistant" }, .single { content := some [104, 105] }, .single (toolFragment 0 "call_a" "search" [123, 125]),
    .single (toolFragment 1 "call_b" "fetch" [123]), .single (toolFragment 1 "" "" [125]) (some "tool_calls") (some {})]

theorem finishWithUsage_carried :
    ∃ base, Carries (claudeEvents { estimatePromptTokens := 7, claudeConvertInfo := { usage := none } } finishWithUsage)
      (finishWithUsage.flatMap ChatCompletionsStreamResponse.content)
      (finishWithUsage.flatMap reasoning) base
      fun tool => finishWithUsage.flatMap (toolArguments tool) :=
  claudeEvents_carry 7 none finishWithUsage
    ⟨[.single { role := "assistant" }, .single { content := some [104, 105] }],
      [.single (toolFragment 0 "call_a" "search" [123, 125]), .single (toolFragment 1 "call_b" "fetch" [123]),
        .single (toolFragment 1 "" "" [125]) (some "tool_calls") (some {})], [], rfl, by decide, by decide, by decide⟩
    (by decide)

/-- The last piece of text comes with the finish reason, and the usage after it. -/
def finishBeforeUsage : List ChatCompletionsStreamResponse :=
  [.single { role := "assistant" }, .single { content := some [104] }, .single { content := some [105] } (some "stop"),
    { usage := some {} }]

theorem finishBeforeUsage_lost :
    OneToolPhase finishBeforeUsage ∧
      (claudeEvents {} finishBeforeUsage).flatMap text = [104] ∧
      ¬ ∃ base, Carries (claudeEvents {} finishBeforeUsage)
        (finishBeforeUsage.flatMap ChatCompletionsStreamResponse.content)
        (finishBeforeUsage.flatMap reasoning) base
        fun tool => finishBeforeUsage.flatMap (toolArguments tool) := by
  refine ⟨⟨finishBeforeUsage, [], [], rfl, by decide, by decide, by decide⟩, by decide, ?_⟩
  rintro ⟨base, carries⟩
  exact absurd carries.text (by decide)

end Meta

end LLMHub
