import LLMHub.RelayConvert.ClaudeReader

namespace LLMHub

open Transducer Transducer.Emitter ChatCompletionsStreamResponse

namespace ClaudeConvertInfo

variable {state : ClaudeConvertInfo} {toolCall : ToolCallResponse}

theorem reader_of_tools (mode : state.lastMessagesType = .tools) (running : state.done = false) :
    state.reader = .message (state.toolCallBaseIndex + state.toolCallMaxIndexOffset + 1)
      ((List.range (state.toolCallMaxIndexOffset + 1).toNat).map fun offset : Nat =>
        (state.toolCallBaseIndex + offset, .toolUse)) := by
  rw [reader_of_not_done running]
  simp only [nextIndex, openBlocks, mode]

theorem toolOffset_zero (toolCall : ToolCallResponse) : toolOffset toolCall 0 = toolCall.index.getD 0 := rfl

/-- A fragment with a name starts the next block. -/
theorem read_toolCallEvents_start {base next : Int} {opened : List (Int × BlockKind)} (named : toolCall.function.name ≠ "")
    (index : base + toolOffset toolCall 0 = next) :
    (toolCallEvents base toolCall 0).foldlM ClaudeReader.read (.message next opened) =
      some (.message (next + 1) (opened ++ [(next, .toolUse)])) := by
  dsimp only [toolCallEvents]
  rw [if_neg named, index]
  by_cases silent : toolCall.function.arguments = []
  · simp [silent, ClaudeReader.read, ContentBlock.kind]
  · simp [silent, ClaudeReader.read, ContentBlock.kind, BlockDelta.kind]

/-- A fragment without a name belongs to an open block. -/
theorem read_toolCallEvents_delta {base next : Int} {opened : List (Int × BlockKind)} (unnamed : toolCall.function.name = "")
    (member : (base + toolOffset toolCall 0, BlockKind.toolUse) ∈ opened) :
    (toolCallEvents base toolCall 0).foldlM ClaudeReader.read (.message next opened) = some (.message next opened) := by
  dsimp only [toolCallEvents]
  rw [if_pos unnamed]
  by_cases silent : toolCall.function.arguments = []
  · simp [silent]
  · simp [silent, ClaudeReader.read, BlockDelta.kind, member]

theorem placeToolCalls_single (toolCall : ToolCallResponse) (state : ClaudeConvertInfo) :
    placeToolCalls [toolCall] state =
      ({ state with
          lastMessagesType := .tools
          toolCallMaxIndexOffset := max state.toolCallMaxIndexOffset (toolOffset toolCall 0)
          index := state.toolCallBaseIndex + max state.toolCallMaxIndexOffset (toolOffset toolCall 0) },
        toolCallEvents state.toolCallBaseIndex toolCall 0) := by
  simp [placeToolCalls]

/-- The fragment joins the tool blocks: it introduces the next tool, or it
belongs to one that is open. -/
structure Joins (state : ClaudeConvertInfo) (toolCall : ToolCallResponse) (maxOffset : Int) : Prop where
  reads : Read (forwardToolCalls [toolCall]) state
  mode : (forwardToolCalls [toolCall] state).1.lastMessagesType = .tools
  running : (forwardToolCalls [toolCall] state).1.done = false
  offset : (forwardToolCalls [toolCall] state).1.toolCallMaxIndexOffset = maxOffset

theorem Joins.of_read {after : ClaudeConvertInfo} {events : List ClaudeResponse}
    (result : forwardToolCalls [toolCall] state = (after, events)) (mode : after.lastMessagesType = .tools)
    (running : after.done = false)
    (reads : events.foldlM ClaudeReader.read state.reader =
      some (.message (after.toolCallBaseIndex + after.toolCallMaxIndexOffset + 1)
        ((List.range (after.toolCallMaxIndexOffset + 1).toNat).map fun offset : Nat =>
          (after.toolCallBaseIndex + offset, .toolUse)))) :
    Joins state toolCall after.toolCallMaxIndexOffset := by
  refine ⟨?_, by rw [result]; exact mode, by rw [result]; exact running, by rw [result]⟩
  unfold Read
  rw [result, reads, reader_of_tools mode running]

theorem joins_first (running : state.done = false) (mode : state.lastMessagesType ≠ .tools)
    (named : toolCall.function.name ≠ "") (first : toolOffset toolCall 0 = 0) : Joins state toolCall 0 := by
  obtain ⟨closedMode, index, done⟩ := stopOpenBlocksAndAdvance_state state
  have reads := read_stopOpenBlocksAndAdvance running
  obtain ⟨closed, is⟩ : ∃ closed, closed = stopOpenBlocksAndAdvance state := ⟨_, rfl⟩
  have entered : enterTools state =
      ({ closed.1 with toolCallBaseIndex := closed.1.index, toolCallMaxIndexOffset := 0 }, closed.2) := by
    rw [is]
    simp [enterTools, unlessType_other _ mode, andThen]
  unfold Read at reads
  rw [← is] at closedMode index done reads
  have result : forwardToolCalls [toolCall] state =
      ({ closed.1 with
          lastMessagesType := .tools
          toolCallBaseIndex := closed.1.index
          toolCallMaxIndexOffset := 0
          index := closed.1.index }, closed.2 ++ toolCallEvents closed.1.index toolCall 0) := by
    simp [forwardToolCalls, andThen, entered, placeToolCalls_single, first]
  refine Joins.of_read result rfl (done.trans running) ?_
  rw [List.foldlM_append, reads, reader_of_none closedMode (done.trans running)]
  exact (read_toolCallEvents_start named (by omega)).trans (by simp)

/-- Inside the tool phase no block is closed. -/
theorem forwardToolCalls_of_tools (mode : state.lastMessagesType = .tools) (toolCall : ToolCallResponse) :
    forwardToolCalls [toolCall] state =
      ({ state with
          lastMessagesType := .tools
          toolCallMaxIndexOffset := max state.toolCallMaxIndexOffset (toolOffset toolCall 0)
          index := state.toolCallBaseIndex + max state.toolCallMaxIndexOffset (toolOffset toolCall 0) },
        toolCallEvents state.toolCallBaseIndex toolCall 0) := by
  simp [forwardToolCalls, andThen, enterTools, unlessType_same _ mode, placeToolCalls_single]

theorem joins_next (running : state.done = false) (mode : state.lastMessagesType = .tools)
    (nonneg : 0 ≤ state.toolCallMaxIndexOffset) (named : toolCall.function.name ≠ "")
    (next : toolOffset toolCall 0 = state.toolCallMaxIndexOffset + 1) :
    Joins state toolCall (state.toolCallMaxIndexOffset + 1) := by
  have result := forwardToolCalls_of_tools mode toolCall
  rw [next, Int.max_eq_right (by omega)] at result
  have blocks : (state.toolCallMaxIndexOffset + 1 + 1).toNat = (state.toolCallMaxIndexOffset + 1).toNat + 1 := by omega
  refine Joins.of_read result rfl running ?_
  rw [reader_of_tools mode running]
  refine (read_toolCallEvents_start named (by omega)).trans ?_
  rw [blocks, List.range_succ, List.map_append]
  simp [Int.toNat_of_nonneg (by omega : 0 ≤ state.toolCallMaxIndexOffset + 1), Int.add_assoc]

theorem joins_open (running : state.done = false) (mode : state.lastMessagesType = .tools)
    (unnamed : toolCall.function.name = "") (nonneg : 0 ≤ toolOffset toolCall 0)
    (within : toolOffset toolCall 0 ≤ state.toolCallMaxIndexOffset) :
    Joins state toolCall state.toolCallMaxIndexOffset := by
  have result := forwardToolCalls_of_tools mode toolCall
  rw [Int.max_eq_left within] at result
  have member : (state.toolCallBaseIndex + toolOffset toolCall 0, BlockKind.toolUse) ∈
      (List.range (state.toolCallMaxIndexOffset + 1).toNat).map fun offset : Nat =>
        (state.toolCallBaseIndex + (offset : Int), BlockKind.toolUse) :=
    List.mem_map.mpr ⟨(toolOffset toolCall 0).toNat, List.mem_range.mpr (by omega), by simp [Int.toNat_of_nonneg nonneg]⟩
  have joined := Joins.of_read result rfl running (by
    rw [reader_of_tools mode running]
    exact read_toolCallEvents_delta unnamed member)
  exact joined

end ClaudeConvertInfo

open ClaudeConvertInfo

variable {chunk : ChatCompletionsStreamResponse} {rest : List ChatCompletionsStreamResponse}

/-- The tool calls to come fit what the converter has sent: there are none,
or the first tool is still to come, or the tools that were introduced are open. -/
inductive ToolsToCome (state : ClaudeConvertInfo) (rest : List ChatCompletionsStreamResponse) : Prop
  | none (no : ∀ chunk ∈ rest, chunk.toolCalls = [])
  | before (mode : state.lastMessagesType ≠ .tools) (phase : OneToolPhase rest)
      (order : IntroducedInOrder 0 (rest.flatMap toolCalls))
  | inside (mode : state.lastMessagesType = .tools) (nonneg : 0 ≤ state.toolCallMaxIndexOffset) (phase : WithinToolPhase rest)
      (order : IntroducedInOrder (state.toolCallMaxIndexOffset + 1).toNat
        (rest.flatMap toolCalls))

namespace ToolsToCome

variable {state after : ClaudeConvertInfo} {toolCall : ToolCallResponse}

theorem transport (come : ToolsToCome state rest) (mode : after.lastMessagesType = state.lastMessagesType)
    (offset : after.toolCallMaxIndexOffset = state.toolCallMaxIndexOffset) : ToolsToCome after rest := by
  cases come with
  | none absent => exact .none absent
  | before other phase order => exact .before (mode ▸ other) phase order
  | inside tools nonneg phase order => exact .inside (mode.trans tools) (offset ▸ nonneg) phase (offset ▸ order)

/-- A chunk without tool calls that leaves the open blocks as they are. -/
theorem skip (come : ToolsToCome state (chunk :: rest)) (no : chunk.toolCalls = [])
    (mode : after.lastMessagesType = state.lastMessagesType)
    (offset : after.toolCallMaxIndexOffset = state.toolCallMaxIndexOffset) : ToolsToCome after rest := by
  cases come with
  | none absent => exact .none fun later member => absent later (List.mem_cons_of_mem _ member)
  | before other phase order =>
    rw [List.flatMap_cons, no] at order
    exact .before (mode ▸ other) phase.tail order
  | inside tools nonneg phase order =>
    rw [List.flatMap_cons, no] at order
    rcases phase.tail with ⟨within, -⟩ | ⟨-, absent⟩
    · exact .inside (mode.trans tools) (offset ▸ nonneg) within (offset ▸ order)
    · exact .none absent

/-- A chunk whose reasoning or content closes the tool blocks. -/
theorem leave (come : ToolsToCome state (chunk :: rest)) (no : chunk.toolCalls = [])
    (payload : ¬ (chunk.reasoning = [] ∧ chunk.content = [])) (mode : after.lastMessagesType ≠ .tools) :
    ToolsToCome after rest := by
  cases come with
  | none absent => exact .none fun later member => absent later (List.mem_cons_of_mem _ member)
  | before other phase order =>
    rw [List.flatMap_cons, no] at order
    exact .before mode phase.tail order
  | inside tools nonneg phase order =>
    rcases phase.tail with ⟨-, nothing⟩ | ⟨-, absent⟩
    · exact absurd (nothing no) payload
    · exact .none absent

theorem within (phase : WithinToolPhase (chunk :: rest)) (tools : chunk.toolCalls ≠ []) : WithinToolPhase rest := by
  rcases phase.tail with ⟨within, -⟩ | ⟨no, -⟩
  · exact within
  · exact absurd no tools

/-- The first fragment introduces tool 0. -/
theorem first (phase : OneToolPhase (chunk :: rest)) (single : chunk.toolCalls = [toolCall])
    (order : IntroducedInOrder 0 ((chunk :: rest).flatMap toolCalls)) :
    toolOffset toolCall 0 = 0 ∧ toolCall.function.name ≠ "" ∧
      ∀ after : ClaudeConvertInfo, after.lastMessagesType = .tools → after.toolCallMaxIndexOffset = 0 →
        ToolsToCome after rest := by
  have tools : chunk.toolCalls ≠ [] := by simp [single]
  rw [List.flatMap_cons, single] at order
  rcases order with ⟨first, named, order⟩ | ⟨nonneg, below, -, -⟩
  · refine ⟨first, named, fun after mode offset => ?_⟩
    exact .inside mode (by omega) (within (phase.enter tools) tools) (by simpa [offset] using order)
  · omega

/-- A fragment joins the tool blocks, and the rest fits the blocks then open. -/
theorem join (come : ToolsToCome state (chunk :: rest)) (single : chunk.toolCalls = [toolCall])
    (running : state.done = false) :
    ∃ maxOffset, Joins state toolCall maxOffset ∧
      ∀ after : ClaudeConvertInfo, after.lastMessagesType = .tools → after.toolCallMaxIndexOffset = maxOffset →
        ToolsToCome after rest := by
  have tools : chunk.toolCalls ≠ [] := by simp [single]
  cases come with
  | none absent => exact absurd (absent chunk List.mem_cons_self) tools
  | before mode phase order =>
    obtain ⟨first, named, fits⟩ := first phase single order
    exact ⟨0, joins_first running mode named first, fits⟩
  | inside mode nonneg phase order =>
    rw [List.flatMap_cons, single] at order
    rcases order with ⟨next, named, order⟩ | ⟨nonneg', below, unnamed, order⟩
    · refine ⟨_, joins_next running mode nonneg named (by rw [toolOffset_zero]; omega), fun after tools' offset => ?_⟩
      refine .inside tools' (by omega) (within phase tools) ?_
      have same : (after.toolCallMaxIndexOffset + 1).toNat = (state.toolCallMaxIndexOffset + 1).toNat + 1 := by omega
      rw [same]
      exact order
    · refine ⟨_, joins_open running mode unnamed nonneg' (by rw [toolOffset_zero]; omega), fun after tools' offset => ?_⟩
      exact .inside tools' (by omega) (within phase tools) (offset ▸ order)

/-- A fragment that the converter drops is harmless when it introduces no
tool, or when no tool call follows it. -/
theorem drop (come : ToolsToCome state (chunk :: rest)) (single : chunk.toolCalls = [toolCall])
    (kept : toolCall.function.name ≠ "" → ∀ later ∈ rest, later.toolCalls = [])
    (mode : after.lastMessagesType = state.lastMessagesType)
    (offset : after.toolCallMaxIndexOffset = state.toolCallMaxIndexOffset) : ToolsToCome after rest := by
  by_cases named : toolCall.function.name = ""
  · cases come with
    | none absent => exact .none fun later member => absent later (List.mem_cons_of_mem _ member)
    | before other phase order =>
      rw [List.flatMap_cons, single] at order
      rcases order with ⟨-, introduced, -⟩ | ⟨nonneg, below, -, -⟩
      · exact absurd named introduced
      · omega
    | inside tools nonneg phase order =>
      rw [List.flatMap_cons, single] at order
      rcases order with ⟨-, introduced, -⟩ | ⟨-, -, -, order⟩
      · exact absurd named introduced
      · exact .inside (mode.trans tools) (offset ▸ nonneg) (within phase (by simp [single])) (offset ▸ order)
  · exact .none (kept named)

end ToolsToCome

/-- A finish chunk without usage does not introduce a tool whose phase goes on. -/
def IntroductionsKept : List ChatCompletionsStreamResponse → Prop
  | [] => True
  | chunk :: rest =>
    (chunk.isFinished → chunk.usage = none → (∃ toolCall ∈ chunk.toolCalls, toolCall.function.name ≠ "") →
      ∀ later ∈ rest, later.toolCalls = []) ∧ IntroductionsKept rest

namespace ClaudeConvertInfo

variable {state : ClaudeConvertInfo}

/-- What a chunk after the first forwards is read, and the rest fits. -/
theorem read_forwardChoice (come : ToolsToCome state (chunk :: rest)) (running : state.done = false)
    (single : chunk.toolCalls.length ≤ 1) :
    Read (forwardChoice chunk.delta) state ∧ (forwardChoice chunk.delta state).1.done = false ∧
      ToolsToCome (forwardChoice chunk.delta state).1 rest := by
  rcases list_of_length_le_one single with no | ⟨toolCall, only⟩
  · rw [forwardChoice_eq, if_neg (not_not_intro no)]
    by_cases thinks : chunk.reasoning = []
    · rw [if_neg (not_not_intro thinks)]
      by_cases speaks : chunk.content = []
      · rw [if_neg (not_not_intro speaks)]
        exact ⟨rfl, running, come.skip no rfl rfl⟩
      · rw [if_pos speaks]
        obtain ⟨mode, done⟩ := forwardDelta_state .text .text (.text chunk.content) state
        exact ⟨Streams.text.forwardDelta rfl running, done.trans running,
          come.leave no (fun nothing => speaks nothing.2) (by rw [forwardText]; exact mode ▸ nofun)⟩
    · rw [if_pos thinks]
      obtain ⟨mode, done⟩ := forwardDelta_state .thinking .thinking (.thinking chunk.reasoning) state
      exact ⟨Streams.thinking.forwardDelta rfl running, done.trans running,
        come.leave no (fun nothing => thinks nothing.1) (by rw [forwardReasoning]; exact mode ▸ nofun)⟩
  · obtain ⟨maxOffset, joins, fits⟩ := come.join only running
    have forwards : forwardChoice chunk.delta = forwardToolCalls [toolCall] := by
      rw [forwardChoice_eq, only, if_pos (List.cons_ne_nil _ _)]
    rw [forwards]
    exact ⟨joins.reads, joins.running, fits _ joins.mode joins.offset⟩

/-- A chunk after the first is read, and what follows still fits. -/
theorem read_laterChunk (running : state.done = false) (single : chunk.toolCalls.length ≤ 1)
    (kept : IntroductionsKept (chunk :: rest)) (come : ToolsToCome state (chunk :: rest)) :
    (laterChunk chunk state).2.foldlM ClaudeReader.read state.reader = some (laterChunk chunk state).1.reader ∧
      ((laterChunk chunk state).1.done = false → ToolsToCome (laterChunk chunk state).1 rest) := by
  have did := laterChunk_cases chunk state
  generalize laterChunk chunk state = answer at did ⊢
  cases did with
  | nothing empty => exact ⟨rfl, fun _ => come.skip empty.toolCalls rfl rfl⟩
  | usageOnly empty usage stopReason => exact ⟨read_endMessage usage stopReason running, nofun⟩
  | forwards =>
    obtain ⟨reads, -, fits⟩ := read_forwardChoice come running single
    exact ⟨reads, fun _ => fits⟩
  | waits finished noUsage reason =>
    refine ⟨rfl, fun _ => ?_⟩
    rcases list_of_length_le_one single with no | ⟨toolCall, only⟩
    · exact come.skip no rfl rfl
    · exact come.drop only (fun named => kept.1 finished noUsage ⟨toolCall, by simp [only], named⟩) rfl rfl
  | finishes usage reason stopReason =>
    have moved : ToolsToCome { state with finishReason := reason } (chunk :: rest) := come.transport rfl rfl
    obtain ⟨reads, running', -⟩ := read_forwardChoice moved running single
    exact ⟨reads.andThen (read_endMessage usage stopReason running'), nofun⟩

/-- The first tool call of the first chunk gets block 0. -/
theorem read_startToolCall (toolCall : ToolCallResponse) (running : state.done = false) (mode : state.lastMessagesType = .none)
    (start : state.index = 0) : Read (startToolCall toolCall) state := by
  have after : (startToolCall toolCall state).1.reader = .message 1 [(0, .toolUse)] := by
    simp only [startToolCall, reader, running, nextIndex, openBlocks]
    rfl
  unfold Read
  rw [after, reader_of_none mode running, start]
  by_cases silent : toolCall.function.arguments = []
  · simp [startToolCall, silent, ClaudeReader.read, ContentBlock.kind]
  · simp [startToolCall, silent, ClaudeReader.read, ContentBlock.kind, BlockDelta.kind]

theorem read_finishFirstChoice (finishReason : Option String) (usage : Option Usage) (running : state.done = false) :
    Read (finishFirstChoice finishReason usage) state ∧
      ((finishFirstChoice finishReason usage state).1.done = false →
        (finishFirstChoice finishReason usage state).1.lastMessagesType = state.lastMessagesType ∧
          (finishFirstChoice finishReason usage state).1.toolCallMaxIndexOffset = state.toolCallMaxIndexOffset) := by
  unfold Read finishFirstChoice
  cases finishReason with
  | none => exact ⟨rfl, fun _ => ⟨rfl, rfl⟩⟩
  | some reason =>
    dsimp only
    by_cases blank : reason = ""
    · rw [if_pos blank]
      exact ⟨rfl, fun _ => ⟨rfl, rfl⟩⟩
    · rw [if_neg blank]
      cases usage.or state.usage with
      | none => exact ⟨rfl, fun _ => ⟨rfl, rfl⟩⟩
      | some oaiUsage =>
        have ends : Read (appendStopOpenBlocks.andThen (endMessage (some oaiUsage) (stopReasonOpenAI2Claude reason)))
            { state with finishReason := reason } := read_endMessage _ _ running
        exact ⟨ends, nofun⟩

/-- The payload of the first chunk is read, and what follows fits. -/
theorem read_firstPayload (running : state.done = false) (mode : state.lastMessagesType = .none) (start : state.index = 0)
    (kind : chunk.OneKind) (single : chunk.toolCalls.length ≤ 1) (phase : OneToolPhase (chunk :: rest))
    (order : IntroducedInOrder 0 ((chunk :: rest).flatMap toolCalls)) :
    Read (firstPayload chunk.delta) state ∧ (firstPayload chunk.delta state).1.done = false ∧
      ToolsToCome (firstPayload chunk.delta state).1 rest := by
  have come : ToolsToCome state (chunk :: rest) := .before (by rw [mode]; nofun) phase order
  rcases list_of_length_le_one single with no | ⟨toolCall, only⟩
  · have none : firstPayload chunk.delta state = firstText chunk.delta state := by
      simp [firstPayload, andThen, show chunk.delta.toolCalls = [] from no]
    unfold Read
    rw [none]
    by_cases thinks : chunk.reasoning = []
    · by_cases speaks : chunk.content = []
      · have nothing : firstText chunk.delta = emit [] := by
          rw [firstText_eq, if_neg (not_not_intro thinks), if_neg (not_not_intro speaks)]
        rw [nothing]
        exact ⟨rfl, running, come.skip no rfl rfl⟩
      · have text : firstText chunk.delta = startBlock .text .text (.text chunk.content) := by
          rw [firstText_eq, if_neg (not_not_intro thinks), if_pos speaks]
        rw [text]
        obtain ⟨type, done⟩ := startBlock_state .text .text (.text chunk.content) state
        exact ⟨Streams.text.startBlock rfl (by rw [mode]; nofun) running, done.trans running,
          come.leave no (fun nothing => speaks nothing.2) (type ▸ nofun)⟩
    · have thinking : firstText chunk.delta = startBlock .thinking .thinking (.thinking chunk.reasoning) := by
        rw [firstText_eq, if_pos thinks]
      rw [thinking]
      obtain ⟨type, done⟩ := startBlock_state .thinking .thinking (.thinking chunk.reasoning) state
      exact ⟨Streams.thinking.startBlock rfl (by rw [mode]; nofun) running, done.trans running,
        come.leave no (fun nothing => thinks nothing.1) (type ▸ nofun)⟩
  · obtain ⟨-, -, fits⟩ := ToolsToCome.first phase only order
    obtain ⟨thinks, speaks⟩ := kind.tools (by simp [only])
    have tool : firstPayload chunk.delta = (startToolCall toolCall).andThen (emit []) := by
      rw [firstPayload, show chunk.delta.toolCalls = [toolCall] from only, firstText_eq, if_neg (not_not_intro thinks),
        if_neg (not_not_intro speaks)]
    rw [tool]
    exact ⟨(read_startToolCall toolCall running mode start).andThen rfl, running, fits _ rfl rfl⟩

end ClaudeConvertInfo

end LLMHub
