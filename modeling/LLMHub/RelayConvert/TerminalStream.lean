import Mathlib.Data.List.Dedup
import LLMHub.RelayConvert.ResponsesToChat

namespace LLMHub

open Go ChatCompletionsStreamResponseChoiceDelta

namespace ResponsesOutput

/-- The fragment a function call is sent in, as the call of the given number. -/
def callDelta (out : ResponsesOutput) (index : Nat) : ToolCallResponse :=
  { index := some index, id := trimSpace out.callId, function := { name := trimSpace out.name, arguments := out.arguments } }

/-- The fragments of the function calls among the items, numbered from `index`. -/
def callDeltas (index : Nat) : List ResponsesOutput → List ToolCallResponse
  | [] => []
  | out :: rest =>
    if out.type = "function_call" then out.callDelta index :: callDeltas (index + 1) rest else callDeltas index rest

def messageTexts (outputs : List ResponsesOutput) : List Bytes :=
  (outputs.filter fun out => out.type = "message").map messageText

def reasoningTexts (outputs : List ResponsesOutput) : List Bytes :=
  (outputs.filter fun out => out.type = "reasoning").map allText

end ResponsesOutput

open ResponsesOutput (callDelta callDeltas messageTexts reasoningTexts)

/-- A response of messages of the assistant, reasoning and function calls. Calls have an
item id, a call id and a name, and their ids differ. -/
structure TerminalResponse where
  response : OpenAIResponsesResponse
  kinds : ∀ out ∈ response.output, out.type = "message" ∨ out.type = "reasoning" ∨ out.type = "function_call"
  spoken : ∀ out ∈ response.output, out.type = "message" → out.role = "" ∨ out.role = "assistant"
  identified : ∀ out ∈ response.output, out.type = "function_call" →
    trimSpace out.id ≠ "" ∧ trimSpace out.callId ≠ "" ∧ trimSpace out.name ≠ ""
  ids : ((response.output.filter fun out => out.type = "function_call").map fun out => trimSpace out.id).Nodup
  callIds : ((response.output.filter fun out => out.type = "function_call").map fun out => trimSpace out.callId).Nodup

def firstFilled (texts : List Bytes) : Bytes := (texts.find? (· ≠ [])).getD []

theorem modify_of_fixed {α : Type} {f : α → α} (fixed : ∀ x, f x = x) (i : Nat) (items : List α) :
    items.modify i f = items := by
  rw [show f = id from funext fixed, List.modify_id]

theorem firstFilled_cons (text : Bytes) (rest : List Bytes) :
    firstFilled (text :: rest) = if text = [] then firstFilled rest else text := by
  by_cases empty : text = []
  · simp [firstFilled, empty]
  · simp [firstFilled, empty]

theorem firstFilled_eq_flatten_iff (texts : List Bytes) :
    firstFilled texts = texts.flatten ↔ (texts.filter (· ≠ [])).length ≤ 1 := by
  induction texts with
  | nil => simp [firstFilled]
  | cons text rest ih =>
    by_cases empty : text = []
    · simpa [firstFilled, empty] using ih
    · simp [firstFilled, empty]

namespace ResponsesToChatStreamState

theorem applyResponseMetadata_eq (s : ResponsesToChatStreamState) (response : Option OpenAIResponsesResponse) :
    ∃ id model created, s.applyResponseMetadata response = { s with id := id, model := model, created := created } := by
  cases response <;> exact ⟨_, _, _, rfl⟩

/-- A started stream in which nothing is left to be sent. -/
structure Settled (s : ResponsesToChatStreamState) : Prop where
  started : s.sentStart = true
  unbroken : s.needsReasoningSummaryBreak = false
  outputIndexes : s.pendingArgsByOutputIndex = []
  itemIds : s.pendingArgsByItemId = []
  silent : ∀ tool ∈ s.tools, tool.sent = true ∧ tool.arguments.length ≤ tool.argsSentAt ∧ (tool.name = "" ∨ tool.nameSent = true)
  placed : ∀ entry ∈ s.toolByKey, entry.2 < s.tools.length

/-- A call that is not known by any of its ids. -/
structure Fresh (s : ResponsesToChatStreamState) (out : ResponsesOutput) : Prop where
  key : s.toolByKey.lookup ("item:" ++ trimSpace out.id) = none
  item : s.itemIdToKey.lookup (trimSpace out.id) = none
  call : s.callIdToKey.lookup (trimSpace out.callId) = none

variable {s : ResponsesToChatStreamState} {out : ResponsesOutput}

/-- The tool of a function call, once it is sent. -/
def sentTool (out : ResponsesOutput) : ResponsesStreamTool :=
  { key := "item:" ++ trimSpace out.id, callId := trimSpace out.callId, itemId := trimSpace out.id,
    name := trimSpace out.name, arguments := out.arguments, sent := true, nameSent := true,
    argsSentAt := out.arguments.length }

/-- What the item of a new call changes. -/
def withCall (s : ResponsesToChatStreamState) (out : ResponsesOutput) : ResponsesToChatStreamState :=
  { s with
    sawToolCall := true
    tools := s.tools ++ [sentTool out]
    toolByKey := put s.toolByKey ("item:" ++ trimSpace out.id) s.tools.length
    itemIdToKey := put s.itemIdToKey (trimSpace out.id) ("item:" ++ trimSpace out.id)
    callIdToKey := put s.callIdToKey (trimSpace out.callId) ("item:" ++ trimSpace out.id) }

/-- The item of a new call is sent whole. -/
theorem toolItem_fresh (settled : s.Settled) (fresh : s.Fresh out) (id : trimSpace out.id ≠ "")
    (callId : trimSpace out.callId ≠ "") (name : trimSpace out.name ≠ "") :
    s.toolItem { item := some out } out =
      ([s.makeChunk { toolCalls := [out.callDelta s.tools.length] } none], s.withCall out) := by
  have key : keyForEvent { item := some out } = "item:" ++ trimSpace out.id := by simp [keyForEvent, id]
  have itemId : responseStreamEventItemID { item := some out } = trimSpace out.id := by
    simp [responseStreamEventItemID, id]
  have found : s.toolForKey ("item:" ++ trimSpace out.id) (trimSpace out.id) (trimSpace out.callId) =
      s.newTool ("item:" ++ trimSpace out.id) "" := by
    simp [toolForKey, fresh.key, fresh.item, fresh.call]
  have ensured : s.ensureToolForEvent { item := some out } out =
      (some s.tools.length, { s with
        tools := s.tools ++ [{ key := "item:" ++ trimSpace out.id, callId := trimSpace out.callId,
                               itemId := trimSpace out.id, name := trimSpace out.name }]
        toolByKey := put s.toolByKey ("item:" ++ trimSpace out.id) s.tools.length
        itemIdToKey := put s.itemIdToKey (trimSpace out.id) ("item:" ++ trimSpace out.id)
        callIdToKey := put s.callIdToKey (trimSpace out.callId) ("item:" ++ trimSpace out.id) }) := by
    simp [ensureToolForEvent, key, itemId, found, newTool, claimPending, id, callId, name, update, modify_last,
      settled.itemIds]
  have trimmed : trimSpace (trimSpace out.callId) = trimSpace out.callId := trimSpace_trimSpace _
  by_cases empty : out.arguments = []
  all_goals
    simp [toolItem, ensured, update, modify_last, toolDelta, send, ensureStart, settled.started, trimmed, callId, name,
      makeChunk, callDelta, withCall, sentTool, empty]

theorem Settled.withCall (settled : s.Settled) (out : ResponsesOutput) : (s.withCall out).Settled := by
  refine ⟨settled.started, settled.unbroken, settled.outputIndexes, settled.itemIds, ?_, ?_⟩
  · intro tool member
    rcases List.mem_append.mp member with old | new
    · exact settled.silent tool old
    · rw [List.mem_singleton.mp new]
      exact ⟨rfl, le_refl _, .inr rfl⟩
  · intro entry member
    have longer : (s.withCall out).tools.length = s.tools.length + 1 := by simp [ResponsesToChatStreamState.withCall]
    rw [longer]
    rcases List.mem_cons.mp member with new | old
    · rw [new]
      exact Nat.lt_succ_self _
    · exact Nat.lt_succ_of_lt (settled.placed entry (List.mem_of_mem_filter old))

theorem Fresh.withCall {other : ResponsesOutput} (fresh : s.Fresh other) (ids : trimSpace other.id ≠ trimSpace out.id)
    (callIds : trimSpace other.callId ≠ trimSpace out.callId) : (s.withCall out).Fresh other where
  key := by
    rw [ResponsesToChatStreamState.withCall, lookup_put, if_neg (by simpa using ids)]
    exact fresh.key
  item := by
    rw [ResponsesToChatStreamState.withCall, lookup_put, if_neg ids]
    exact fresh.item
  call := by
    rw [ResponsesToChatStreamState.withCall, lookup_put, if_neg callIds]
    exact fresh.call

theorem textDelta_settled (settled : s.Settled) {delta : Bytes} (filled : delta ≠ []) :
    s.textDelta delta = ([s.makeChunk { content := some delta } none], { s with hasSentText := true }) := by
  simp [textDelta, filled, send, ensureStart, settled.started, makeChunk]

theorem reasoningDelta_settled (settled : s.Settled) {delta : Bytes} (filled : delta ≠ []) :
    s.reasoningDelta delta = ([s.makeChunk { reasoningContent := some delta } none], { s with hasSentReasoning := true }) := by
  simp [reasoningDelta, filled, send, ensureStart, settled.started, settled.unbroken, makeChunk]

end ResponsesToChatStreamState

/-- The parts of the chunks, as a client collects them. -/
structure CollectedParts (chunks : List ChatCompletionsStreamResponse) (content reasoning : Bytes) (calls : List ToolCallResponse)
    (finishReasons : List String) : Prop where
  content : ((chunks.flatMap ChatCompletionsStreamResponse.choices).flatMap fun choice => choice.delta.getContentString) = content
  reasoning : ((chunks.flatMap ChatCompletionsStreamResponse.choices).flatMap fun choice => choice.delta.getReasoningContent) =
    reasoning
  calls : ((chunks.flatMap ChatCompletionsStreamResponse.choices).flatMap fun choice => choice.delta.toolCalls) = calls
  finishReasons : (chunks.flatMap ChatCompletionsStreamResponse.choices).filterMap
    ChatCompletionsStreamResponseChoice.finishReason = finishReasons

variable {chunks more : List ChatCompletionsStreamResponse}

namespace CollectedParts

theorem nil : CollectedParts [] [] [] [] [] := ⟨rfl, rfl, rfl, rfl⟩

theorem append {content content' reasoning reasoning' : Bytes}
    {calls calls' : List ToolCallResponse} {finishReasons finishReasons' : List String}
    (first : CollectedParts chunks content reasoning calls finishReasons)
    (second : CollectedParts more content' reasoning' calls' finishReasons') :
    CollectedParts (chunks ++ more) (content ++ content') (reasoning ++ reasoning') (calls ++ calls')
      (finishReasons ++ finishReasons') := by
  refine ⟨?_, ?_, ?_, ?_⟩
  · rw [List.flatMap_append, List.flatMap_append, first.content, second.content]
  · rw [List.flatMap_append, List.flatMap_append, first.reasoning, second.reasoning]
  · rw [List.flatMap_append, List.flatMap_append, first.calls, second.calls]
  · rw [List.flatMap_append, List.filterMap_append, first.finishReasons, second.finishReasons]

theorem chunk (s : ResponsesToChatStreamState) (delta : ChatCompletionsStreamResponseChoiceDelta) (finishReason : Option String) :
    CollectedParts [s.makeChunk delta finishReason] delta.getContentString delta.getReasoningContent delta.toolCalls
      finishReason.toList := by
  refine ⟨?_, ?_, ?_, ?_⟩
  · simp [ResponsesToChatStreamState.makeChunk]
  · simp [ResponsesToChatStreamState.makeChunk]
  · simp [ResponsesToChatStreamState.makeChunk]
  · cases finishReason <;> simp [ResponsesToChatStreamState.makeChunk]

end CollectedParts

namespace ResponsesToChatStreamState

variable {s : ResponsesToChatStreamState} {out : ResponsesOutput}

theorem terminalOutputChunk_message (settled : s.Settled) (message : out.type = "message") :
    s.terminalOutputChunk out =
      if s.hasSentText = true ∨ out.messageText = [] then ([], s)
      else ([s.makeChunk { content := some out.messageText } none], { s with hasSentText := true }) := by
  cases sent : s.hasSentText with
  | true => simp [terminalOutputChunk, message, sent, isResponsesToolOutputType]
  | false =>
    by_cases empty : out.messageText = []
    · simp [terminalOutputChunk, message, sent, empty, textDelta]
    · simp [terminalOutputChunk, message, sent, empty, textDelta_settled settled]

theorem terminalOutputChunk_reasoning (settled : s.Settled) (reasoning : out.type = "reasoning") :
    s.terminalOutputChunk out =
      if s.hasSentReasoning = true ∨ out.allText = [] then ([], s)
      else ([s.makeChunk { reasoningContent := some out.allText } none], { s with hasSentReasoning := true }) := by
  cases sent : s.hasSentReasoning with
  | true => simp [terminalOutputChunk, reasoning, sent, isResponsesToolOutputType]
  | false =>
    by_cases empty : out.allText = []
    · simp [terminalOutputChunk, reasoning, sent, empty, reasoningDelta]
    · simp [terminalOutputChunk, reasoning, sent, empty, reasoningDelta_settled settled]

theorem terminalOutputChunk_call (settled : s.Settled) (fresh : s.Fresh out) (call : out.type = "function_call")
    (identified : trimSpace out.id ≠ "" ∧ trimSpace out.callId ≠ "" ∧ trimSpace out.name ≠ "") :
    s.terminalOutputChunk out = ([s.makeChunk { toolCalls := [out.callDelta s.tools.length] } none], s.withCall out) := by
  obtain ⟨id, callId, name⟩ := identified
  simp [terminalOutputChunk, call, isResponsesToolOutputType, toolItem_fresh settled fresh id callId name]

theorem sequence_cons {α : Type}
    {part : ResponsesToChatStreamState → α → List ChatCompletionsStreamResponse × ResponsesToChatStreamState}
    {first : α} {rest : List α} {middle next : ResponsesToChatStreamState}
    (step : part s first = (chunks, middle)) (run : middle.sequence part rest = (more, next)) :
    s.sequence part (first :: rest) = (chunks ++ more, next) := by
  rw [sequence, step, run]

/-- Which texts were sent does not matter for what is left to be sent. -/
theorem Settled.flags (settled : s.Settled) (text reasoning : Bool) :
    { s with hasSentText := text, hasSentReasoning := reasoning }.Settled :=
  ⟨settled.started, settled.unbroken, settled.outputIndexes, settled.itemIds, settled.silent, settled.placed⟩

theorem Fresh.flags (fresh : s.Fresh out) (text reasoning : Bool) :
    { s with hasSentText := text, hasSentReasoning := reasoning }.Fresh out :=
  ⟨fresh.key, fresh.item, fresh.call⟩

/-- A message or a reasoning item adds its text unless one was sent before. -/
theorem terminalOutputChunk_said (settled : s.Settled) (said : out.type = "message" ∨ out.type = "reasoning")
    (rest : List ResponsesOutput) :
    ∃ chunks text reasoning,
      s.terminalOutputChunk out = (chunks, { s with hasSentText := text, hasSentReasoning := reasoning }) ∧
      ∀ more calls, CollectedParts more (if text then [] else firstFilled (messageTexts rest))
          (if reasoning then [] else firstFilled (reasoningTexts rest)) calls [] →
        CollectedParts (chunks ++ more)
          (if s.hasSentText then [] else firstFilled (messageTexts (out :: rest)))
          (if s.hasSentReasoning then [] else firstFilled (reasoningTexts (out :: rest))) calls [] := by
  rcases said with message | reasoning
  · rw [terminalOutputChunk_message settled message]
    by_cases skip : s.hasSentText = true ∨ out.messageText = []
    · refine ⟨[], s.hasSentText, s.hasSentReasoning, if_pos skip, fun more calls carried => ?_⟩
      rcases skip with sent | empty
      · simpa [reasoningTexts, message, sent] using carried
      · simpa [messageTexts, reasoningTexts, message, firstFilled_cons, empty] using carried
    · refine ⟨_, true, s.hasSentReasoning, if_neg skip, fun more calls carried => ?_⟩
      obtain ⟨unsent, filled⟩ := not_or.mp skip
      have sent := (CollectedParts.chunk s { content := some out.messageText } none).append carried
      simpa [messageTexts, reasoningTexts, message, unsent, firstFilled_cons, filled, getContentString,
        getReasoningContent] using sent
  · rw [terminalOutputChunk_reasoning settled reasoning]
    by_cases skip : s.hasSentReasoning = true ∨ out.allText = []
    · refine ⟨[], s.hasSentText, s.hasSentReasoning, if_pos skip, fun more calls carried => ?_⟩
      rcases skip with sent | empty
      · simpa [messageTexts, reasoning, sent] using carried
      · simpa [messageTexts, reasoningTexts, reasoning, firstFilled_cons, empty] using carried
    · refine ⟨_, s.hasSentText, true, if_neg skip, fun more calls carried => ?_⟩
      obtain ⟨unsent, filled⟩ := not_or.mp skip
      have sent := (CollectedParts.chunk s { reasoningContent := some out.allText } none).append carried
      simpa [messageTexts, reasoningTexts, reasoning, unsent, firstFilled_cons, filled, getContentString,
        getReasoningContent] using sent

/-- All items of a terminal response: of the messages and of the reasoning only the first
text is sent, and every call is. -/
theorem terminal_run (outs : List ResponsesOutput) (settled : s.Settled)
    (kinds : ∀ out ∈ outs, out.type = "message" ∨ out.type = "reasoning" ∨ out.type = "function_call")
    (identified : ∀ out ∈ outs, out.type = "function_call" →
      trimSpace out.id ≠ "" ∧ trimSpace out.callId ≠ "" ∧ trimSpace out.name ≠ "")
    (fresh : ∀ out ∈ outs, out.type = "function_call" → s.Fresh out)
    (ids : ((outs.filter fun out => out.type = "function_call").map fun out => trimSpace out.id).Nodup)
    (callIds : ((outs.filter fun out => out.type = "function_call").map fun out => trimSpace out.callId).Nodup) :
    ∃ chunks next, s.sequence terminalOutputChunk outs = (chunks, next) ∧ next.Settled ∧ next.finalized = s.finalized ∧
      next.sawToolCall = (s.sawToolCall || outs.any fun out => out.type = "function_call") ∧
      CollectedParts chunks (if s.hasSentText then [] else firstFilled (messageTexts outs))
        (if s.hasSentReasoning then [] else firstFilled (reasoningTexts outs))
        (callDeltas s.tools.length outs) [] := by
  induction outs generalizing s with
  | nil =>
    refine ⟨[], s, rfl, settled, rfl, by simp, ?_⟩
    have nothing : firstFilled [] = [] := rfl
    simpa [messageTexts, reasoningTexts, callDeltas, nothing]
      using CollectedParts.nil
  | cons out rest ih =>
    obtain ⟨kind, kindsRest⟩ := List.forall_mem_cons.mp kinds
    obtain ⟨named, identifiedRest⟩ := List.forall_mem_cons.mp identified
    obtain ⟨freshFirst, freshRest⟩ := List.forall_mem_cons.mp fresh
    by_cases call : out.type = "function_call"
    · simp only [call, decide_true, List.filter_cons_of_pos, List.map_cons, List.nodup_cons] at ids callIds
      have distinct : ∀ other ∈ rest, other.type = "function_call" → (s.withCall out).Fresh other := by
        intro other member isCall
        have listed : other ∈ rest.filter fun out => out.type = "function_call" :=
          List.mem_filter.mpr ⟨member, by simpa using isCall⟩
        refine (freshRest other member isCall).withCall ?_ ?_
        · exact fun same => ids.1 (List.mem_map.mpr ⟨other, listed, same⟩)
        · exact fun same => callIds.1 (List.mem_map.mpr ⟨other, listed, same⟩)
      have step := terminalOutputChunk_call settled (freshFirst call) call (named call)
      obtain ⟨chunks, next, run, settledNext, unfinished, saw, carried⟩ :=
        ih (settled.withCall out) kindsRest identifiedRest distinct ids.2 callIds.2
      refine ⟨_, next, sequence_cons step run, settledNext, unfinished, by simp [saw, call, withCall], ?_⟩
      have sent := (CollectedParts.chunk s { toolCalls := [out.callDelta s.tools.length] } none).append carried
      have longer : (s.withCall out).tools.length = s.tools.length + 1 := by simp [withCall]
      rw [longer, show (s.withCall out).hasSentText = s.hasSentText from rfl,
        show (s.withCall out).hasSentReasoning = s.hasSentReasoning from rfl] at sent
      simpa [messageTexts, reasoningTexts, callDeltas, call, getContentString, getReasoningContent] using sent
    · simp only [call, decide_false, List.filter_cons_of_neg, Bool.false_eq_true, not_false_eq_true] at ids callIds
      obtain ⟨chunks, text, reasoning, step, collect⟩ := terminalOutputChunk_said settled
        ((or_assoc.mpr kind).resolve_right call) rest
      obtain ⟨more, next, run, settledNext, unfinished, saw, carried⟩ := ih (settled.flags text reasoning) kindsRest
        identifiedRest (fun other member call => (freshRest other member call).flags text reasoning) ids callIds
      refine ⟨_, next, sequence_cons step run, settledNext, unfinished, by simp [saw, call], ?_⟩
      simpa [callDeltas, call] using collect more _ carried

/-- A tool with nothing left to be sent stays silent. -/
theorem flushKey_settled (settled : s.Settled) {key : String} (known : key ∈ s.toolByKey.map Prod.fst) :
    s.flushKey key = ([], s) := by
  obtain ⟨entry, listed, rfl⟩ := List.mem_map.mp known
  obtain ⟨i, found⟩ : ∃ i, s.toolByKey.lookup entry.1 = some i := by
    refine Option.isSome_iff_exists.mp (List.lookup_isSome_iff.mpr ⟨entry, listed, by simp⟩)
  have place : i < s.tools.length := by
    obtain ⟨before, after, split, -⟩ := List.lookup_eq_some_iff.mp found
    exact settled.placed (entry.1, i) (by rw [split]; simp)
  obtain ⟨sent, length, named⟩ := settled.silent _ (List.getElem_mem place)
  have same : s.update i (fun tool => { tool with arguments := tool.arguments ++ [] ++ [] }) = s := by
    rw [update, modify_of_fixed fun tool => by simp]
  have silent : s.toolDelta i [] = ([], s) := by
    have nothing : (s.tools[i]).arguments.drop (s.tools[i]).argsSentAt = [] := List.drop_eq_nil_of_le length
    simp [toolDelta, place, sent, nothing, named]
  have unchanged : { s with pendingArgsByOutputIndex := [], pendingArgsByItemId := [] } = s := by
    rw [← settled.outputIndexes, ← settled.itemIds]
  simp only [flushKey, found, settled.outputIndexes, settled.itemIds, List.map_nil, List.lookup_nil, Option.getD_none,
    List.filter_nil, same, unchanged, silent]

theorem flushKeys_settled (keys : List String) (settled : s.Settled) (known : ∀ key ∈ keys, key ∈ s.toolByKey.map Prod.fst) :
    s.sequence flushKey keys = ([], s) := by
  induction keys with
  | nil => rfl
  | cons key rest ih =>
    obtain ⟨knownFirst, knownRest⟩ := List.forall_mem_cons.mp known
    exact sequence_cons (flushKey_settled settled knownFirst) (ih knownRest)

/-- The end of the stream is one finish reason. -/
theorem finalize_settled (settled : s.Settled) (unfinished : s.finalized = false) (response : OpenAIResponsesResponse) :
    CollectedParts (s.finalize (some response)).1 [] [] []
      [(responsesFinishReasonFromStatus (some response)).getD (if s.sawToolCall then "tool_calls" else "stop")] := by
  have settledAfter : { s with finalized := true }.Settled :=
    ⟨settled.started, settled.unbroken, settled.outputIndexes, settled.itemIds, settled.silent, settled.placed⟩
  have flushed : { s with finalized := true }.flushAllPendingTools = ([], { s with finalized := true }) := by
    refine flushKeys_settled _ settledAfter fun key member => ?_
    have listed := List.mem_dedup.mp (List.mem_mergeSort.mp member)
    simpa [settled.outputIndexes, settled.itemIds] using listed
  have started : { s with finalized := true }.ensureStart = ([], { s with finalized := true }) := if_pos settled.started
  simp only [finalize, unfinished, flushed, started]
  exact CollectedParts.chunk _ {} (some _)

end ResponsesToChatStreamState

namespace ResponsesOutput

theorem le_index_callDeltas {index : Nat} {outs : List ResponsesOutput} :
    ∀ delta ∈ callDeltas index outs, (index : Int) ≤ delta.index.getD 0 := by
  induction outs generalizing index with
  | nil => exact fun _ member => absurd member List.not_mem_nil
  | cons out rest ih =>
    intro delta member
    rw [callDeltas] at member
    split_ifs at member with call
    · rcases List.mem_cons.mp member with first | later
      · rw [first]
        exact le_refl _
      · have := ih delta later
        push_cast at this
        omega
    · exact ih delta member

theorem callDeltas_distinct (index : Nat) (outs : List ResponsesOutput) :
    ((callDeltas index outs).map fun delta => delta.index.getD 0).Nodup := by
  induction outs generalizing index with
  | nil => exact List.nodup_nil
  | cons out rest ih =>
    rw [callDeltas]
    split_ifs with call
    · refine List.nodup_cons.mpr ⟨fun member => ?_, ih (index + 1)⟩
      obtain ⟨delta, later, same⟩ := List.mem_map.mp member
      have above := le_index_callDeltas delta later
      rw [same] at above
      exact absurd above (by simp [callDelta])
    · exact ih index

/-- Stream and whole response have the same calls. -/
theorem callDeltas_calls {outs : List ResponsesOutput} (index : Nat)
    (kinds : ∀ out ∈ outs, out.type = "message" ∨ out.type = "reasoning" ∨ out.type = "function_call")
    (identified : ∀ out ∈ outs, out.type = "function_call" →
      trimSpace out.id ≠ "" ∧ trimSpace out.callId ≠ "" ∧ trimSpace out.name ≠ "") :
    ((callDeltas index outs).map fun delta => (delta.id, delta.function.name, delta.function.arguments)) =
      (outs.filterMap responsesToolCall).map fun tool => (tool.id, tool.function.name, tool.function.arguments) := by
  induction outs generalizing index with
  | nil => rfl
  | cons out rest ih =>
    obtain ⟨kind, kindsRest⟩ := List.forall_mem_cons.mp kinds
    obtain ⟨named, identifiedRest⟩ := List.forall_mem_cons.mp identified
    rcases kind with other | other | call
    · simpa [callDeltas, responsesToolCall, isResponsesToolOutputType, other] using ih index kindsRest identifiedRest
    · simpa [callDeltas, responsesToolCall, isResponsesToolOutputType, other] using ih index kindsRest identifiedRest
    · obtain ⟨-, callId, name⟩ := named call
      simpa [callDeltas, responsesToolCall, isResponsesToolOutputType, call, callId, name, callDelta]
        using ih (index + 1) kindsRest identifiedRest

end ResponsesOutput

/-- The stream gives what the whole conversion gives. -/
structure SameAnswer (streamed : AccumulatedMessage) (whole : ChatCompletion) : Prop where
  content : streamed.content = whole.content
  reasoning : streamed.reasoning = whole.reasoningContent
  calls : (streamed.calls.map fun call => (call.id, call.name, call.arguments)) =
    whole.toolCalls.map fun tool => (tool.id, tool.function.name, tool.function.arguments)
  finish : streamed.finishReasons = [whole.finishReason]

theorem responsesStreamToChatChunks_cons {event : ResponsesStreamResponse} {rest : List ResponsesStreamResponse}
    {state next : ResponsesToChatStreamState} (step : responsesStreamEventToChatChunks event state = .ok (chunks, next))
    (run : responsesStreamToChatChunks rest next = .ok more) :
    responsesStreamToChatChunks (event :: rest) state = .ok (chunks ++ more) := by
  rw [responsesStreamToChatChunks, step]
  exact congrArg (Except.map fun more => chunks ++ more) run

namespace TerminalResponse

variable (terminal : TerminalResponse)

theorem content_iff :
    firstFilled (messageTexts terminal.response.output) = extractOutputTextFromResponses terminal.response ↔
      ((messageTexts terminal.response.output).filter (· ≠ [])).length ≤ 1 ∧
        ((messageTexts terminal.response.output).filter (· ≠ []) = [] →
          ∀ out ∈ terminal.response.output, out.allText = []) := by
  have assistant : (terminal.response.output.filter fun out =>
        out.type = "message" ∧ (out.role = "" ∨ out.role = "assistant")).flatMap ResponsesOutput.messageText =
      (messageTexts terminal.response.output).flatten := by
    rw [List.flatMap_def, messageTexts]
    congr 2
    refine List.filter_congr fun out member => ?_
    simpa using terminal.spoken out member
  have filled : (messageTexts terminal.response.output).flatten = [] ↔
      (messageTexts terminal.response.output).filter (· ≠ []) = [] := by
    simp
  rw [extractOutputTextFromResponses, assistant]
  by_cases empty : (messageTexts terminal.response.output).flatten = []
  · have nothing : firstFilled (messageTexts terminal.response.output) = [] :=
      ((firstFilled_eq_flatten_iff _).mpr (by rw [filled.mp empty]; exact Nat.zero_le 1)).trans empty
    rw [if_neg (not_not.mpr empty), nothing, filled.mp empty, eq_comm, List.flatMap_eq_nil_iff]
    simp
  · rw [if_pos empty, firstFilled_eq_flatten_iff]
    exact ⟨fun single => ⟨single, fun none => absurd (filled.mpr none) empty⟩, And.left⟩

/-- What a client has after the two events. -/
theorem stream_carried (first : Option OpenAIResponsesResponse) (model : String) (created : Int) :
    ∃ chunks, responsesStreamToChatChunks
        [{ type := .created, response := first }, { type := .completed, response := some terminal.response }]
        { model, created } = .ok chunks ∧
      CollectedParts chunks (firstFilled (messageTexts terminal.response.output))
        (firstFilled (reasoningTexts terminal.response.output))
        (callDeltas 0 terminal.response.output)
        [(responsesFinishReasonFromStatus (some terminal.response)).getD
          (if terminal.response.output.any fun out => out.type = "function_call" then "tool_calls" else "stop")] := by
  obtain ⟨id, name, time, begun⟩ := ResponsesToChatStreamState.applyResponseMetadata_eq { model, created } first
  obtain ⟨id', name', time', completed⟩ := ResponsesToChatStreamState.applyResponseMetadata_eq
    { id := id, model := name, created := time, sentStart := true } (some terminal.response)
  have settled : ResponsesToChatStreamState.Settled { id := id', model := name', created := time', sentStart := true } :=
    ⟨rfl, rfl, rfl, rfl, nofun, nofun⟩
  obtain ⟨chunks, next, run, settledNext, unfinished, saw, carried⟩ :=
    ResponsesToChatStreamState.terminal_run terminal.response.output settled terminal.kinds terminal.identified
      (fun _ _ _ => ⟨rfl, rfl, rfl⟩) terminal.ids terminal.callIds
  have ended := ResponsesToChatStreamState.finalize_settled settledNext unfinished terminal.response
  have start := CollectedParts.chunk { id := id, model := name, created := time } { role := "assistant", content := some [] } none
  have streamed : responsesStreamToChatChunks
      [{ type := .created, response := first }, { type := .completed, response := some terminal.response }]
      { model, created } =
        .ok ([ResponsesToChatStreamState.makeChunk { id := id, model := name, created := time }
          { role := "assistant", content := some [] } none] ++
            ((chunks ++ (next.finalize (some terminal.response)).1) ++ [])) := by
    have opening : responsesStreamEventToChatChunks { type := .created, response := first } { model, created } =
        .ok ([ResponsesToChatStreamState.makeChunk { id := id, model := name, created := time }
          { role := "assistant", content := some [] } none],
          { id := id, model := name, created := time, sentStart := true }) := by
      simp only [responsesStreamEventToChatChunks, begun]
      rfl
    have closing : responsesStreamEventToChatChunks { type := .completed, response := some terminal.response }
        { id := id, model := name, created := time, sentStart := true } =
          .ok (chunks ++ (next.finalize (some terminal.response)).1, (next.finalize (some terminal.response)).2) := by
      have sent : ResponsesToChatStreamState.terminalOutputChunks
          { id := id', model := name', created := time', sentStart := true } (some terminal.response) = (chunks, next) := run
      simp only [responsesStreamEventToChatChunks, completed, sent]
    exact responsesStreamToChatChunks_cons opening (responsesStreamToChatChunks_cons closing rfl)
  refine ⟨_, streamed, ?_⟩
  have all := start.append ((carried.append ended).append CollectedParts.nil)
  simpa [saw, getContentString, getReasoningContent] using all

end TerminalResponse

/-- The stream of only the first and the last event gives the same text, reasoning, calls
and finish reason as the whole conversion, exactly if at most one message has text, at most
one reasoning item has text, and no item has text where no message has. -/
theorem terminal_stream_agrees_iff (terminal : TerminalResponse) (first : Option OpenAIResponsesResponse) (model : String)
    (created : Int) :
    (∃ chunks, responsesStreamToChatChunks
          [{ type := .created, response := first }, { type := .completed, response := some terminal.response }]
          { model, created } = .ok chunks ∧
        SameAnswer (accumulate chunks) (responsesResponseToChatCompletionsResponse terminal.response)) ↔
      ((messageTexts terminal.response.output).filter (· ≠ [])).length ≤ 1 ∧
        ((messageTexts terminal.response.output).filter (· ≠ []) = [] →
          ∀ out ∈ terminal.response.output, out.allText = []) ∧
        ((reasoningTexts terminal.response.output).filter (· ≠ [])).length ≤ 1 := by
  obtain ⟨chunks, streamed, carried⟩ := terminal.stream_carried first model created
  have calls : ((accumulate chunks).calls.map fun call => (call.id, call.name, call.arguments)) =
      (terminal.response.output.filterMap responsesToolCall).map fun tool =>
        (tool.id, tool.function.name, tool.function.arguments) := by
    have complete : (accumulate chunks).calls = (callDeltas 0 terminal.response.output).map .begin := by
      rw [accumulate, accumulateCalls, carried.calls]
      exact foldl_accumulateCall_distinct (ResponsesOutput.callDeltas_distinct 0 _) (by simp)
    rw [complete, List.map_map, ← ResponsesOutput.callDeltas_calls 0 terminal.kinds terminal.identified]
    rfl
  have called : (terminal.response.output.filterMap responsesToolCall ≠ []) ↔
      (terminal.response.output.any fun out => out.type = "function_call") = true := by
    rw [ne_eq, List.filterMap_eq_nil_iff, List.any_eq_true]
    push Not
    refine exists_congr fun out => and_congr_right fun member => ?_
    rcases terminal.kinds out member with other | other | call
    · simp [responsesToolCall, isResponsesToolOutputType, other]
    · simp [responsesToolCall, isResponsesToolOutputType, other]
    · simp [responsesToolCall, isResponsesToolOutputType, call, terminal.identified out member call]
  have reasoning : extractReasoningTextFromResponses terminal.response =
      (reasoningTexts terminal.response.output).flatten := List.flatMap_def
  rw [← and_assoc, ← terminal.content_iff, ← firstFilled_eq_flatten_iff, ← reasoning]
  constructor
  · rintro ⟨others, same, agrees⟩
    obtain rfl := Except.ok.inj (streamed.symm.trans same)
    exact ⟨carried.content.symm.trans agrees.content, carried.reasoning.symm.trans agrees.reasoning⟩
  · rintro ⟨content, reasoning⟩
    refine ⟨chunks, streamed, carried.content.trans content, carried.reasoning.trans reasoning, calls, ?_⟩
    refine carried.finishReasons.trans ?_
    simp only [responsesResponseToChatCompletionsResponse, called]

/-- Two messages, `Hi` and `!`. -/
def twoMessages : TerminalResponse where
  response :=
    { status := "completed"
      output :=
        [{ type := "message", id := "msg_1", role := "assistant", content := [⟨"output_text", [72, 105]⟩] },
         { type := "message", id := "msg_2", role := "assistant", content := [⟨"output_text", [33]⟩] }] }
  kinds := by simp
  spoken := by simp
  identified := by simp
  ids := by simp
  callIds := by simp

/-- The stream says only the first message. -/
theorem second_message_dropped :
    ∃ chunks, responsesStreamToChatChunks
        [{ type := .created }, { type := .completed, response := some twoMessages.response }]
        { model := "gpt-5", created := 1 } = .ok chunks ∧
      (accumulate chunks).content = [72, 105] ∧
      (responsesResponseToChatCompletionsResponse twoMessages.response).content = [72, 105, 33] :=
  ⟨_, rfl, by decide +kernel, by decide +kernel⟩

end LLMHub
