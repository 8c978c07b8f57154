import LLMHub.Go.JsonTree
import LLMHub.RelayConvert.ChatAccumulator

namespace LLMHub

open Go ChatCompletionsStreamResponseChoiceDelta

/-- A content block of a Claude answer, with the fields the conversions read. -/
structure ClaudeAnswerBlock where
  type : String
  text : Option Bytes := none
  thinking : Option Bytes := none
  id : String := ""
  name : String := ""
  input : Json := .null

inductive ClaudeDeltaType
  | text
  | inputJson (partialJson : Bytes)
  | signature
  | thinking (thinking : Option Bytes)
  | other

structure ClaudeAnswerDelta where
  type : ClaudeDeltaType
  text : Option Bytes := none

inductive ClaudeAnswerEvent
  | messageStart (id model : String)
  | contentBlockStart (index : Option Int) (contentBlock : Option ClaudeAnswerBlock)
  | contentBlockDelta (index : Option Int) (delta : Option ClaudeAnswerDelta)
  | messageDelta (stopReason : Option String)
  | messageStop
  | other

def stopReasonClaudeToOpenAI (reason : String) : String :=
  match toLower reason with
  | "stop_sequence" | "end_turn" => "stop"
  | "max_tokens" => "length"
  | "tool_use" => "tool_calls"
  | "refusal" => "content_filter"
  | _ => reason

/-- A chunk with one choice. Tool calls take the place of the content. -/
def claudeChunk (delta : ChatCompletionsStreamResponseChoiceDelta) (tools : List ToolCallResponse) :
    Option ChatCompletionsStreamResponse :=
  some { choices := [{ delta := if tools = [] then delta else { delta with content := none, toolCalls := tools } }] }

def streamResponseClaude2OpenAI : ClaudeAnswerEvent → Option ChatCompletionsStreamResponse
  | .messageStart id model => some { id, model, choices := [{ delta := { content := some [], role := "assistant" } }] }
  | .contentBlockStart index (some block) =>
    if block.type = "tool_use" then
      claudeChunk {} [{ index := some (index.getD 0), id := block.id, function := { name := block.name } }]
    else if block.type = "text" then claudeChunk { content := block.text } []
    else claudeChunk {} []
  | .contentBlockStart _ none => none
  | .contentBlockDelta index (some delta) =>
    match delta.type with
    | .inputJson partialJson =>
      claudeChunk { content := delta.text } [{ index := some (index.getD 0), function := { arguments := partialJson } }]
    | .signature => claudeChunk { content := delta.text, reasoningContent := some "\n".toUTF8.toList } []
    | .thinking thinking => claudeChunk { content := delta.text, reasoningContent := thinking } []
    | .text | .other => claudeChunk { content := delta.text } []
  | .contentBlockDelta _ none => claudeChunk {} []
  | .messageDelta stopReason =>
    let finishReason := (stopReason.map stopReasonClaudeToOpenAI).filter (· ≠ "null")
    some { choices := [{ finishReason }] }
  | .messageStop | .other => none

/-- The message of a chat completion. -/
structure ChatAnswer where
  content : Bytes
  reasoningContent : Option Bytes
  toolCalls : List ToolCallResponse
  finishReason : String

/-- What the loop over the blocks has read. -/
structure ClaudeAnswerParts where
  responseText : Bytes
  thinkingContent : Bytes := []
  tools : List ToolCallResponse := []

section
variable (marshal : Json → Bytes)

def ClaudeAnswerParts.read (parts : ClaudeAnswerParts) (block : ClaudeAnswerBlock) : ClaudeAnswerParts :=
  match block.type with
  | "tool_use" =>
    { parts with tools := parts.tools ++
        [{ id := block.id, function := { name := block.name, arguments := marshal block.input } }] }
  | "thinking" => { parts with thinkingContent := block.thinking.getD parts.thinkingContent }
  | "text" => { parts with responseText := block.text.getD [] }
  | _ => parts

def responseClaude2OpenAI (content : List ClaudeAnswerBlock) (stopReason : String) : ChatAnswer :=
  let responseText := (content.head?.bind ClaudeAnswerBlock.text).getD []
  let responseThinking := (content.head?.bind ClaudeAnswerBlock.thinking).getD []
  let parts := content.foldl (ClaudeAnswerParts.read marshal) { responseText }
  { content := parts.responseText
    reasoningContent :=
      if parts.thinkingContent ≠ [] then some parts.thinkingContent
      else if responseThinking ≠ [] then some responseThinking
      else none
    toolCalls := parts.tools
    finishReason := stopReasonClaudeToOpenAI stopReason }

end

/-- How values are written as JSON and which texts read as a value. Nothing is read from
the empty text. -/
structure JsonReading where
  marshal : Json → Bytes
  Reads : Bytes → Json → Prop
  reads_marshal : ∀ value, Reads (marshal value) value
  not_reads_nil : ∀ value, ¬ Reads [] value

/-- A content block with the deltas it is streamed in. The input of a tool is split into
pieces that read as it; the empty object may be sent without any. -/
inductive StreamedBlock (json : JsonReading)
  | text (pieces : List Bytes)
  | thinking (pieces : List Bytes)
  | toolUse (id name : String) (input : Json) (pieces : List Bytes)
      (split : json.Reads pieces.flatten input ∨ (pieces.flatten = [] ∧ input = .obj []))

namespace StreamedBlock

variable {json : JsonReading}

def block : StreamedBlock json → ClaudeAnswerBlock
  | .text pieces => { type := "text", text := some pieces.flatten }
  | .thinking pieces => { type := "thinking", thinking := some pieces.flatten }
  | .toolUse id name input _ _ => { type := "tool_use", id, name, input }

def events (index : Int) : StreamedBlock json → List ClaudeAnswerEvent
  | .text pieces =>
    .contentBlockStart (some index) (some { type := "text", text := some [] }) ::
      pieces.map (fun piece => .contentBlockDelta (some index) (some { type := .text, text := some piece })) ++ [.other]
  | .thinking pieces =>
    .contentBlockStart (some index) (some { type := "thinking", thinking := some [] }) ::
      pieces.map (fun piece => .contentBlockDelta (some index) (some { type := .thinking (some piece) })) ++ [.other]
  | .toolUse id name _ pieces _ =>
    .contentBlockStart (some index) (some { type := "tool_use", id, name, input := .obj [] }) ::
      pieces.map (fun piece => .contentBlockDelta (some index) (some { type := .inputJson piece })) ++ [.other]

def text? : StreamedBlock json → Option Bytes
  | .text pieces => some pieces.flatten
  | _ => none

def thinking? : StreamedBlock json → Option Bytes
  | .thinking pieces => some pieces.flatten
  | _ => none

def call? (index : Int) : StreamedBlock json → Option AccumulatedCall
  | .toolUse id name _ pieces _ => some ⟨index, id, name, pieces.flatten⟩
  | _ => none

/-- A tool's input was sent, in however many pieces. -/
def InputSent : StreamedBlock json → Prop
  | .toolUse _ _ _ pieces _ => pieces.flatten ≠ []
  | _ => True

def allEvents (index : Int) : List (StreamedBlock json) → List ClaudeAnswerEvent
  | [] => []
  | first :: rest => first.events index ++ allEvents (index + 1) rest

def allCalls (index : Int) : List (StreamedBlock json) → List AccumulatedCall
  | [] => []
  | first :: rest => (first.call? index).toList ++ allCalls (index + 1) rest

def messageEvents (blocks : List (StreamedBlock json)) (id model : String) (stopReason : String) : List ClaudeAnswerEvent :=
  .messageStart id model :: allEvents 0 blocks ++ [.messageDelta (some stopReason), .messageStop]

end StreamedBlock

/-- The stream and the whole answer say the same: content, reasoning and calls, with
arguments that read as the same value. -/
structure StreamAgrees (json : JsonReading) (streamed : AccumulatedMessage) (whole : ChatAnswer) : Prop where
  content : streamed.content = whole.content
  reasoning : streamed.reasoning = whole.reasoningContent.getD []
  calls : List.Forall₂ (fun call tool => call.id = tool.id ∧ call.name = tool.function.name ∧
    ∃ value, json.Reads call.arguments value ∧ json.Reads tool.function.arguments value) streamed.calls whole.toolCalls

section
variable {json : JsonReading}

def streamedChoices (events : List ClaudeAnswerEvent) : List ChatCompletionsStreamResponseChoice :=
  (events.filterMap streamResponseClaude2OpenAI).flatMap ChatCompletionsStreamResponse.choices

theorem streamedChoices_append (events more : List ClaudeAnswerEvent) :
    streamedChoices (events ++ more) = streamedChoices events ++ streamedChoices more := by
  simp [streamedChoices]

def StreamedBlock.fragments (index : Int) : StreamedBlock json → List ToolCallResponse
  | .toolUse id name _ pieces _ =>
    { index := some index, id, function := { name } } ::
      pieces.map fun piece => { index := some index, function := { arguments := piece } }
  | _ => []

/-- The chunks of a block: one for its start and one for each delta. -/
theorem streamedChoices_block {index : Int} {start : ClaudeAnswerEvent} {first : ChatCompletionsStreamResponseChoice}
    (begun : streamResponseClaude2OpenAI start = some { choices := [first] }) {delta : Bytes → ClaudeAnswerDelta}
    {choice : Bytes → ChatCompletionsStreamResponseChoice}
    (chunk : ∀ piece, streamResponseClaude2OpenAI (.contentBlockDelta (some index) (some (delta piece))) =
      some { choices := [choice piece] }) (pieces : List Bytes) :
    streamedChoices
        (start :: pieces.map (fun piece => .contentBlockDelta (some index) (some (delta piece))) ++ [.other]) =
      first :: pieces.map choice := by
  have one : streamedChoices [start] = [first] := by simp [streamedChoices, begun]
  have deltas : streamedChoices (pieces.map fun piece => .contentBlockDelta (some index) (some (delta piece))) =
      pieces.map choice := by
    induction pieces with
    | nil => rfl
    | cons piece rest ih =>
      rw [List.map_cons, ← List.singleton_append, streamedChoices_append, ih]
      simp [streamedChoices, chunk]
  rw [← List.singleton_append, streamedChoices_append, streamedChoices_append, one, deltas]
  simp [streamedChoices, streamResponseClaude2OpenAI]

/-- What the chunks of one block carry. -/
theorem StreamedBlock.events_choices (index : Int) (streamed : StreamedBlock json) :
    ((streamedChoices (streamed.events index)).flatMap fun choice => choice.delta.getContentString) = streamed.text?.getD [] ∧
      ((streamedChoices (streamed.events index)).flatMap fun choice => choice.delta.getReasoningContent) =
        streamed.thinking?.getD [] ∧
      ((streamedChoices (streamed.events index)).flatMap fun choice => choice.delta.toolCalls) = streamed.fragments index := by
  cases streamed with
  | text pieces =>
    have choices := @streamedChoices_block index _ { delta := { content := some [] } }
      (rfl : streamResponseClaude2OpenAI (.contentBlockStart (some index) (some { type := "text", text := some [] })) = _)
      (fun piece => { type := .text, text := some piece }) (fun piece => { delta := { content := some piece } })
      (fun _ => rfl) pieces
    rw [StreamedBlock.events, choices]
    simp [StreamedBlock.text?, StreamedBlock.thinking?, StreamedBlock.fragments, List.flatMap_map, getContentString,
      getReasoningContent]
  | thinking pieces =>
    have choices := @streamedChoices_block index _ {}
      (rfl : streamResponseClaude2OpenAI
        (.contentBlockStart (some index) (some { type := "thinking", thinking := some [] })) = _)
      (fun piece => { type := .thinking (some piece) }) (fun piece => { delta := { reasoningContent := some piece } })
      (fun _ => rfl) pieces
    rw [StreamedBlock.events, choices]
    simp [StreamedBlock.text?, StreamedBlock.thinking?, StreamedBlock.fragments, List.flatMap_map, getContentString,
      getReasoningContent]
  | toolUse id name input pieces split =>
    have choices := @streamedChoices_block index _
      { delta := { toolCalls := [{ index := some index, id, function := { name } }] } }
      (rfl : streamResponseClaude2OpenAI
        (.contentBlockStart (some index) (some { type := "tool_use", id, name, input := .obj [] })) = _)
      (fun piece => { type := .inputJson piece })
      (fun piece => { delta := { toolCalls := [{ index := some index, function := { arguments := piece } }] } })
      (fun _ => rfl) pieces
    rw [StreamedBlock.events, choices]
    simp [StreamedBlock.text?, StreamedBlock.thinking?, StreamedBlock.fragments, List.flatMap_map, getContentString,
      getReasoningContent]
    exact List.map_eq_flatMap.symm

namespace StreamedBlock

variable (index : Int) (blocks : List (StreamedBlock json)) (stopReason : String)

theorem allEvents_content :
    ((streamedChoices (allEvents index blocks)).flatMap fun choice => choice.delta.getContentString) =
      (blocks.filterMap text?).flatten := by
  induction blocks generalizing index with
  | nil => rfl
  | cons first rest ih =>
    rw [allEvents, streamedChoices_append, List.flatMap_append, (first.events_choices index).1, ih]
    cases first <;> simp [text?, List.filterMap_cons]

theorem allEvents_reasoning :
    ((streamedChoices (allEvents index blocks)).flatMap fun choice => choice.delta.getReasoningContent) =
      (blocks.filterMap thinking?).flatten := by
  induction blocks generalizing index with
  | nil => rfl
  | cons first rest ih =>
    rw [allEvents, streamedChoices_append, List.flatMap_append, (first.events_choices index).2.1, ih]
    cases first <;> simp [thinking?, List.filterMap_cons]

/-- The fragments of a block make its call. -/
theorem foldl_fragments {calls : List AccumulatedCall} (before : ∀ call ∈ calls, call.index < index)
    (streamed : StreamedBlock json) :
    (streamed.fragments index).foldl accumulateCall calls = calls ++ (streamed.call? index).toList := by
  have fresh : index ∉ calls.map AccumulatedCall.index := by
    intro member
    obtain ⟨call, listed, same⟩ := List.mem_map.mp member
    exact absurd (before call listed) (by omega)
  cases streamed with
  | text pieces | thinking pieces => simp [fragments, call?]
  | toolUse id name input pieces split =>
    rw [fragments, List.foldl_cons, accumulateCall_fresh fresh,
      @foldl_accumulateCall_fragments calls (.begin { index := some index, id, function := { name } }) _ fresh]
    · simp [AccumulatedCall.begin, call?, List.flatMap_map]
    · intro fragment member
      obtain ⟨piece, _, rfl⟩ := List.mem_map.mp member
      exact ⟨rfl, rfl, rfl⟩

theorem allEvents_calls {calls : List AccumulatedCall}
    (before : ∀ call ∈ calls, call.index < index) :
    ((streamedChoices (allEvents index blocks)).flatMap fun choice => choice.delta.toolCalls).foldl accumulateCall calls =
      calls ++ allCalls index blocks := by
  induction blocks generalizing index calls with
  | nil => simp [allEvents, streamedChoices, allCalls]
  | cons first rest ih =>
    have beforeRest : ∀ call ∈ calls ++ (first.call? index).toList, call.index < index + 1 := by
      intro call member
      rcases List.mem_append.mp member with old | new
      · have := before call old
        omega
      · have same : call.index = index := by
          cases first with
          | toolUse id name input pieces split => simp_all [call?]
          | _ => simp [call?] at new
        omega
    rw [allEvents, streamedChoices_append, List.flatMap_append, List.foldl_append, (first.events_choices index).2.2,
      foldl_fragments index before, ih (index + 1) beforeRest, allCalls, List.append_assoc]

/-- What a client has after the whole stream. -/
theorem accumulate_messageEvents (blocks : List (StreamedBlock json)) (id model stopReason : String) :
    let streamed := accumulate ((messageEvents blocks id model stopReason).filterMap streamResponseClaude2OpenAI)
    streamed.content = (blocks.filterMap text?).flatten ∧ streamed.reasoning = (blocks.filterMap thinking?).flatten ∧
      streamed.calls = allCalls 0 blocks := by
  have choices : ((messageEvents blocks id model stopReason).filterMap streamResponseClaude2OpenAI).flatMap
        ChatCompletionsStreamResponse.choices =
      { delta := { content := some [], role := "assistant" } } :: streamedChoices (allEvents 0 blocks) ++
        [{ finishReason := some (stopReasonClaudeToOpenAI stopReason) |>.filter (· ≠ "null") }] := by
    simp [messageEvents, streamedChoices, streamResponseClaude2OpenAI]
  have contents := allEvents_content 0 blocks
  have reasonings := allEvents_reasoning 0 blocks
  have calls := @allEvents_calls json 0 blocks [] (by simp)
  simp only [accumulate, choices, accumulateCalls]
  simp [getContentString, getReasoningContent] at contents reasonings calls ⊢
  exact ⟨contents, reasonings, calls⟩

def tool? (streamed : StreamedBlock json) : Option ToolCallResponse :=
  match streamed with
  | .toolUse id name input _ _ => some { id, function := { name, arguments := json.marshal input } }
  | _ => none

/-- The loop keeps the last text and the last thinking, and all tools. -/
theorem foldl_read (parts : ClaudeAnswerParts) :
    (blocks.map block).foldl (ClaudeAnswerParts.read json.marshal) parts =
      { responseText := (blocks.filterMap text?).getLast?.getD parts.responseText
        thinkingContent := (blocks.filterMap thinking?).getLast?.getD parts.thinkingContent
        tools := parts.tools ++ blocks.filterMap tool? } := by
  induction blocks generalizing parts with
  | nil => simp
  | cons first rest ih =>
    rw [List.map_cons, List.foldl_cons, ih]
    cases first with
    | text pieces | thinking pieces =>
      simp [ClaudeAnswerParts.read, block, text?, thinking?, tool?, List.filterMap_cons, List.getLast?_cons]
    | toolUse id name input pieces split =>
      simp [ClaudeAnswerParts.read, block, text?, thinking?, tool?, List.filterMap_cons]

/-- Only the last text block has a text. -/
def TextKept (blocks : List (StreamedBlock json)) : Prop := ∀ text ∈ (blocks.filterMap text?).dropLast, text = []

/-- Only one thinking block has a text: the last one, or the first block of the message
where the last one is empty. -/
def ThinkingKept (blocks : List (StreamedBlock json)) : Prop :=
  (∀ text ∈ (blocks.filterMap thinking?).dropLast, text = []) ∨
    ((blocks.filterMap thinking?).getLast? = some [] ∧
      ∃ pieces rest, blocks = .thinking pieces :: rest ∧ ∀ text ∈ rest.filterMap thinking?, text = [])

theorem flatten_eq_getLast_iff (texts : List Bytes) :
    texts.flatten = texts.getLast?.getD [] ↔ ∀ text ∈ texts.dropLast, text = [] := by
  rcases texts.eq_nil_or_concat with rfl | ⟨init, last, rfl⟩
  · simp
  · simp [List.concat_eq_append]

theorem whole_content :
    (responseClaude2OpenAI json.marshal (blocks.map block) stopReason).content =
      (blocks.filterMap text?).getLast?.getD [] := by
  simp only [responseClaude2OpenAI, foldl_read]
  cases blocks with
  | nil => rfl
  | cons first rest =>
    cases first with
    | text pieces => simp [text?, List.getLast?_cons]
    | _ => simp [block, text?, List.filterMap_cons]

/-- The whole answer's reasoning: the last thinking, or else that of the first block. -/
theorem whole_reasoning :
    (responseClaude2OpenAI json.marshal (blocks.map block) stopReason).reasoningContent.getD [] =
      if (blocks.filterMap thinking?).getLast?.getD [] ≠ [] then (blocks.filterMap thinking?).getLast?.getD []
      else (blocks.head?.bind thinking?).getD [] := by
  have first : (blocks.map block).head?.bind ClaudeAnswerBlock.thinking = blocks.head?.bind thinking? := by
    cases blocks with
    | nil => rfl
    | cons first rest => cases first <;> rfl
  simp only [responseClaude2OpenAI, foldl_read, first]
  split_ifs <;> simp_all

theorem thinking_kept_iff :
    (blocks.filterMap thinking?).flatten =
        (responseClaude2OpenAI json.marshal (blocks.map block) stopReason).reasoningContent.getD [] ↔
      ThinkingKept blocks := by
  rw [whole_reasoning, ThinkingKept]
  by_cases filled : (blocks.filterMap thinking?).getLast?.getD [] = []
  · rw [if_neg (not_not.mpr filled)]
    rw [← flatten_eq_getLast_iff, filled]
    -- the last thinking is empty, so the first block's stands for the reasoning
    cases blocks with
    | nil => simp
    | cons first rest =>
      cases first with
      | thinking pieces =>
        have last : ((thinking pieces :: rest).filterMap thinking?).getLast? = some [] := by
          simpa [thinking?, List.getLast?_cons] using filled
        rw [show (thinking pieces :: rest).filterMap thinking? = pieces.flatten :: rest.filterMap thinking? from rfl,
          List.flatten_cons]
        constructor
        · intro same
          have empty : (rest.filterMap thinking?).flatten = [] := List.append_right_eq_self.mp same
          exact .inr ⟨last, pieces, rest, rfl, List.flatten_eq_nil_iff.mp empty⟩
        · rintro (empty | ⟨-, _, _, same, empty⟩)
          · obtain ⟨none, noneRest⟩ := List.append_eq_nil_iff.mp empty
            rw [noneRest, List.append_nil]
            rfl
          · obtain ⟨-, rfl⟩ := List.cons.inj same
            rw [List.flatten_eq_nil_iff.mpr empty, List.append_nil]
            rfl
      | _ => simp [thinking?, List.filterMap_cons]
  · rw [if_pos filled, flatten_eq_getLast_iff]
    refine (or_iff_left ?_).symm
    rintro ⟨last, -⟩
    exact filled (by rw [last]; rfl)

theorem calls_kept_iff :
    List.Forall₂ (fun (call : AccumulatedCall) (tool : ToolCallResponse) => call.id = tool.id ∧
        call.name = tool.function.name ∧
        ∃ value, json.Reads call.arguments value ∧ json.Reads tool.function.arguments value)
        (allCalls index blocks) (blocks.filterMap tool?) ↔
      ∀ streamed ∈ blocks, streamed.InputSent := by
  induction blocks generalizing index with
  | nil => simp [allCalls]
  | cons first rest ih =>
    rw [List.forall_mem_cons, ← ih (index + 1), allCalls, List.filterMap_cons]
    cases first with
    | toolUse id name input pieces split =>
      simp only [call?, tool?, Option.toList_some, List.singleton_append, List.forall₂_cons, InputSent, true_and]
      refine and_congr_left fun _ => ⟨?_, fun sent => ?_⟩
      · rintro ⟨value, reads, -⟩ empty
        exact json.not_reads_nil value (empty ▸ reads)
      · rcases split with reads | ⟨empty, -⟩
        · exact ⟨input, reads, json.reads_marshal input⟩
        · exact absurd empty sent
    | _ => simp [call?, tool?, InputSent]

end StreamedBlock

end

/-- A Claude message gives the same content, reasoning and tool calls streamed and whole,
exactly if only its last text block and only one thinking block has a text, and the input
of every tool is sent. -/
theorem claude_stream_agrees_iff (json : JsonReading) (blocks : List (StreamedBlock json)) (id model stopReason : String) :
    StreamAgrees json
        (accumulate ((StreamedBlock.messageEvents blocks id model stopReason).filterMap streamResponseClaude2OpenAI))
        (responseClaude2OpenAI json.marshal (blocks.map StreamedBlock.block) stopReason) ↔
      StreamedBlock.TextKept blocks ∧ StreamedBlock.ThinkingKept blocks ∧ ∀ streamed ∈ blocks, streamed.InputSent := by
  obtain ⟨content, reasoning, calls⟩ := StreamedBlock.accumulate_messageEvents blocks id model stopReason
  have tools : (responseClaude2OpenAI json.marshal (blocks.map StreamedBlock.block) stopReason).toolCalls =
      blocks.filterMap StreamedBlock.tool? := by
    simp only [responseClaude2OpenAI, StreamedBlock.foldl_read, List.nil_append]
  rw [StreamedBlock.TextKept, ← StreamedBlock.flatten_eq_getLast_iff, ← StreamedBlock.whole_content blocks stopReason,
    ← StreamedBlock.thinking_kept_iff blocks stopReason, ← StreamedBlock.calls_kept_iff 0, ← content, ← reasoning, ← calls,
    ← tools]
  exact ⟨fun ⟨content, reasoning, calls⟩ => ⟨content, reasoning, calls⟩,
    fun ⟨content, reasoning, calls⟩ => ⟨content, reasoning, calls⟩⟩

/-- Every text but the empty one reads as every value: enough for messages without tools. -/
def looseJson : JsonReading where
  marshal _ := [123, 125]
  Reads text _ := text ≠ []
  reads_marshal := by simp
  not_reads_nil := by simp

def twoTexts : List (StreamedBlock looseJson) := [.text [[72, 105]], .text [[33]]]

/-- The stream says both texts, the whole answer only the second. -/
theorem two_texts_disagree :
    (accumulate ((StreamedBlock.messageEvents twoTexts "msg_1" "claude" "end_turn").filterMap
        streamResponseClaude2OpenAI)).content = [72, 105, 33] ∧
      (responseClaude2OpenAI looseJson.marshal (twoTexts.map StreamedBlock.block) "end_turn").content = [33] ∧
      ¬ StreamAgrees looseJson
        (accumulate ((StreamedBlock.messageEvents twoTexts "msg_1" "claude" "end_turn").filterMap
          streamResponseClaude2OpenAI))
        (responseClaude2OpenAI looseJson.marshal (twoTexts.map StreamedBlock.block) "end_turn") := by
  refine ⟨rfl, rfl, fun agrees => ?_⟩
  exact absurd (agrees.content : ([72, 105, 33] : Bytes) = [33]) (by decide)

end LLMHub
