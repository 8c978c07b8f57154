import LLMHub.Go.Int64
import LLMHub.Go.Strings
import LLMHub.RelayConvert.ChatChunks
import LLMHub.Transducer.Emitter

namespace LLMHub

open Transducer Transducer.Emitter

inductive LastMessagesType
  | none
  | text
  | tools
  | thinking
  deriving DecidableEq, Repr

structure ClaudeConvertInfo where
  lastMessagesType : LastMessagesType := .none
  index : Int := 0
  usage : Option Usage := none
  finishReason : String := ""
  done : Bool := false
  toolCallBaseIndex : Int := 0
  toolCallMaxIndexOffset : Int := 0
  deriving DecidableEq, Repr

structure ClaudeCacheCreationUsage where
  ephemeral5mInputTokens : Int
  ephemeral1hInputTokens : Int
  deriving DecidableEq, Repr

structure ClaudeUsage where
  inputTokens : Int
  outputTokens : Int
  cacheCreationInputTokens : Int := 0
  cacheReadInputTokens : Int := 0
  cacheCreation : Option ClaudeCacheCreationUsage := none
  deriving DecidableEq, Repr

inductive ContentBlock
  | text
  | thinking
  | toolUse (id name : String)
  deriving DecidableEq, Repr

inductive BlockDelta
  | text (text : Bytes)
  | thinking (thinking : Bytes)
  | inputJSON (partialJSON : Bytes)
  deriving DecidableEq, Repr

structure ClaudeMessage where
  id : String
  model : String
  type : String := "message"
  role : String := "assistant"
  usage : ClaudeUsage
  deriving DecidableEq, Repr

inductive ClaudeResponse
  | messageStart (message : ClaudeMessage)
  | contentBlockStart (index : Int) (contentBlock : ContentBlock)
  | contentBlockDelta (index : Int) (delta : BlockDelta)
  | contentBlockStop (index : Int)
  | messageDelta (usage : Option ClaudeUsage) (stopReason : String)
  | messageStop
  deriving DecidableEq, Repr

def generateStopBlock (index : Int) : ClaudeResponse := .contentBlockStop index

/-- Text and thinking have one open block; tool calls may stream in parallel,
so each of their blocks is stopped. -/
def stopOpenBlocks (state : ClaudeConvertInfo) : List ClaudeResponse :=
  match state.lastMessagesType with
  | .text | .thinking => [generateStopBlock state.index]
  | .tools => (List.range (state.toolCallMaxIndexOffset + 1).toNat).map fun offset : Nat =>
      generateStopBlock (state.toolCallBaseIndex + offset)
  | .none => []

def normalizeCacheCreationSplit (totalTokens tokens5m tokens1h : Int) : Int × Int :=
  let remainder := max (Go.int64 (Go.int64 (totalTokens - tokens5m) - tokens1h)) 0
  (Go.int64 (tokens5m + remainder), tokens1h)

def buildClaudeUsageFromOpenAIUsage : Option Usage → Option ClaudeUsage
  | none => none
  | some oaiUsage =>
    let details := oaiUsage.promptTokensDetails
    let (cacheCreation5m, cacheCreation1h) := normalizeCacheCreationSplit details.cachedCreationTokens
      oaiUsage.claudeCacheCreation5mTokens oaiUsage.claudeCacheCreation1hTokens
    let cacheCreationTokens := details.cacheCreationTokensTotal
    let inputTokens :=
      if details.cacheWriteTokens > 0 then
        max (Go.int64 (Go.int64 (oaiUsage.promptTokens - details.cachedTokens) - cacheCreationTokens)) 0
      else oaiUsage.promptTokens
    some {
      inputTokens := inputTokens
      outputTokens := oaiUsage.completionTokens
      cacheCreationInputTokens := cacheCreationTokens
      cacheReadInputTokens := details.cachedTokens
      cacheCreation := if cacheCreation5m > 0 ∨ cacheCreation1h > 0 then some ⟨cacheCreation5m, cacheCreation1h⟩ else none }

def openAIFinishReasonToClaudeStopReason (finishReason : String) : String :=
  match Go.toLower finishReason with
  | "stop" => "end_turn"
  | "stop_sequence" => "stop_sequence"
  | "length" | "max_tokens" => "max_tokens"
  | "content_filter" => "refusal"
  | "tool_calls" => "tool_use"
  | _ => finishReason

def stopReasonOpenAI2Claude (reason : String) : String := openAIFinishReasonToClaudeStopReason reason

namespace ClaudeConvertInfo

def appendStopOpenBlocks : Emitter ClaudeConvertInfo ClaudeResponse := fun state => (state, stopOpenBlocks state)

def advanced (state : ClaudeConvertInfo) : ClaudeConvertInfo :=
  match state.lastMessagesType with
  | .tools => { state with
      index := state.toolCallBaseIndex + state.toolCallMaxIndexOffset + 1
      toolCallBaseIndex := 0
      toolCallMaxIndexOffset := 0
      lastMessagesType := .none }
  | _ => { state with index := state.index + 1, lastMessagesType := .none }

def stopOpenBlocksAndAdvance : Emitter ClaudeConvertInfo ClaudeResponse := fun state =>
  if state.lastMessagesType = .none then (state, []) else (state.advanced, stopOpenBlocks state)

def endMessage (usage : Option Usage) (stopReason : String) : Emitter ClaudeConvertInfo ClaudeResponse := fun state =>
  ({ state with done := true }, [.messageDelta (buildClaudeUsageFromOpenAIUsage usage) stopReason, .messageStop])

/-- The stop reason once no finish chunk is awaited any more. -/
def stopReasonOrEndTurn (state : ClaudeConvertInfo) : String :=
  let stopReason := stopReasonOpenAI2Claude state.finishReason
  if stopReason = "" then "end_turn" else stopReason

/-- Block 0 for the first tool call of the first chunk. -/
def startToolCall (toolCall : ToolCallResponse) : Emitter ClaudeConvertInfo ClaudeResponse := fun state =>
  ({ state with lastMessagesType := .tools, toolCallBaseIndex := 0, toolCallMaxIndexOffset := 0 },
    .contentBlockStart 0 (.toolUse toolCall.id toolCall.function.name) ::
      if toolCall.function.arguments = [] then [] else [.contentBlockDelta 0 (.inputJSON toolCall.function.arguments)])

/-- The piece, unless messages of this type are open. -/
def unlessType (type : LastMessagesType) (piece : Emitter ClaudeConvertInfo ClaudeResponse) :
    Emitter ClaudeConvertInfo ClaudeResponse := fun state =>
  if state.lastMessagesType ≠ type then piece state else (state, [])

def openBlock (block : ContentBlock) : Emitter ClaudeConvertInfo ClaudeResponse := fun state =>
  (state, [.contentBlockStart state.index block])

def sendDelta (type : LastMessagesType) (delta : BlockDelta) : Emitter ClaudeConvertInfo ClaudeResponse := fun state =>
  ({ state with lastMessagesType := type }, [.contentBlockDelta state.index delta])

/-- A block that the first chunk opens with its first delta. -/
def startBlock (type : LastMessagesType) (block : ContentBlock) (delta : BlockDelta) :
    Emitter ClaudeConvertInfo ClaudeResponse :=
  andThen (unlessType type stopOpenBlocksAndAdvance) (andThen (openBlock block) (sendDelta type delta))

/-- A delta of a later chunk, in the open block when it has the same type. -/
def forwardDelta (type : LastMessagesType) (block : ContentBlock) (delta : BlockDelta) :
    Emitter ClaudeConvertInfo ClaudeResponse :=
  andThen (unlessType type (andThen stopOpenBlocksAndAdvance (openBlock block))) (sendDelta type delta)

def forwardReasoning (reasoning : Bytes) := forwardDelta .thinking .thinking (.thinking reasoning)

def forwardText (textContent : Bytes) := forwardDelta .text .text (.text textContent)

/-- Where a tool call stands among the tool blocks: at its index, or else at its place in the chunk. -/
def toolOffset (toolCall : ToolCallResponse) (i : Nat) : Int := toolCall.index.getD i

def toolCallEvents (base : Int) (toolCall : ToolCallResponse) (i : Nat) : List ClaudeResponse :=
  let idx := base + toolOffset toolCall i
  (if toolCall.function.name = "" then [] else [.contentBlockStart idx (.toolUse toolCall.id toolCall.function.name)]) ++
    if toolCall.function.arguments = [] then [] else [.contentBlockDelta idx (.inputJSON toolCall.function.arguments)]

/-- Tool blocks start at the next free index. -/
def enterTools : Emitter ClaudeConvertInfo ClaudeResponse :=
  unlessType .tools (andThen stopOpenBlocksAndAdvance
    (modify fun state => { state with toolCallBaseIndex := state.index, toolCallMaxIndexOffset := 0 }))

def placeToolCalls (toolCalls : List ToolCallResponse) : Emitter ClaudeConvertInfo ClaudeResponse := fun state =>
  let base := state.toolCallBaseIndex
  let maxOffset := toolCalls.zipIdx.foldl (fun maxOffset (toolCall, i) => max maxOffset (toolOffset toolCall i))
    state.toolCallMaxIndexOffset
  ({ state with lastMessagesType := .tools, toolCallMaxIndexOffset := maxOffset, index := base + maxOffset },
    toolCalls.zipIdx.flatMap fun (toolCall, i) => toolCallEvents base toolCall i)

def forwardToolCalls (toolCalls : List ToolCallResponse) : Emitter ClaudeConvertInfo ClaudeResponse :=
  andThen enterTools (placeToolCalls toolCalls)

end ClaudeConvertInfo

open ClaudeConvertInfo

/-- A finish reason without usage ends nothing yet: the terminal events wait for the usage. -/
def finishFirstChoice (finishReason : Option String) (usage : Option Usage) : Emitter ClaudeConvertInfo ClaudeResponse :=
  fun state => match finishReason with
  | some reason =>
    if reason = "" then (state, []) else
    let state := { state with finishReason := reason }
    match usage.or state.usage with
    | none => (state, [])
    | some oaiUsage => andThen appendStopOpenBlocks (endMessage (some oaiUsage) (stopReasonOpenAI2Claude reason)) state
  | none => (state, [])

/-- Some upstreams send content in the first chunk already. -/
def firstText (delta : ChatCompletionsStreamResponseChoiceDelta) : Emitter ClaudeConvertInfo ClaudeResponse :=
  let reasoning := delta.getReasoningContent
  let content := delta.getContentString
  if reasoning ≠ [] then startBlock .thinking .thinking (.thinking reasoning)
  else if content ≠ [] then startBlock .text .text (.text content)
  else emit []

/-- The first tool call of the first chunk, and its text. -/
def firstPayload (delta : ChatCompletionsStreamResponseChoiceDelta) : Emitter ClaudeConvertInfo ClaudeResponse :=
  andThen (match delta.toolCalls with
    | toolCall :: _ => startToolCall toolCall
    | [] => emit []) (firstText delta)

/-- What the first chunk says, after `message_start`. -/
def firstChoice (choice : ChatCompletionsStreamResponseChoice) (usage : Option Usage) :
    Emitter ClaudeConvertInfo ClaudeResponse :=
  andThen (firstPayload choice.delta) (finishFirstChoice choice.finishReason usage)

/-- Some upstreams end with a chunk that has no choice and only the usage. -/
def usageOnlyChunk (usage : Option Usage) : Emitter ClaudeConvertInfo ClaudeResponse := fun state =>
  match usage.or state.usage with
  | none => (state, [])
  | some oaiUsage => andThen appendStopOpenBlocks (endMessage (some oaiUsage) state.stopReasonOrEndTurn) state

/-- The payload of a chunk after the first: its tool calls, or its reasoning, or its text. -/
def forwardChoice (delta : ChatCompletionsStreamResponseChoiceDelta) : Emitter ClaudeConvertInfo ClaudeResponse :=
  if delta.toolCalls ≠ [] then forwardToolCalls delta.toolCalls
  else if delta.getReasoningContent ≠ [] then forwardReasoning delta.getReasoningContent
  else if delta.getContentString ≠ [] then forwardText delta.getContentString
  else emit []

def laterChoice (choice : ChatCompletionsStreamResponseChoice) (usage : Option Usage) :
    Emitter ClaudeConvertInfo ClaudeResponse := fun state =>
  match choice.finishReason with
  | some reason =>
    if reason = "" then forwardChoice choice.delta state else
    let state := { state with finishReason := reason }
    match usage with
    -- the finish chunk returns here, whatever else it carries and whatever usage the state has
    | none => (state, [])
    | some oaiUsage =>
      andThen (forwardChoice choice.delta) (andThen appendStopOpenBlocks
        (endMessage (some oaiUsage) (stopReasonOpenAI2Claude reason))) state
  | none => forwardChoice choice.delta state

/-- What the converter reads of the relay session. -/
structure Meta where
  estimatePromptTokens : Int := 0
  sendResponseCount : Nat := 0
  claudeConvertInfo : ClaudeConvertInfo := {}
  deriving DecidableEq, Repr

def firstChunk (estimatePromptTokens : Int) (openAIResponse : ChatCompletionsStreamResponse) :
    Emitter ClaudeConvertInfo ClaudeResponse :=
  let message : ClaudeMessage := {
    id := openAIResponse.id
    model := openAIResponse.model
    usage := { inputTokens := estimatePromptTokens, outputTokens := 0 } }
  andThen (emit [.messageStart message]) (match openAIResponse.choices with
    | choice :: _ => firstChoice choice openAIResponse.usage
    | [] => emit [])

def laterChunk (openAIResponse : ChatCompletionsStreamResponse) : Emitter ClaudeConvertInfo ClaudeResponse :=
  match openAIResponse.choices with
  | [] => usageOnlyChunk openAIResponse.usage
  | choice :: _ => laterChoice choice openAIResponse.usage

/-- What a chunk after the first can do. -/
inductive LaterChunk (chunk : ChatCompletionsStreamResponse) (state : ClaudeConvertInfo) :
    ClaudeConvertInfo × List ClaudeResponse → Prop
  | nothing (empty : chunk.Empty) : LaterChunk chunk state (state, [])
  | usageOnly (empty : chunk.Empty) (usage : Option Usage) (stopReason : String) :
      LaterChunk chunk state (appendStopOpenBlocks.andThen (endMessage usage stopReason) state)
  | forwards : LaterChunk chunk state (forwardChoice chunk.delta state)
  | waits (finished : chunk.isFinished) (noUsage : chunk.usage = none) (reason : String) :
      LaterChunk chunk state ({ state with finishReason := reason }, [])
  | finishes (usage : Option Usage) (reason stopReason : String) :
      LaterChunk chunk state ((forwardChoice chunk.delta).andThen (appendStopOpenBlocks.andThen (endMessage usage stopReason))
        { state with finishReason := reason })

theorem laterChunk_cases (chunk : ChatCompletionsStreamResponse) (state : ClaudeConvertInfo) :
    LaterChunk chunk state (laterChunk chunk state) := by
  unfold laterChunk
  cases choices : chunk.choices with
  | nil =>
    have empty := ChatCompletionsStreamResponse.empty_of_choices choices
    dsimp only [usageOnlyChunk]
    cases chunk.usage.or state.usage with
    | none => exact .nothing empty
    | some oaiUsage => exact .usageOnly empty _ _
  | cons choice others =>
    have delta : choice.delta = chunk.delta := by simp [ChatCompletionsStreamResponse.delta, choices]
    dsimp only [laterChoice]
    rw [delta]
    cases finish : choice.finishReason with
    | none => exact .forwards
    | some reason =>
      dsimp only
      by_cases blank : reason = ""
      · rw [if_pos blank]
        exact .forwards
      · rw [if_neg blank]
        cases usage : chunk.usage with
        | none =>
          have finished : chunk.isFinished := by
            simp [ChatCompletionsStreamResponse.isFinished, choices, ChatCompletionsStreamResponseChoice.finished, finish, blank]
          exact .waits finished usage reason
        | some oaiUsage => exact .finishes _ reason _

def streamResponseOpenAI2Claude (openAIResponse : ChatCompletionsStreamResponse) (info : Meta) :
    ClaudeConvertInfo × List ClaudeResponse :=
  let state := info.claudeConvertInfo
  if state.done then (state, [])
  else if info.sendResponseCount = 1 then firstChunk info.estimatePromptTokens openAIResponse state
  else laterChunk openAIResponse state

def finalizeStreamResponseOpenAI2Claude : Emitter ClaudeConvertInfo ClaudeResponse := fun state =>
  if state.done then (state, []) else
  andThen appendStopOpenBlocks (endMessage state.usage state.stopReasonOrEndTurn) state

namespace Meta

/-- One chunk of the upstream; the session counts it before it is converted. -/
def convertChunk (chunk : ChatCompletionsStreamResponse) : Emitter Meta ClaudeResponse := fun info =>
  let info := { info with sendResponseCount := info.sendResponseCount + 1 }
  let sent := streamResponseOpenAI2Claude chunk info
  ({ info with claudeConvertInfo := sent.1 }, sent.2)

def finalize : Emitter Meta ClaudeResponse := fun info =>
  let sent := finalizeStreamResponseOpenAI2Claude info.claudeConvertInfo
  ({ info with claudeConvertInfo := sent.1 }, sent.2)

def claudeEvents (info : Meta) (chunks : List ChatCompletionsStreamResponse) : List ClaudeResponse :=
  (andThen (forEach convertChunk chunks) finalize info).2

end Meta

end LLMHub
