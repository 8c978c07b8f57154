import Mathlib.Data.String.Basic
import LLMHub.Go.Entries
import LLMHub.Go.Strings
import LLMHub.RelayConvert.ChatAccumulator

namespace LLMHub

open Go

structure ResponsesOutputContent where
  type : String
  text : Bytes

/-- An output item. `arguments` are the arguments in the string form of a chat call. -/
structure ResponsesOutput where
  type : String
  id : String := ""
  callId : String := ""
  name : String := ""
  role : String := ""
  content : List ResponsesOutputContent := []
  arguments : Bytes := []

structure OpenAIResponsesResponse where
  id : String := ""
  model : String := ""
  createdAt : Int := 0
  status : String := ""
  incompleteReason : String := ""
  output : List ResponsesOutput := []

/-- The stream events, those with the same handling under one name. -/
inductive ResponsesEventType
  | created
  | reasoningDelta
  | reasoningDone
  | outputTextDelta
  | outputItem
  | toolInputDelta
  | toolInputDone
  | completed
  | incomplete
  | failed (name : String)
  | other

structure ResponsesStreamResponse where
  type : ResponsesEventType := .other
  response : Option OpenAIResponsesResponse := none
  item : Option ResponsesOutput := none
  itemId : String := ""
  outputIndex : Option Int := none
  delta : Bytes := []

def isResponsesToolOutputType (outputType : String) : Bool :=
  outputType = "function_call" || outputType = "custom_tool_call"

def responsesFinishReasonFromStatus (resp : Option OpenAIResponsesResponse) : Option String :=
  match resp with
  | none => none
  | some resp =>
    if trimSpace resp.status ≠ "incomplete" then none
    else if trimSpace resp.incompleteReason = "content_filter" then some "content_filter"
    else some "length"

/-- A tool call in the stream. Its index is its place among the tools. -/
structure ResponsesStreamTool where
  key : String
  callId : String := ""
  itemId : String := ""
  name : String := ""
  arguments : Bytes := []
  sent : Bool := false
  nameSent : Bool := false
  argsSentAt : Nat := 0

structure ResponsesToChatStreamState where
  id : String := ""
  model : String := ""
  created : Int := 0
  sentStart : Bool := false
  finalized : Bool := false
  hasSentText : Bool := false
  sawToolCall : Bool := false
  hasSentReasoning : Bool := false
  needsReasoningSummaryBreak : Bool := false
  tools : List ResponsesStreamTool := []
  toolByKey : List (String × Nat) := []
  outputIndexToKey : List (Int × String) := []
  itemIdToKey : List (String × String) := []
  callIdToKey : List (String × String) := []
  pendingArgsByOutputIndex : List (Int × Bytes) := []
  pendingArgsByItemId : List (String × Bytes) := []

namespace ResponsesToChatStreamState

def applyResponseMetadata (s : ResponsesToChatStreamState) : Option OpenAIResponsesResponse → ResponsesToChatStreamState
  | none => s
  | some response =>
    { s with
      id := if response.id ≠ "" ∧ s.id = "" then response.id else s.id
      model := if response.model ≠ "" then response.model else s.model
      created := if response.createdAt ≠ 0 then response.createdAt else s.created }

def makeChunk (s : ResponsesToChatStreamState) (delta : ChatCompletionsStreamResponseChoiceDelta)
    (finishReason : Option String) : ChatCompletionsStreamResponse :=
  { id := s.id, created := s.created, model := s.model, choices := [{ delta, finishReason }] }

def ensureStart (s : ResponsesToChatStreamState) : List ChatCompletionsStreamResponse × ResponsesToChatStreamState :=
  if s.sentStart then ([], s)
  else ([s.makeChunk { role := "assistant", content := some [] } none], { s with sentStart := true })

def send (s : ResponsesToChatStreamState) (delta : ChatCompletionsStreamResponseChoiceDelta) :
    List ChatCompletionsStreamResponse × ResponsesToChatStreamState :=
  let started := s.ensureStart
  (started.1 ++ [started.2.makeChunk delta none], started.2)

def textDelta (s : ResponsesToChatStreamState) (delta : Bytes) :
    List ChatCompletionsStreamResponse × ResponsesToChatStreamState :=
  if delta = [] then ([], s) else { s with hasSentText := true }.send { content := some delta }

def reasoningDelta (s : ResponsesToChatStreamState) (delta : Bytes) :
    List ChatCompletionsStreamResponse × ResponsesToChatStreamState :=
  if delta = [] then ([], s)
  else
    -- a blank line between two summaries
    let delta :=
      if !s.needsReasoningSummaryBreak then delta
      else if [10, 10].isPrefixOf delta then delta
      else if [10].isPrefixOf delta then 10 :: delta
      else 10 :: 10 :: delta
    { s with needsReasoningSummaryBreak := false, hasSentReasoning := true }.send { reasoningContent := some delta }

def update (s : ResponsesToChatStreamState) (i : Nat) (f : ResponsesStreamTool → ResponsesStreamTool) :
    ResponsesToChatStreamState :=
  { s with tools := s.tools.modify i f }

def toolDelta (s : ResponsesToChatStreamState) (i : Nat) (explicitDelta : Bytes) :
    List ChatCompletionsStreamResponse × ResponsesToChatStreamState :=
  match s.tools[i]? with
  | none => ([], s)
  | some tool =>
    let argsDelta := if explicitDelta = [] then tool.arguments.drop tool.argsSentAt else explicitDelta
    if tool.sent ∧ argsDelta = [] ∧ (tool.name = "" ∨ tool.nameSent) then ([], s)
    else
      let callId := if trimSpace tool.callId = "" then tool.key else trimSpace tool.callId
      let name := if tool.nameSent then "" else tool.name
      { s.update i fun tool =>
          { tool with
            nameSent := tool.nameSent || decide (tool.name ≠ ""), sent := true,
            argsSentAt := tool.argsSentAt + argsDelta.length } with sawToolCall := true }.send
        { toolCalls := [{ index := some i, id := callId, function := { name, arguments := argsDelta } }] }

def keyForEvent (event : ResponsesStreamResponse) : String :=
  match event.outputIndex, event.item with
  | some outputIndex, _ => "output:" ++ toString outputIndex
  | none, some item =>
    if trimSpace item.id ≠ "" then "item:" ++ trimSpace item.id
    else if trimSpace item.callId ≠ "" then "call:" ++ trimSpace item.callId
    else if trimSpace event.itemId ≠ "" then "item:" ++ trimSpace event.itemId
    else ""
  | none, none => if trimSpace event.itemId ≠ "" then "item:" ++ trimSpace event.itemId else ""

def responseStreamEventItemID (event : ResponsesStreamResponse) : String :=
  match event.item with
  | some item => if trimSpace item.id ≠ "" then trimSpace item.id else trimSpace event.itemId
  | none => trimSpace event.itemId

def newTool (s : ResponsesToChatStreamState) (key callId : String) : Nat × ResponsesToChatStreamState :=
  (s.tools.length,
    { s with tools := s.tools ++ [{ key := key, callId := callId }], toolByKey := put s.toolByKey key s.tools.length })

/-- The tool of a key, one known by its item or call id, or a new one. -/
def toolForKey (s : ResponsesToChatStreamState) (key itemId callId : String) : Nat × ResponsesToChatStreamState :=
  match s.toolByKey.lookup key with
  | some i => (i, s)
  | none =>
    let aliased := ((s.itemIdToKey.lookup itemId).bind fun known => s.toolByKey.lookup known) <|>
      (s.callIdToKey.lookup callId).bind fun known => s.toolByKey.lookup known
    match aliased with
    | some i => (i, { s with toolByKey := put s.toolByKey key i })
    | none => s.newTool key ""

/-- Arguments that came before their tool are added to it. -/
def claimPending (s : ResponsesToChatStreamState) (i : Nat) (key : String) (outputIndex : Option Int) (itemId : String) :
    ResponsesToChatStreamState :=
  let s := match outputIndex with
    | none => s
    | some o =>
      { s.update i fun tool => { tool with arguments := tool.arguments ++ (s.pendingArgsByOutputIndex.lookup o).getD [] } with
        outputIndexToKey := put s.outputIndexToKey o key
        pendingArgsByOutputIndex := s.pendingArgsByOutputIndex.filter fun entry => entry.1 ≠ o }
  if itemId = "" then s
  else
    { s.update i fun tool =>
        { tool with itemId := itemId, arguments := tool.arguments ++ (s.pendingArgsByItemId.lookup itemId).getD [] } with
      itemIdToKey := put s.itemIdToKey itemId key
      pendingArgsByItemId := s.pendingArgsByItemId.filter fun entry => entry.1 ≠ itemId }

def ensureToolForEvent (s : ResponsesToChatStreamState) (event : ResponsesStreamResponse) (item : ResponsesOutput) :
    Option Nat × ResponsesToChatStreamState :=
  let key := keyForEvent event
  if key = "" then (none, s)
  else
    let itemId := responseStreamEventItemID event
    let callId := trimSpace item.callId
    let found := s.toolForKey key itemId callId
    let s := found.2.claimPending found.1 key event.outputIndex itemId
    let s := if callId = "" then s else { s with callIdToKey := put s.callIdToKey callId key }
    (some found.1, s.update found.1 fun tool =>
      { tool with
        callId := if callId ≠ "" then callId else if tool.callId = "" then trimSpace item.id else tool.callId
        name := if trimSpace item.name ≠ "" then trimSpace item.name else tool.name })

def toolItem (s : ResponsesToChatStreamState) (event : ResponsesStreamResponse) (item : ResponsesOutput) :
    List ChatCompletionsStreamResponse × ResponsesToChatStreamState :=
  match s.ensureToolForEvent event item with
  | (none, s) => ([], s)
  | (some i, s) =>
    (s.update i fun tool => { tool with arguments := if item.arguments ≠ [] then item.arguments else tool.arguments }).toolDelta
      i []

def findToolForEvent (s : ResponsesToChatStreamState) (event : ResponsesStreamResponse) : Option Nat :=
  match event.outputIndex.bind fun o => s.outputIndexToKey.lookup o with
  | some key => s.toolByKey.lookup key
  | none =>
    match s.itemIdToKey.lookup (trimSpace event.itemId) with
    | some key => s.toolByKey.lookup key
    | none => if event.item.isSome ∧ keyForEvent event ≠ "" then s.toolByKey.lookup (keyForEvent event) else none

def addPending {κ : Type} [DecidableEq κ] (entries : List (κ × Bytes)) (key : κ) (delta : Bytes) : List (κ × Bytes) :=
  put entries key ((entries.lookup key).getD [] ++ delta)

def toolArgumentsDelta (s : ResponsesToChatStreamState) (event : ResponsesStreamResponse) :
    List ChatCompletionsStreamResponse × ResponsesToChatStreamState :=
  if event.delta = [] then ([], s)
  else match s.findToolForEvent event, event.outputIndex with
    | some i, _ => (s.update i fun tool => { tool with arguments := tool.arguments ++ event.delta }).toolDelta i event.delta
    | none, some o => ([], { s with pendingArgsByOutputIndex := addPending s.pendingArgsByOutputIndex o event.delta })
    | none, none =>
      if trimSpace event.itemId = "" then ([], s)
      else ([], { s with pendingArgsByItemId := addPending s.pendingArgsByItemId (trimSpace event.itemId) event.delta })

def ensureFallbackToolForEvent (s : ResponsesToChatStreamState) (event : ResponsesStreamResponse) :
    Option Nat × ResponsesToChatStreamState :=
  let key := keyForEvent { event with item := none }
  if key = "" then (none, s)
  else
    let callId :=
      if trimSpace event.itemId ≠ "" then trimSpace event.itemId
      else (event.outputIndex.map fun o => "call_output_" ++ toString o).getD ""
    let found := match s.toolByKey.lookup key with
      | some i => (i, s)
      | none => s.newTool key callId
    (some found.1, found.2.claimPending found.1 key event.outputIndex (responseStreamEventItemID event))

def flushPendingTool (s : ResponsesToChatStreamState) (event : ResponsesStreamResponse) :
    List ChatCompletionsStreamResponse × ResponsesToChatStreamState :=
  match s.findToolForEvent event with
  | some i => s.toolDelta i []
  | none => match s.ensureFallbackToolForEvent event with
    | (some i, s) => s.toolDelta i []
    | (none, s) => ([], s)

/-- Each part of a run after the one before it, with all chunks. -/
def sequence {α : Type} (part : ResponsesToChatStreamState → α → List ChatCompletionsStreamResponse × ResponsesToChatStreamState) :
    ResponsesToChatStreamState → List α → List ChatCompletionsStreamResponse × ResponsesToChatStreamState
  | s, [] => ([], s)
  | s, first :: rest =>
    let done := part s first
    let more := sequence part done.2 rest
    (done.1 ++ more.1, more.2)


end ResponsesToChatStreamState

namespace ResponsesOutput

def messageText (out : ResponsesOutput) : Bytes :=
  (out.content.filter fun content => content.type = "output_text").flatMap ResponsesOutputContent.text

def allText (out : ResponsesOutput) : Bytes := out.content.flatMap ResponsesOutputContent.text

end ResponsesOutput

namespace ResponsesToChatStreamState

def terminalOutputChunk (s : ResponsesToChatStreamState) (out : ResponsesOutput) :
    List ChatCompletionsStreamResponse × ResponsesToChatStreamState :=
  if out.type = "message" ∧ !s.hasSentText then s.textDelta out.messageText
  else if out.type = "reasoning" ∧ !s.hasSentReasoning then s.reasoningDelta out.allText
  else if isResponsesToolOutputType out.type then s.toolItem { item := some out } out
  else ([], s)

def terminalOutputChunks (s : ResponsesToChatStreamState) (response : Option OpenAIResponsesResponse) :
    List ChatCompletionsStreamResponse × ResponsesToChatStreamState :=
  s.sequence terminalOutputChunk ((response.map OpenAIResponsesResponse.output).getD [])

/-- A tool, known or not, with what is still pending for its key. -/
def flushKey (s : ResponsesToChatStreamState) (key : String) :
    List ChatCompletionsStreamResponse × ResponsesToChatStreamState :=
  let found := match s.toolByKey.lookup key with
    | some i => (i, s)
    | none =>
      s.newTool key (if startsWith key "output:" then "call_output_" ++ String.ofList (key.toList.drop 7)
        else String.ofList (key.toList.drop 5))
  let pending (entries : List (String × Bytes)) := (entries.lookup key).getD []
  let byOutputIndex := s.pendingArgsByOutputIndex.map fun entry => ("output:" ++ toString entry.1, entry.2)
  let byItemId := s.pendingArgsByItemId.map fun entry => ("item:" ++ entry.1, entry.2)
  let s :=
    { found.2.update found.1 fun tool =>
        { tool with arguments := tool.arguments ++ pending byOutputIndex ++ pending byItemId } with
      pendingArgsByOutputIndex := s.pendingArgsByOutputIndex.filter fun entry => "output:" ++ toString entry.1 ≠ key
      pendingArgsByItemId := s.pendingArgsByItemId.filter fun entry => "item:" ++ entry.1 ≠ key }
  s.toolDelta found.1 []

def flushAllPendingTools (s : ResponsesToChatStreamState) :
    List ChatCompletionsStreamResponse × ResponsesToChatStreamState :=
  let keys := (s.toolByKey.map Prod.fst ++ s.pendingArgsByOutputIndex.map (fun entry => "output:" ++ toString entry.1) ++
    s.pendingArgsByItemId.map fun entry => "item:" ++ entry.1).dedup
  s.sequence flushKey (keys.mergeSort fun a b => decide (a ≤ b))

def finalize (s : ResponsesToChatStreamState) (response : Option OpenAIResponsesResponse) :
    List ChatCompletionsStreamResponse × ResponsesToChatStreamState :=
  if s.finalized then ([], s)
  else
    let flushed := { s with finalized := true }.flushAllPendingTools
    let started := flushed.2.ensureStart
    let finishReason := (responsesFinishReasonFromStatus response).getD (if started.2.sawToolCall then "tool_calls" else "stop")
    (flushed.1 ++ started.1 ++ [started.2.makeChunk {} (some finishReason)], started.2)

end ResponsesToChatStreamState

def ensureIncompleteResponse (resp : Option OpenAIResponsesResponse) : OpenAIResponsesResponse :=
  let resp := resp.getD {}
  if resp.status = "" then { resp with status := "incomplete" } else resp

def responsesStreamEventToChatChunks (event : ResponsesStreamResponse) (state : ResponsesToChatStreamState) :
    Except String (List ChatCompletionsStreamResponse × ResponsesToChatStreamState) :=
  let terminal (response : Option OpenAIResponsesResponse) :=
    let sent := (state.applyResponseMetadata response).terminalOutputChunks response
    let finished := sent.2.finalize response
    .ok (sent.1 ++ finished.1, finished.2)
  match event.type with
  | .created => .ok (state.applyResponseMetadata event.response).ensureStart
  | .reasoningDelta => .ok (state.reasoningDelta event.delta)
  | .reasoningDone => .ok ([], { state with
      needsReasoningSummaryBreak := state.needsReasoningSummaryBreak || state.hasSentReasoning })
  | .outputTextDelta => .ok (state.textDelta event.delta)
  | .outputItem =>
    match event.item with
    | some item => .ok (if isResponsesToolOutputType item.type then state.toolItem event item else ([], state))
    | none => .ok ([], state)
  | .toolInputDelta => .ok (state.toolArgumentsDelta event)
  | .toolInputDone => .ok (state.flushPendingTool event)
  | .completed => terminal event.response
  | .incomplete => terminal (some (ensureIncompleteResponse event.response))
  | .failed name => .error ("responses stream error: " ++ name)
  | .other => .ok ([], state)

/-- The chunks of a stream, up to its first error. -/
def responsesStreamToChatChunks :
    List ResponsesStreamResponse → ResponsesToChatStreamState → Except String (List ChatCompletionsStreamResponse)
  | [], _ => .ok []
  | event :: rest, state => do
    let step ← responsesStreamEventToChatChunks event state
    let more ← responsesStreamToChatChunks rest step.2
    return step.1 ++ more

/-- The chat completion of a whole response. -/
structure ChatCompletion where
  content : Bytes
  reasoningContent : Bytes
  toolCalls : List ToolCallResponse
  finishReason : String

def extractOutputTextFromResponses (resp : OpenAIResponsesResponse) : Bytes :=
  let assistant := (resp.output.filter fun out => out.type = "message" ∧ (out.role = "" ∨ out.role = "assistant")).flatMap
    ResponsesOutput.messageText
  if assistant ≠ [] then assistant else resp.output.flatMap ResponsesOutput.allText

def extractReasoningTextFromResponses (resp : OpenAIResponsesResponse) : Bytes :=
  (resp.output.filter fun out => out.type = "reasoning").flatMap ResponsesOutput.allText

def responsesToolCall (out : ResponsesOutput) : Option ToolCallResponse :=
  if !isResponsesToolOutputType out.type then none
  else if trimSpace out.name = "" then none
  else some
    { id := if trimSpace out.callId = "" then trimSpace out.id else trimSpace out.callId
      function := { name := trimSpace out.name, arguments := out.arguments } }

def responsesResponseToChatCompletionsResponse (resp : OpenAIResponsesResponse) : ChatCompletion :=
  let toolCalls := resp.output.filterMap responsesToolCall
  { content := extractOutputTextFromResponses resp
    reasoningContent := extractReasoningTextFromResponses resp
    toolCalls
    finishReason := (responsesFinishReasonFromStatus (some resp)).getD (if toolCalls ≠ [] then "tool_calls" else "stop") }

end LLMHub
