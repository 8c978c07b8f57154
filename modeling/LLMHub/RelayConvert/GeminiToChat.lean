import LLMHub.Go.JsonTree
import LLMHub.RelayConvert.ChatAccumulator

namespace LLMHub

open Go

structure GeminiInlineData where
  mimeType : String
  data : String

structure GeminiFunctionCall where
  functionName : String
  arguments : Json

structure GeminiPartExecutableCode where
  language : String
  code : String

/-- A part of a Gemini answer, with the fields the conversion reads. -/
structure GeminiPart where
  text : String := ""
  thought : Bool := false
  inlineData : Option GeminiInlineData := none
  functionCall : Option GeminiFunctionCall := none
  executableCode : Option GeminiPartExecutableCode := none
  codeExecutionResult : Option String := none

structure GeminiChatCandidate where
  parts : List GeminiPart
  finishReason : Option String := none
  index : Int := 0

structure GeminiChatResponse where
  candidates : List GeminiChatCandidate

def utf8 (s : String) : Bytes := s.toUTF8.toList

namespace GeminiPart

/-- The function call of a function-call part. A part with inline data is an image. -/
def call? (part : GeminiPart) : Option GeminiFunctionCall :=
  if part.inlineData.isSome then none else part.functionCall

/-- The text a part adds to the content. -/
def piece (part : GeminiPart) : Option String :=
  match part.inlineData, part.functionCall with
  | some data, _ =>
    if startsWith data.mimeType "image" then some ("![image](data:" ++ data.mimeType ++ ";base64," ++ data.data ++ ")")
    else none
  | none, some _ => none
  | none, none =>
    if part.thought then some part.text
    else match part.executableCode, part.codeExecutionResult with
      | some code, _ => some ("```" ++ code.language ++ "\n" ++ code.code ++ "\n```\n")
      | none, some output => some ("```output\n" ++ output ++ "\n```\n")
      | none, none => if part.text ≠ "\n" then some part.text else none

/-- A thought, unless the part is an image or a function call. -/
def isThought (part : GeminiPart) : Bool :=
  part.inlineData.isNone && part.functionCall.isNone && part.thought

end GeminiPart

namespace GeminiChatCandidate

def calls (candidate : GeminiChatCandidate) : List GeminiFunctionCall := candidate.parts.filterMap GeminiPart.call?

end GeminiChatCandidate

section
-- JSON text of the arguments, and the ids drawn for the calls of a chunk.
variable (marshal : Json → Bytes) (callId : Nat → String)

def geminiResponseToolCall (index : Nat) (call : GeminiFunctionCall) : ToolCallResponse :=
  { index := some index, id := "call_" ++ callId index,
    function := { name := call.functionName, arguments := marshal call.arguments } }

/-- The finish reason of a candidate, before its function calls are looked at. A plain
stop is reported apart. -/
def geminiFinishReason : Option String → Option String
  | none | some "STOP" => none
  | some "MAX_TOKENS" => some "length"
  | some _ => some "content_filter"

def geminiChoice (candidate : GeminiChatCandidate) : ChatCompletionsStreamResponseChoice :=
  let content := utf8 ("\n".intercalate (candidate.parts.filterMap GeminiPart.piece))
  let toolCalls := candidate.calls.mapIdx (geminiResponseToolCall marshal callId)
  { index := candidate.index
    delta :=
      if candidate.parts.any GeminiPart.isThought then { reasoningContent := some content, toolCalls }
      else { content := some content, toolCalls }
    finishReason := if candidate.calls ≠ [] then some "tool_calls" else geminiFinishReason candidate.finishReason }

def streamResponseGeminiChat2OpenAI (geminiResponse : GeminiChatResponse) : ChatCompletionsStreamResponse × Bool :=
  ({ choices := geminiResponse.candidates.map (geminiChoice marshal callId) },
    geminiResponse.candidates.any fun candidate => candidate.finishReason = some "STOP")

structure GeminiToChatStreamState where
  id : String
  created : Int
  sawToolCall : Bool := false
  finishEmitted : Bool := false
  latestUsage : Option Usage := none

namespace GeminiToChatStreamState

def terminalChunk (s : GeminiToChatStreamState) (model : String) :
    ChatCompletionsStreamResponse × GeminiToChatStreamState :=
  ({ id := s.id, created := s.created, model := model, usage := s.latestUsage,
     choices := [{ finishReason := some (if s.sawToolCall then "tool_calls" else "stop") }] },
    { s with finishEmitted := true })

def isToolCall (response : ChatCompletionsStreamResponse) : Bool :=
  response.choices.head?.any fun choice => !choice.delta.toolCalls.isEmpty

def convertChunk (s : GeminiToChatStreamState) (geminiResponse : GeminiChatResponse) (model : String)
    (usage : Option Usage) : List ChatCompletionsStreamResponse × GeminiToChatStreamState :=
  let hasNonStopFinish := geminiResponse.candidates.any fun candidate =>
    candidate.finishReason.any fun reason => reason ≠ "" ∧ reason ≠ "STOP"
  let (response, isStop) := streamResponseGeminiChat2OpenAI marshal callId geminiResponse
  let response := { response with id := s.id, created := s.created, model := model, usage := usage }
  let toolCall := isToolCall response
  -- a function call does not end the stream by itself
  let response :=
    if toolCall && !hasNonStopFinish then
      { response with choices := response.choices.map fun choice =>
          if choice.finishReason = some "tool_calls" then { choice with finishReason := none } else choice }
    else response
  let s := { s with sawToolCall := s.sawToolCall || toolCall, latestUsage := usage <|> s.latestUsage }
  let s := { s with finishEmitted := s.finishEmitted || response.choices.any fun choice => choice.finished }
  if isStop && !s.finishEmitted then ([response, (s.terminalChunk model).1], (s.terminalChunk model).2)
  else ([response], s)

def finalize (s : GeminiToChatStreamState) (model : String) : List ChatCompletionsStreamResponse :=
  if s.finishEmitted then [] else [(s.terminalChunk model).1]

end GeminiToChatStreamState

end

/-- A response as it arrives, with the usage reported so far and the ids drawn for its calls. -/
structure GeminiArrival where
  response : GeminiChatResponse
  usage : Option Usage
  callId : Nat → String

def GeminiToChatStreamState.convertStream (marshal : Json → Bytes) (model : String) :
    GeminiToChatStreamState → List GeminiArrival → List ChatCompletionsStreamResponse
  | s, [] => s.finalize model
  | s, arrival :: rest =>
    let converted := s.convertChunk marshal arrival.callId arrival.response model arrival.usage
    converted.1 ++ converted.2.convertStream marshal model rest

open GeminiToChatStreamState (convertStream convertChunk isToolCall finalize terminalChunk)

/-- A response with one candidate. -/
structure GeminiTurn where
  candidate : GeminiChatCandidate
  usage : Option Usage := none
  callId : Nat → String

def GeminiTurn.arrival (turn : GeminiTurn) : GeminiArrival := ⟨⟨[turn.candidate]⟩, turn.usage, turn.callId⟩

/-- A stream of single-candidate responses with the finish reason on the last one. -/
structure GeminiStream where
  turns : List GeminiTurn
  last : GeminiTurn
  reason : String
  unfinished : ∀ turn ∈ turns, turn.candidate.finishReason = none
  finished : last.candidate.finishReason = some reason

namespace GeminiStream

def all (stream : GeminiStream) : List GeminiTurn := stream.turns ++ [stream.last]

def calls (stream : GeminiStream) : List GeminiFunctionCall := stream.all.flatMap fun turn => turn.candidate.calls

end GeminiStream

/-- One tool call for each function call, in order and with its name and arguments, and
one finish reason, which tells of the calls if there are any. -/
structure KeepsFunctionCalls (marshal : Json → Bytes) (made : List GeminiFunctionCall) (message : AccumulatedMessage) : Prop where
  calls : (message.calls.map fun call => (call.name, call.arguments)) =
    made.map fun call => (call.functionName, marshal call.arguments)
  finish : ∃ reason, message.finishReasons = [reason] ∧ (made ≠ [] → reason = "tool_calls")

section
variable (marshal : Json → Bytes)

def GeminiTurn.deltas (turn : GeminiTurn) : List ToolCallResponse :=
  turn.candidate.calls.mapIdx (geminiResponseToolCall marshal turn.callId)

/-- The indexes start anew with every response, so they differ only if one response has all calls. -/
theorem indexes_nodup_iff (turns : List GeminiTurn) :
    ((turns.flatMap (GeminiTurn.deltas marshal)).map fun delta => delta.index.getD 0).Nodup ↔
      turns.Pairwise fun a b => a.candidate.calls = [] ∨ b.candidate.calls = [] := by
  have indexes (turn : GeminiTurn) : ((turn.deltas marshal).map fun delta => delta.index.getD 0) =
      (List.range turn.candidate.calls.length).map Int.ofNat := by
    apply List.ext_getElem
    · simp [GeminiTurn.deltas]
    · intro i _ _
      simp [GeminiTurn.deltas, geminiResponseToolCall]
  rw [List.map_flatMap]
  simp only [indexes]
  rw [List.nodup_flatMap]
  constructor
  · rintro ⟨-, disjoint⟩
    refine disjoint.imp fun {a b} apart => ?_
    by_contra both
    rw [not_or, ← ne_eq, ← ne_eq, ← List.length_pos_iff, ← List.length_pos_iff] at both
    have first : (0 : Int) ∈ (List.range a.candidate.calls.length).map Int.ofNat :=
      List.mem_map.mpr ⟨0, List.mem_range.mpr both.1, rfl⟩
    have second : (0 : Int) ∈ (List.range b.candidate.calls.length).map Int.ofNat :=
      List.mem_map.mpr ⟨0, List.mem_range.mpr both.2, rfl⟩
    exact apart first second
  · intro single
    refine ⟨fun turn _ => List.nodup_range.map fun _ _ same => Int.ofNat.inj same, single.imp fun {a b} none => ?_⟩
    rcases none with none | none
    · simp [Function.onFun, none]
    · simp [Function.onFun, none]

theorem accumulated_calls_iff (turns : List GeminiTurn) :
    ((accumulateCalls (turns.flatMap (GeminiTurn.deltas marshal))).map fun call => (call.name, call.arguments)) =
        ((turns.flatMap fun turn => turn.candidate.calls).map fun call => (call.functionName, marshal call.arguments)) ↔
      turns.Pairwise fun a b => a.candidate.calls = [] ∨ b.candidate.calls = [] := by
  rw [← indexes_nodup_iff marshal]
  have read : (turns.flatMap (GeminiTurn.deltas marshal)).map (fun delta => (delta.function.name, delta.function.arguments)) =
      (turns.flatMap fun turn => turn.candidate.calls).map fun call => (call.functionName, marshal call.arguments) := by
    rw [List.map_flatMap, List.map_flatMap]
    refine List.flatMap_congr fun turn _ => ?_
    apply List.ext_getElem
    · simp [GeminiTurn.deltas]
    · intro i _ _
      simp [GeminiTurn.deltas, geminiResponseToolCall]
  constructor
  · intro same
    have counted := foldl_accumulateCall_length_iff (turns.flatMap (GeminiTurn.deltas marshal)) []
    refine (counted.mp ?_).1
    have lengths := congrArg List.length (same.trans read.symm)
    simpa [accumulateCalls] using lengths
  · intro distinct
    rw [accumulateCalls, foldl_accumulateCall_distinct distinct (by simp), ← read]
    simp [AccumulatedCall.begin]

end

section
variable {marshal : Json → Bytes} {model : String} {s : GeminiToChatStreamState} {turn : GeminiTurn}

/-- The finish reason of a stream, where `saw` says whether a call came before the last response. -/
def streamFinish (saw : Bool) (candidate : GeminiChatCandidate) (reason : String) : String :=
  if candidate.calls ≠ [] ∨ (reason = "STOP" ∧ saw = true) then "tool_calls"
  else if reason = "STOP" then "stop"
  else if reason = "MAX_TOKENS" then "length"
  else "content_filter"

theorem geminiChoice_toolCalls (turn : GeminiTurn) :
    (geminiChoice marshal turn.callId turn.candidate).delta.toolCalls = turn.deltas marshal := by
  unfold geminiChoice
  dsimp only
  split_ifs <;> rfl

theorem deltas_eq_nil_iff : turn.deltas marshal = [] ↔ turn.candidate.calls = [] := by
  simp [GeminiTurn.deltas]

/-- A response without a finish reason gives one chunk with its calls, and no finish reason. -/
theorem convertChunk_unfinished (unfinished : turn.candidate.finishReason = none) :
    ∃ chunk next, s.convertChunk marshal turn.callId turn.arrival.response model turn.usage = ([chunk], next) ∧
      (chunk.choices.flatMap fun choice => choice.delta.toolCalls) = turn.deltas marshal ∧
      chunk.choices.filterMap ChatCompletionsStreamResponseChoice.finishReason = [] ∧
      next.finishEmitted = s.finishEmitted ∧
      next.sawToolCall = (s.sawToolCall || decide (turn.candidate.calls ≠ [])) := by
  have finish : (geminiChoice marshal turn.callId turn.candidate).finishReason =
      if turn.candidate.calls ≠ [] then some "tool_calls" else none := by
    simp only [geminiChoice, unfinished, geminiFinishReason]
  by_cases callless : turn.candidate.calls = []
  · have noDeltas : turn.deltas marshal = [] := deltas_eq_nil_iff.mpr callless
    simp [convertChunk, GeminiTurn.arrival, streamResponseGeminiChat2OpenAI, unfinished,
      isToolCall, geminiChoice_toolCalls, noDeltas, finish, callless, ChatCompletionsStreamResponseChoice.finished]
  · have deltas : turn.deltas marshal ≠ [] := deltas_eq_nil_iff.not.mpr callless
    simp [convertChunk, GeminiTurn.arrival, streamResponseGeminiChat2OpenAI, unfinished,
      isToolCall, geminiChoice_toolCalls, deltas, finish, callless, ChatCompletionsStreamResponseChoice.finished]

/-- The last response and what is sent after it: its calls, and the one finish reason. -/
theorem convertChunk_last {reason : String} (finished : turn.candidate.finishReason = some reason)
    (pending : s.finishEmitted = false) :
    let out := s.convertStream marshal model [turn.arrival]
    ((out.flatMap ChatCompletionsStreamResponse.choices).flatMap fun choice => choice.delta.toolCalls) = turn.deltas marshal ∧
      (out.flatMap ChatCompletionsStreamResponse.choices).filterMap ChatCompletionsStreamResponseChoice.finishReason =
        [streamFinish s.sawToolCall turn.candidate reason] := by
  have finish : (geminiChoice marshal turn.callId turn.candidate).finishReason =
      if turn.candidate.calls ≠ [] then some "tool_calls" else geminiFinishReason (some reason) := by
    simp only [geminiChoice, finished]
  by_cases callless : turn.candidate.calls = []
  · have noDeltas : turn.deltas marshal = [] := deltas_eq_nil_iff.mpr callless
    by_cases stop : reason = "STOP"
    · subst stop
      simp [convertStream, convertChunk, GeminiTurn.arrival,
        streamResponseGeminiChat2OpenAI, finished, pending, isToolCall, geminiChoice_toolCalls,
        noDeltas, finish, callless, geminiFinishReason, finalize, streamFinish,
        terminalChunk, ChatCompletionsStreamResponseChoice.finished]
    · have other : geminiFinishReason (some reason) = some (streamFinish s.sawToolCall turn.candidate reason) := by
        simp only [geminiFinishReason, streamFinish, callless, stop]
        split <;> simp_all
      have filled : streamFinish s.sawToolCall turn.candidate reason ≠ "" := by
        unfold streamFinish
        split_ifs <;> simp
      simp [convertStream, convertChunk, GeminiTurn.arrival,
        streamResponseGeminiChat2OpenAI, finished, pending, isToolCall, geminiChoice_toolCalls,
        noDeltas, finish, callless, other, stop, filled, finalize, ChatCompletionsStreamResponseChoice.finished]
  · have deltas : turn.deltas marshal ≠ [] := deltas_eq_nil_iff.not.mpr callless
    have counted : streamFinish s.sawToolCall turn.candidate reason = "tool_calls" := if_pos (.inl callless)
    intro out
    rw [counted]
    -- a stop and an empty reason leave the finish reason to the terminal chunk
    by_cases stop : reason = "STOP"
    · simp [out, convertStream, convertChunk, GeminiTurn.arrival,
        streamResponseGeminiChat2OpenAI, finished, pending, isToolCall, geminiChoice_toolCalls,
        deltas, finish, callless, stop, finalize, terminalChunk, ChatCompletionsStreamResponseChoice.finished]
    · by_cases empty : reason = ""
      all_goals
        simp [out, convertStream, convertChunk, GeminiTurn.arrival,
          streamResponseGeminiChat2OpenAI, finished, pending, isToolCall,
          geminiChoice_toolCalls, deltas, finish, callless, stop, empty, finalize,
          terminalChunk, ChatCompletionsStreamResponseChoice.finished]

/-- A whole stream: the calls of every response, and the one finish reason of the last. -/
theorem convertStream_eq {turns : List GeminiTurn} (unfinished : ∀ turn ∈ turns, turn.candidate.finishReason = none)
    {reason : String} (finished : turn.candidate.finishReason = some reason) (pending : s.finishEmitted = false) :
    let out := s.convertStream marshal model ((turns ++ [turn]).map GeminiTurn.arrival)
    ((out.flatMap ChatCompletionsStreamResponse.choices).flatMap fun choice => choice.delta.toolCalls) =
        (turns ++ [turn]).flatMap (GeminiTurn.deltas marshal) ∧
      (out.flatMap ChatCompletionsStreamResponse.choices).filterMap ChatCompletionsStreamResponseChoice.finishReason =
        [streamFinish (s.sawToolCall || turns.any fun turn => decide (turn.candidate.calls ≠ [])) turn.candidate reason] := by
  induction turns generalizing s with
  | nil =>
    obtain ⟨calls, finish⟩ := @convertChunk_last marshal model s turn reason finished pending
    simpa using ⟨calls, finish⟩
  | cons first rest ih =>
    obtain ⟨unfinishedFirst, unfinishedRest⟩ := List.forall_mem_cons.mp unfinished
    obtain ⟨chunk, next, converted, calls, finish, emitted, saw⟩ :=
      @convertChunk_unfinished marshal model s first unfinishedFirst
    obtain ⟨callsRest, finishRest⟩ := ih unfinishedRest (emitted.trans pending)
    have run : s.convertStream marshal model ((first :: rest ++ [turn]).map GeminiTurn.arrival) =
        chunk :: next.convertStream marshal model ((rest ++ [turn]).map GeminiTurn.arrival) := by
      rw [List.cons_append, List.map_cons, convertStream]
      exact congrArg (fun out => out.1 ++ out.2.convertStream marshal model ((rest ++ [turn]).map GeminiTurn.arrival)) converted
    intro out
    rw [show out = _ from run, List.flatMap_cons, List.flatMap_append, List.filterMap_append, calls, finish, callsRest,
      finishRest, saw]
    simp [Bool.or_assoc]

end

theorem streamFinish_eq_iff (saw : Bool) (candidate : GeminiChatCandidate) (reason : String) :
    streamFinish saw candidate reason = "tool_calls" ↔ candidate.calls ≠ [] ∨ (reason = "STOP" ∧ saw = true) := by
  unfold streamFinish
  split_ifs <;> simp_all

/-- A stream of single-candidate responses keeps every function call and ends with one
finish reason that tells of the calls, exactly if one response has all the calls, and the
stream ends with a stop or with those calls where there are any. -/
theorem gemini_stream_keeps_calls_iff (marshal : Json → Bytes) (model id : String) (created : Int) (stream : GeminiStream) :
    KeepsFunctionCalls marshal stream.calls (accumulate
        (convertStream marshal model { id, created } (stream.all.map GeminiTurn.arrival))) ↔
      (stream.all.Pairwise fun a b => a.candidate.calls = [] ∨ b.candidate.calls = []) ∧
        (stream.calls = [] ∨ stream.reason = "STOP" ∨ stream.last.candidate.calls ≠ []) := by
  obtain ⟨calls, finish⟩ := @convertStream_eq marshal model { id, created } stream.last stream.turns
    stream.unfinished stream.reason stream.finished rfl
  rw [← accumulated_calls_iff marshal stream.all]
  have told : (stream.calls ≠ [] → streamFinish (false || stream.turns.any fun turn => decide (turn.candidate.calls ≠ []))
        stream.last.candidate stream.reason = "tool_calls") ↔
      stream.calls = [] ∨ stream.reason = "STOP" ∨ stream.last.candidate.calls ≠ [] := by
    rw [streamFinish_eq_iff]
    simp only [GeminiStream.calls, GeminiStream.all, List.flatMap_append, List.flatMap_singleton, Bool.false_or,
      List.any_eq_true, decide_eq_true_eq, ne_eq, List.append_eq_nil_iff, List.flatMap_eq_nil_iff]
    grind
  constructor
  · rintro ⟨kept, reason, emitted, counted⟩
    refine ⟨(congrArg _ (congrArg accumulateCalls calls).symm).trans kept, told.mp fun some_ => ?_⟩
    rw [← counted some_]
    exact List.singleton_inj.mp (finish.symm.trans emitted)
  · rintro ⟨kept, counted⟩
    exact ⟨(congrArg _ (congrArg accumulateCalls calls)).trans kept, _, finish, told.mpr counted⟩

/-- Two calls, one in each of two responses. -/
def twoChunks : GeminiStream where
  turns := [{ candidate := { parts := [{ functionCall := some ⟨"weather", .str "Paris"⟩ }] }, callId := fun _ => "a" }]
  last :=
    { candidate := { parts := [{ functionCall := some ⟨"weather", .str "Rome"⟩ }], finishReason := some "STOP" },
      callId := fun _ => "b" }
  reason := "STOP"
  unfinished := by simp
  finished := rfl

/-- Both calls have index 0, so a client puts them together into one. -/
theorem two_chunks_one_call :
    (accumulate (convertStream (fun _ => [123, 125]) "gemini-2.5-pro" { id := "1", created := 1 }
        (twoChunks.all.map GeminiTurn.arrival))).calls = [⟨0, "call_b", "weather", [123, 125, 123, 125]⟩] ∧
      twoChunks.calls.length = 2 ∧
      ¬ KeepsFunctionCalls (fun _ => [123, 125]) twoChunks.calls (accumulate
        (convertStream (fun _ => [123, 125]) "gemini-2.5-pro" { id := "1", created := 1 }
          (twoChunks.all.map GeminiTurn.arrival))) := by
  have calls : (accumulate (convertStream (fun _ => [123, 125]) "gemini-2.5-pro"
      { id := "1", created := 1 } (twoChunks.all.map GeminiTurn.arrival))).calls =
        [⟨0, "call_b", "weather", [123, 125, 123, 125]⟩] := by
    decide +kernel
  refine ⟨calls, rfl, fun kept => ?_⟩
  have lengths := congrArg List.length kept.calls
  rw [calls] at lengths
  exact absurd lengths (by decide)

end LLMHub
