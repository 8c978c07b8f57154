import LLMHub.RelayConvert.ClaudeReader

namespace LLMHub

open Transducer Transducer.Emitter

namespace ClaudeResponse

def text : ClaudeResponse → Bytes
  | .contentBlockDelta _ (.text text) => text
  | _ => []

def thinking : ClaudeResponse → Bytes
  | .contentBlockDelta _ (.thinking thinking) => thinking
  | _ => []

def inputJSON (block : Int) : ClaudeResponse → Bytes
  | .contentBlockDelta index (.inputJSON partialJSON) => if index = block then partialJSON else []
  | _ => []

end ClaudeResponse

namespace ChatCompletionsStreamResponse

/-- The arguments that the chunk has for the tool, whose calls are told apart as the converter does. -/
def toolArguments (tool : Int) (chunk : ChatCompletionsStreamResponse) : Bytes :=
  chunk.toolCalls.zipIdx.flatMap fun (toolCall, i) =>
    if ClaudeConvertInfo.toolOffset toolCall i = tool then toolCall.function.arguments else []

/-- Nothing of the chunk belongs into a block. -/
structure Blank (chunk : ChatCompletionsStreamResponse) : Prop where
  content : chunk.content = []
  reasoning : chunk.reasoning = []
  toolCalls : ∀ toolCall ∈ chunk.toolCalls, toolCall.function.arguments = []

instance (chunk : ChatCompletionsStreamResponse) : Decidable chunk.Blank :=
  decidable_of_iff (chunk.content = [] ∧ chunk.reasoning = [] ∧ ∀ toolCall ∈ chunk.toolCalls, toolCall.function.arguments = [])
    ⟨fun ⟨content, reasoning, toolCalls⟩ => ⟨content, reasoning, toolCalls⟩,
      fun ⟨content, reasoning, toolCalls⟩ => ⟨content, reasoning, toolCalls⟩⟩

variable {chunk : ChatCompletionsStreamResponse}

theorem toolArguments_of_blank
    (blank : ∀ toolCall ∈ chunk.toolCalls, toolCall.function.arguments = []) (tool : Int) : chunk.toolArguments tool = [] := by
  unfold toolArguments
  rw [List.flatMap_eq_nil_iff]
  rintro ⟨toolCall, i⟩ member
  simp [blank toolCall (List.fst_mem_of_mem_zipIdx member)]

theorem toolArguments_of_none (no : chunk.toolCalls = []) (tool : Int) :
    chunk.toolArguments tool = [] := toolArguments_of_blank (by simp [no]) tool

theorem Empty.blank (empty : chunk.Empty) : chunk.Blank :=
  ⟨empty.content, empty.reasoning, by simp [empty.toolCalls]⟩

end ChatCompletionsStreamResponse

/-- The text, the thinking and the input of each tool block that the events
carry, where the tool blocks start at `base`. -/
structure Carries (events : List ClaudeResponse) (content reasoning : Bytes) (base : Int) (arguments : Int → Bytes) : Prop where
  text : events.flatMap ClaudeResponse.text = content
  thinking : events.flatMap ClaudeResponse.thinking = reasoning
  inputs : ∀ tool, events.flatMap (ClaudeResponse.inputJSON (base + tool)) = arguments tool

namespace Carries

variable {events events' : List ClaudeResponse} {content content' reasoning reasoning' : Bytes} {base : Int}
  {arguments arguments' : Int → Bytes}

theorem append (first : Carries events content reasoning base arguments)
    (next : Carries events' content' reasoning' base arguments') :
    Carries (events ++ events') (content ++ content') (reasoning ++ reasoning') base
      fun tool => arguments tool ++ arguments' tool := by
  refine ⟨?_, ?_, fun tool => ?_⟩
  · rw [List.flatMap_append, first.text, next.text]
  · rw [List.flatMap_append, first.thinking, next.thinking]
  · rw [List.flatMap_append, first.inputs tool, next.inputs tool]

/-- Events that carry no tool input fit tool blocks anywhere. -/
theorem rebase (carries : Carries events content reasoning base fun _ => []) (base' : Int) :
    Carries events content reasoning base' fun _ => [] := by
  refine ⟨carries.text, carries.thinking, fun tool => ?_⟩
  have same := carries.inputs (base' + tool - base)
  rwa [show base + (base' + tool - base) = base' + tool by omega] at same

theorem stopOpenBlocks (state : ClaudeConvertInfo) (base : Int) : Carries (stopOpenBlocks state) [] [] base fun _ => [] := by
  rw [state.stopOpenBlocks_eq]
  refine ⟨?_, ?_, fun tool => ?_⟩ <;>
  · rw [List.flatMap_map, List.flatMap_eq_nil_iff]
    exact fun block _ => rfl

theorem nothing (base : Int) : Carries [] [] [] base fun _ => [] := ⟨rfl, rfl, fun _ => rfl⟩

theorem flatMap {α : Type} {send : α → List ClaudeResponse} {sent : α → Int → Bytes} (items : List α)
    (each : ∀ item, Carries (send item) [] [] base (sent item)) :
    Carries (items.flatMap send) [] [] base fun tool => items.flatMap fun item => sent item tool := by
  induction items with
  | nil => exact nothing base
  | cons item rest ih => exact (each item).append ih

end Carries

namespace ClaudeConvertInfo

/-- The index of the first tool block, when tool calls come next. -/
def toolBase (state : ClaudeConvertInfo) : Int :=
  if state.lastMessagesType = .tools then state.toolCallBaseIndex else state.nextIndex

theorem carries_toolCallEvents (base : Int) (toolCall : ToolCallResponse) (i : Nat) :
    Carries (toolCallEvents base toolCall i) [] [] base fun tool =>
      if toolOffset toolCall i = tool then toolCall.function.arguments else [] := by
  have blocks (tool : Int) : base + toolOffset toolCall i = base + tool ↔ toolOffset toolCall i = tool := by omega
  by_cases named : toolCall.function.name = "" <;> by_cases silent : toolCall.function.arguments = [] <;>
    refine ⟨?_, ?_, fun tool => ?_⟩ <;>
    simp [toolCallEvents, named, silent, ClaudeResponse.text, ClaudeResponse.thinking, ClaudeResponse.inputJSON, blocks]

theorem carries_endMessage (usage : Option Usage) (stopReason : String) (state : ClaudeConvertInfo) (base : Int) :
    Carries ((appendStopOpenBlocks.andThen (endMessage usage stopReason)) state).2 [] [] base fun _ => [] :=
  (Carries.stopOpenBlocks state base).append ⟨rfl, rfl, fun _ => rfl⟩

theorem carries_stopOpenBlocksAndAdvance (state : ClaudeConvertInfo) (base : Int) :
    Carries (stopOpenBlocksAndAdvance state).2 [] [] base fun _ => [] := by
  rw [stopOpenBlocksAndAdvance_sends]
  exact Carries.stopOpenBlocks state base

/-- What a delta carries by itself. -/
structure CarriesDelta (delta : BlockDelta) (content reasoning : Bytes) : Prop where
  carries : ∀ index base, Carries [.contentBlockDelta index delta] content reasoning base fun _ => []

theorem CarriesDelta.text (content : Bytes) : CarriesDelta (.text content) content [] :=
  ⟨fun _ _ => ⟨List.append_nil content, rfl, fun _ => rfl⟩⟩

theorem CarriesDelta.thinking (reasoning : Bytes) : CarriesDelta (.thinking reasoning) [] reasoning :=
  ⟨fun _ _ => ⟨rfl, List.append_nil reasoning, fun _ => rfl⟩⟩

variable {type : LastMessagesType} {delta : BlockDelta} {content reasoning : Bytes}

theorem CarriesDelta.startBlock (carries : CarriesDelta delta content reasoning) (block : ContentBlock)
    (state : ClaudeConvertInfo) (base : Int) :
    Carries (startBlock type block delta state).2 content reasoning base fun _ => [] := by
  have opened (index : Int) : Carries [.contentBlockStart index block] [] [] base fun _ => [] := ⟨rfl, rfl, fun _ => rfl⟩
  unfold ClaudeConvertInfo.startBlock
  rw [andThen_snd, andThen_snd]
  by_cases mode : state.lastMessagesType = type
  · rw [unlessType_same _ mode]
    exact (opened _).append (carries.carries _ base)
  · rw [unlessType_other _ mode]
    exact (carries_stopOpenBlocksAndAdvance state base).append ((opened _).append (carries.carries _ base))

theorem CarriesDelta.forwardDelta (carries : CarriesDelta delta content reasoning) (block : ContentBlock)
    (state : ClaudeConvertInfo) (base : Int) :
    Carries (forwardDelta type block delta state).2 content reasoning base fun _ => [] := by
  have opened (index : Int) : Carries [.contentBlockStart index block] [] [] base fun _ => [] := ⟨rfl, rfl, fun _ => rfl⟩
  unfold ClaudeConvertInfo.forwardDelta
  rw [andThen_snd]
  by_cases mode : state.lastMessagesType = type
  · rw [unlessType_same _ mode]
    exact carries.carries _ base
  · rw [unlessType_other _ mode, andThen_snd]
    exact ((carries_stopOpenBlocksAndAdvance state base).append (opened _)).append (carries.carries _ base)

/-- Tool calls go to the tool blocks, from the next free index on when they open the phase. -/
theorem forwardToolCalls_state (toolCalls : List ToolCallResponse) (state : ClaudeConvertInfo) :
    (forwardToolCalls toolCalls state).1.lastMessagesType = .tools ∧
      (forwardToolCalls toolCalls state).1.toolCallBaseIndex = state.toolBase := by
  unfold forwardToolCalls enterTools toolBase
  by_cases mode : state.lastMessagesType = .tools
  · rw [andThen_fst, unlessType_same _ mode, if_pos mode]
    exact ⟨rfl, rfl⟩
  · rw [andThen_fst, unlessType_other _ mode, if_neg mode]
    exact ⟨rfl, (stopOpenBlocksAndAdvance_state state).2.1⟩

theorem carries_forwardToolCalls (toolCalls : List ToolCallResponse) (state : ClaudeConvertInfo) :
    Carries (forwardToolCalls toolCalls state).2 [] [] state.toolBase fun tool =>
      toolCalls.zipIdx.flatMap fun (toolCall, i) =>
        if toolOffset toolCall i = tool then toolCall.function.arguments else [] := by
  have placed (base : Int) := Carries.flatMap toolCalls.zipIdx
    (fun item : ToolCallResponse × Nat => carries_toolCallEvents base item.1 item.2)
  unfold forwardToolCalls enterTools toolBase
  by_cases mode : state.lastMessagesType = .tools
  · rw [andThen_snd, unlessType_same _ mode, if_pos mode]
    exact placed state.toolCallBaseIndex
  · rw [andThen_snd, unlessType_other _ mode, if_neg mode, andThen_snd, andThen_fst, modify_apply, List.append_nil,
      ← (stopOpenBlocksAndAdvance_state state).2.1]
    exact (carries_stopOpenBlocksAndAdvance state _).append (placed _)

end ClaudeConvertInfo

end LLMHub
