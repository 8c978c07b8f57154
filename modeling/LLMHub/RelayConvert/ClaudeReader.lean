import LLMHub.RelayConvert.ChatToClaude
import Mathlib.Data.List.Nodup

namespace LLMHub

open Transducer Transducer.Emitter

inductive BlockKind
  | text
  | thinking
  | toolUse
  deriving DecidableEq, Repr

def ContentBlock.kind : ContentBlock → BlockKind
  | .text => .text
  | .thinking => .thinking
  | .toolUse .. => .toolUse

def BlockDelta.kind : BlockDelta → BlockKind
  | .text _ => .text
  | .thinking _ => .thinking
  | .inputJSON _ => .toolUse

/-- A client that reads a Claude stream: before the message, inside it with
the next block index and the blocks that are open, between `message_delta`
and `message_stop`, and after the message. -/
inductive ClaudeReader
  | begin
  | message (next : Int) (opened : List (Int × BlockKind))
  | ending
  | finished
  deriving DecidableEq, Repr

/-- The event grammar. Blocks start in the order of their indexes, a delta
belongs to an open block of its type, a stop closes an open block, and the
message ends once, with every block closed. -/
def ClaudeReader.read : ClaudeReader → ClaudeResponse → Option ClaudeReader
  | .begin, .messageStart _ => some (.message 0 [])
  | .message next opened, .contentBlockStart index block =>
    if index = next then some (.message (next + 1) (opened ++ [(index, block.kind)])) else none
  | .message next opened, .contentBlockDelta index delta =>
    if (index, delta.kind) ∈ opened then some (.message next opened) else none
  | .message next opened, .contentBlockStop index =>
    if index ∈ opened.map Prod.fst then some (.message next (opened.filter (·.1 ≠ index))) else none
  | .message _ [], .messageDelta .. => some .ending
  | .ending, .messageStop => some .finished
  | _, _ => none

/-- The events are one whole message. -/
def WellFormedMessage (events : List ClaudeResponse) : Prop := events.foldlM ClaudeReader.read .begin = some .finished

instance (events : List ClaudeResponse) : Decidable (WellFormedMessage events) := inferInstanceAs (Decidable (_ = _))

/-- Stopping the open blocks in order closes them all. -/
theorem ClaudeReader.read_stops (next : Int) (opened : List (Int × BlockKind)) (distinct : (opened.map Prod.fst).Nodup) :
    (opened.map fun block => generateStopBlock block.1).foldlM read (.message next opened) = some (.message next []) := by
  induction opened with
  | nil => rfl
  | cons block rest ih =>
    rw [List.map_cons, List.nodup_cons] at distinct
    have others : (block :: rest).filter (·.1 ≠ block.1) = rest := by
      rw [List.filter_cons_of_neg (by simp), List.filter_eq_self]
      intro other member
      have : other.1 ≠ block.1 := fun same => distinct.1 (same ▸ List.mem_map_of_mem member)
      simpa using this
    have first : read (.message next (block :: rest)) (generateStopBlock block.1) = some (.message next rest) := by
      simp only [read, generateStopBlock, List.map_cons, List.mem_cons, true_or, if_true, others]
    rw [List.map_cons, List.foldlM_cons, first]
    exact ih distinct.2

theorem list_of_length_le_one {α : Type} {items : List α} (single : items.length ≤ 1) : items = [] ∨ ∃ item, items = [item] := by
  match items, single with
  | [], _ => exact .inl rfl
  | [item], _ => exact .inr ⟨item, rfl⟩

namespace ClaudeConvertInfo

variable {state : ClaudeConvertInfo}

/-- The blocks that the converter holds open. -/
def openBlocks (state : ClaudeConvertInfo) : List (Int × BlockKind) :=
  match state.lastMessagesType with
  | .none => []
  | .text => [(state.index, .text)]
  | .thinking => [(state.index, .thinking)]
  | .tools => (List.range (state.toolCallMaxIndexOffset + 1).toNat).map fun offset : Nat =>
      (state.toolCallBaseIndex + offset, .toolUse)

def nextIndex (state : ClaudeConvertInfo) : Int :=
  match state.lastMessagesType with
  | .none => state.index
  | .text | .thinking => state.index + 1
  | .tools => state.toolCallBaseIndex + state.toolCallMaxIndexOffset + 1

/-- Where the client is once it has read what the converter sent. -/
def reader (state : ClaudeConvertInfo) : ClaudeReader :=
  if state.done then .finished else .message state.nextIndex state.openBlocks

/-- The client follows the converter over what this piece of it sends. -/
def Read (piece : Emitter ClaudeConvertInfo ClaudeResponse) (state : ClaudeConvertInfo) : Prop :=
  (piece state).2.foldlM ClaudeReader.read state.reader = some (piece state).1.reader

theorem Read.andThen {first next : Emitter ClaudeConvertInfo ClaudeResponse} (reads : Read first state)
    (continues : Read next (first state).1) : Read (first.andThen next) state := by
  unfold Read at *
  rw [andThen_snd, List.foldlM_append, reads]
  exact continues

theorem openBlocks_distinct (state : ClaudeConvertInfo) : (state.openBlocks.map Prod.fst).Nodup := by
  unfold openBlocks
  cases state.lastMessagesType with
  | none => exact List.nodup_nil
  | text => simp
  | thinking => simp
  | tools =>
    rw [List.map_map]
    refine List.Nodup.map (fun first second same => ?_) List.nodup_range
    simp only [Function.comp_apply] at same
    omega

theorem stopOpenBlocks_eq (state : ClaudeConvertInfo) :
    stopOpenBlocks state = state.openBlocks.map fun block => generateStopBlock block.1 := by
  unfold stopOpenBlocks openBlocks
  cases state.lastMessagesType <;> simp

theorem stopOpenBlocks_read (next : Int) (state : ClaudeConvertInfo) :
    (stopOpenBlocks state).foldlM ClaudeReader.read (.message next state.openBlocks) = some (.message next []) := by
  rw [stopOpenBlocks_eq]
  exact ClaudeReader.read_stops next state.openBlocks state.openBlocks_distinct

theorem reader_of_not_done (running : state.done = false) : state.reader = .message state.nextIndex state.openBlocks := by
  simp [reader, running]

/-- After the open blocks were stopped the next block has the next index. -/
theorem stopOpenBlocksAndAdvance_state (state : ClaudeConvertInfo) :
    (stopOpenBlocksAndAdvance state).1.lastMessagesType = .none ∧
      (stopOpenBlocksAndAdvance state).1.index = state.nextIndex ∧ (stopOpenBlocksAndAdvance state).1.done = state.done := by
  unfold stopOpenBlocksAndAdvance advanced nextIndex
  cases mode : state.lastMessagesType <;> simp [mode]

theorem stopOpenBlocksAndAdvance_sends (state : ClaudeConvertInfo) :
    (stopOpenBlocksAndAdvance state).2 = stopOpenBlocks state := by
  unfold stopOpenBlocksAndAdvance stopOpenBlocks
  cases mode : state.lastMessagesType <;> simp

theorem read_stopOpenBlocksAndAdvance (running : state.done = false) : Read stopOpenBlocksAndAdvance state := by
  obtain ⟨mode, index, done⟩ := stopOpenBlocksAndAdvance_state state
  unfold Read
  rw [stopOpenBlocksAndAdvance_sends, reader_of_not_done running, stopOpenBlocks_read,
    reader_of_not_done (done.trans running)]
  simp only [nextIndex, openBlocks, mode, index]

/-- The type of message and the type of block go together. -/
inductive Streams : LastMessagesType → BlockKind → Prop
  | text : Streams .text .text
  | thinking : Streams .thinking .thinking

variable {type : LastMessagesType} {delta : BlockDelta} {block : ContentBlock}

theorem Streams.reader {kind : BlockKind} (streams : Streams type kind)
    (mode : state.lastMessagesType = type) (running : state.done = false) :
    state.reader = .message (state.index + 1) [(state.index, kind)] := by
  rw [reader_of_not_done running]
  cases streams <;> simp only [nextIndex, openBlocks, mode]

theorem reader_of_none (mode : state.lastMessagesType = .none) (running : state.done = false) :
    state.reader = .message state.index [] := by
  rw [reader_of_not_done running]
  simp only [nextIndex, openBlocks, mode]

theorem unlessType_same (piece : Emitter ClaudeConvertInfo ClaudeResponse)
    (mode : state.lastMessagesType = type) : unlessType type piece state = (state, []) := if_neg (not_not_intro mode)

theorem unlessType_other (piece : Emitter ClaudeConvertInfo ClaudeResponse)
    (mode : state.lastMessagesType ≠ type) : unlessType type piece state = piece state := if_pos mode

theorem Streams.sendDelta (streams : Streams type delta.kind)
    (mode : state.lastMessagesType = type) (running : state.done = false) : Read (sendDelta type delta) state := by
  have same : (ClaudeConvertInfo.sendDelta type delta state).1 = state := by rw [← mode]; rfl
  unfold Read
  rw [same, streams.reader mode running]
  simp [ClaudeConvertInfo.sendDelta, ClaudeReader.read]

/-- The open blocks are stopped, and the next block starts with its first delta. -/
theorem Streams.openNext
    (streams : Streams type delta.kind) (kinds : block.kind = delta.kind) (running : state.done = false) :
    Read (stopOpenBlocksAndAdvance.andThen ((openBlock block).andThen (ClaudeConvertInfo.sendDelta type delta))) state := by
  obtain ⟨mode, index, done⟩ := stopOpenBlocksAndAdvance_state state
  refine (read_stopOpenBlocksAndAdvance running).andThen ?_
  obtain ⟨closed, is⟩ : ∃ closed, closed = (stopOpenBlocksAndAdvance state).1 := ⟨_, rfl⟩
  rw [← is] at mode done ⊢
  have reopened : (ClaudeConvertInfo.sendDelta type delta closed).1.reader = .message (closed.index + 1) [(closed.index, delta.kind)] :=
    streams.reader rfl (done.trans running)
  unfold Read
  rw [reader_of_none mode (done.trans running), andThen_fst, andThen_snd]
  simp only [openBlock, reopened]
  simp [ClaudeConvertInfo.sendDelta, ClaudeReader.read, kinds]

theorem Streams.startBlock
    (streams : Streams type delta.kind) (kinds : block.kind = delta.kind) (other : state.lastMessagesType ≠ type)
    (running : state.done = false) : Read (startBlock type block delta) state := by
  have started := streams.openNext kinds running
  unfold Read ClaudeConvertInfo.startBlock at *
  rw [andThen_fst, andThen_snd, unlessType_other _ other]
  exact started

theorem Streams.forwardDelta
    (streams : Streams type delta.kind) (kinds : block.kind = delta.kind) (running : state.done = false) :
    Read (forwardDelta type block delta) state := by
  unfold ClaudeConvertInfo.forwardDelta
  by_cases mode : state.lastMessagesType = type
  · unfold Read
    rw [andThen_fst, andThen_snd, unlessType_same _ mode]
    exact streams.sendDelta mode running
  · have started := streams.openNext kinds running
    unfold Read at *
    rw [andThen_fst, andThen_snd, unlessType_other _ mode]
    rw [andThen_fst, andThen_snd] at started ⊢
    rw [List.append_assoc]
    exact started

/-- The terminal events close what is open. -/
theorem read_endMessage (usage : Option Usage) (stopReason : String) (running : state.done = false) :
    Read (appendStopOpenBlocks.andThen (endMessage usage stopReason)) state := by
  unfold Read
  rw [andThen_snd, List.foldlM_append, reader_of_not_done running]
  simp only [appendStopOpenBlocks, stopOpenBlocks_read]
  rfl

theorem forwardDelta_state (type : LastMessagesType) (block : ContentBlock) (delta : BlockDelta) (state : ClaudeConvertInfo) :
    (forwardDelta type block delta state).1.lastMessagesType = type ∧
      (forwardDelta type block delta state).1.done = state.done := by
  unfold forwardDelta
  by_cases mode : state.lastMessagesType = type
  · rw [andThen_fst, unlessType_same _ mode]
    exact ⟨rfl, rfl⟩
  · rw [andThen_fst, unlessType_other _ mode]
    exact ⟨rfl, (stopOpenBlocksAndAdvance_state state).2.2⟩

theorem startBlock_state (type : LastMessagesType) (block : ContentBlock) (delta : BlockDelta) (state : ClaudeConvertInfo) :
    (startBlock type block delta state).1.lastMessagesType = type ∧ (startBlock type block delta state).1.done = state.done := by
  unfold startBlock
  by_cases mode : state.lastMessagesType = type
  · rw [andThen_fst, unlessType_same _ mode]
    exact ⟨rfl, rfl⟩
  · rw [andThen_fst, unlessType_other _ mode]
    exact ⟨rfl, (stopOpenBlocksAndAdvance_state state).2.2⟩

theorem forwardChoice_eq (chunk : ChatCompletionsStreamResponse) :
    forwardChoice chunk.delta =
      if chunk.toolCalls ≠ [] then forwardToolCalls chunk.toolCalls
      else if chunk.reasoning ≠ [] then forwardReasoning chunk.reasoning
      else if chunk.content ≠ [] then forwardText chunk.content
      else emit [] := rfl

theorem firstText_eq (chunk : ChatCompletionsStreamResponse) :
    firstText chunk.delta =
      if chunk.reasoning ≠ [] then startBlock .thinking .thinking (.thinking chunk.reasoning)
      else if chunk.content ≠ [] then startBlock .text .text (.text chunk.content)
      else emit [] := rfl

end ClaudeConvertInfo

end LLMHub
