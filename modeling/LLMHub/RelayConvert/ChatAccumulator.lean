import Mathlib.Data.List.Nodup
import LLMHub.RelayConvert.ChatStream

namespace LLMHub

/-- A tool call as a client puts it together from its fragments. -/
structure AccumulatedCall where
  index : Int
  id : String
  name : String
  arguments : Bytes
  deriving DecidableEq, Repr

namespace AccumulatedCall

def begin (delta : ToolCallResponse) : AccumulatedCall :=
  ⟨delta.index.getD 0, delta.id, delta.function.name, delta.function.arguments⟩

/-- A further fragment: its arguments are appended, an id or a name it has is taken over. -/
def extend (call : AccumulatedCall) (delta : ToolCallResponse) : AccumulatedCall :=
  { call with
    id := if delta.id = "" then call.id else delta.id
    name := if delta.function.name = "" then call.name else delta.function.name
    arguments := call.arguments ++ delta.function.arguments }

end AccumulatedCall

/-- One fragment more: it goes to the call of its index. -/
def accumulateCall (calls : List AccumulatedCall) (delta : ToolCallResponse) : List AccumulatedCall :=
  if delta.index.getD 0 ∈ calls.map AccumulatedCall.index then
    calls.map fun call => if call.index = delta.index.getD 0 then call.extend delta else call
  else calls ++ [.begin delta]

def accumulateCalls (deltas : List ToolCallResponse) : List AccumulatedCall := deltas.foldl accumulateCall []

/-- What a client has after the chunks. -/
structure AccumulatedMessage where
  content : Bytes
  reasoning : Bytes
  calls : List AccumulatedCall
  finishReasons : List String
  deriving DecidableEq, Repr

def accumulate (chunks : List ChatCompletionsStreamResponse) : AccumulatedMessage :=
  let choices := chunks.flatMap ChatCompletionsStreamResponse.choices
  { content := choices.flatMap fun choice => choice.delta.getContentString
    reasoning := choices.flatMap fun choice => choice.delta.getReasoningContent
    calls := accumulateCalls (choices.flatMap fun choice => choice.delta.toolCalls)
    finishReasons := choices.filterMap ChatCompletionsStreamResponseChoice.finishReason }

section
variable {calls : List AccumulatedCall} {delta : ToolCallResponse}

theorem accumulateCall_fresh (fresh : delta.index.getD 0 ∉ calls.map AccumulatedCall.index) :
    accumulateCall calls delta = calls ++ [.begin delta] := if_neg fresh

theorem length_accumulateCall (calls : List AccumulatedCall) (delta : ToolCallResponse) :
    (accumulateCall calls delta).length ≤ calls.length + 1 := by
  unfold accumulateCall
  split_ifs <;> simp

theorem length_foldl_accumulateCall (deltas : List ToolCallResponse) (calls : List AccumulatedCall) :
    (deltas.foldl accumulateCall calls).length ≤ calls.length + deltas.length := by
  induction deltas generalizing calls with
  | nil => simp
  | cons delta rest ih =>
    have one := length_accumulateCall calls delta
    have more := ih (accumulateCall calls delta)
    rw [List.foldl_cons, List.length_cons]
    omega

/-- Every fragment begins a call exactly if no index comes twice. -/
theorem foldl_accumulateCall_length_iff (deltas : List ToolCallResponse) (calls : List AccumulatedCall) :
    (deltas.foldl accumulateCall calls).length = calls.length + deltas.length ↔
      (deltas.map fun delta => delta.index.getD 0).Nodup ∧
        ∀ delta ∈ deltas, delta.index.getD 0 ∉ calls.map AccumulatedCall.index := by
  induction deltas generalizing calls with
  | nil => simp
  | cons delta rest ih =>
    rw [List.foldl_cons, List.length_cons, List.map_cons, List.nodup_cons, List.forall_mem_cons]
    by_cases fresh : delta.index.getD 0 ∈ calls.map AccumulatedCall.index
    · have bound := length_foldl_accumulateCall rest (accumulateCall calls delta)
      have same : (accumulateCall calls delta).length = calls.length := by
        rw [accumulateCall, if_pos fresh, List.length_map]
      constructor
      · intro equal
        omega
      · exact fun ⟨_, absent, _⟩ => absurd fresh absent
    · have counted := ih (calls ++ [.begin delta])
      rw [List.length_append, List.length_singleton, Nat.add_assoc, Nat.add_comm 1] at counted
      rw [accumulateCall_fresh fresh, counted]
      simp only [List.map_append, List.map_cons, List.map_nil, List.mem_append, List.mem_singleton, not_or,
        AccumulatedCall.begin, List.mem_map, not_exists, not_and] at fresh ⊢
      grind

/-- Fragments with different indexes are complete calls. -/
theorem foldl_accumulateCall_distinct {deltas : List ToolCallResponse}
    (distinct : (deltas.map fun delta => delta.index.getD 0).Nodup)
    (fresh : ∀ delta ∈ deltas, delta.index.getD 0 ∉ calls.map AccumulatedCall.index) :
    deltas.foldl accumulateCall calls = calls ++ deltas.map .begin := by
  induction deltas generalizing calls with
  | nil => simp
  | cons delta rest ih =>
    obtain ⟨new, distinctRest⟩ := List.nodup_cons.mp distinct
    obtain ⟨freshFirst, freshRest⟩ := List.forall_mem_cons.mp fresh
    rw [List.foldl_cons, accumulateCall_fresh freshFirst, ih distinctRest, List.map_cons, List.append_assoc]
    · rfl
    · intro other member
      rw [List.map_append, List.mem_append, not_or]
      refine ⟨freshRest other member, fun same => new ?_⟩
      exact List.mem_map.mpr ⟨other, member, List.mem_singleton.mp same⟩

/-- Fragments of arguments extend the call begun last. -/
theorem foldl_accumulateCall_fragments {last : AccumulatedCall} {fragments : List ToolCallResponse}
    (fresh : last.index ∉ calls.map AccumulatedCall.index)
    (indexed : ∀ fragment ∈ fragments, fragment.index.getD 0 = last.index ∧ fragment.id = "" ∧ fragment.function.name = "") :
    fragments.foldl accumulateCall (calls ++ [last]) =
      calls ++ [{ last with arguments := last.arguments ++ fragments.flatMap fun fragment => fragment.function.arguments }] := by
  induction fragments generalizing last with
  | nil => simp
  | cons fragment rest ih =>
    obtain ⟨⟨index, id, name⟩, indexedRest⟩ := List.forall_mem_cons.mp indexed
    have others : (calls.map fun call => if call.index = fragment.index.getD 0 then call.extend fragment else call) = calls := by
      refine (List.map_congr_left fun call member => if_neg ?_).trans (List.map_id calls)
      intro same
      exact fresh (index ▸ same ▸ List.mem_map_of_mem member)
    have step : accumulateCall (calls ++ [last]) fragment =
        calls ++ [{ last with arguments := last.arguments ++ fragment.function.arguments }] := by
      rw [accumulateCall, if_pos (by simp [index]), List.map_append, others]
      simp [index, AccumulatedCall.extend, id, name]
    rw [List.foldl_cons, step]
    refine (@ih { last with arguments := last.arguments ++ fragment.function.arguments } fresh indexedRest).trans ?_
    simp

end

end LLMHub
