import LLMHub.RelayConvert.ChatStream

namespace LLMHub

namespace ChatCompletionsStreamResponse

def delta (chunk : ChatCompletionsStreamResponse) : ChatCompletionsStreamResponseChoiceDelta :=
  match chunk.choices with
  | choice :: _ => choice.delta
  | [] => {}

def toolCalls (chunk : ChatCompletionsStreamResponse) : List ToolCallResponse := chunk.delta.toolCalls

def reasoning (chunk : ChatCompletionsStreamResponse) : Bytes := chunk.delta.getReasoningContent

def content (chunk : ChatCompletionsStreamResponse) : Bytes := chunk.delta.getContentString

def isFinished (chunk : ChatCompletionsStreamResponse) : Bool :=
  match chunk.choices with
  | choice :: _ => choice.finished
  | [] => false

def single (delta : ChatCompletionsStreamResponseChoiceDelta) (finishReason : Option String := none)
    (usage : Option Usage := none) : ChatCompletionsStreamResponse :=
  { choices := [{ delta, finishReason }], usage }

/-- The chunk carries neither tool calls nor text. -/
structure Empty (chunk : ChatCompletionsStreamResponse) : Prop where
  toolCalls : chunk.toolCalls = []
  reasoning : chunk.reasoning = []
  content : chunk.content = []

theorem empty_of_choices {chunk : ChatCompletionsStreamResponse} (no : chunk.choices = []) : chunk.Empty := by
  have blank : chunk.delta = {} := by simp [delta, no]
  exact ⟨by rw [toolCalls, blank], by rw [reasoning, blank]; rfl, by rw [content, blank]; rfl⟩

/-- The payload of a chunk is of one kind. -/
structure OneKind (chunk : ChatCompletionsStreamResponse) : Prop where
  tools : chunk.toolCalls ≠ [] → chunk.reasoning = [] ∧ chunk.content = []
  thinking : chunk.reasoning ≠ [] → chunk.content = []

instance (chunk : ChatCompletionsStreamResponse) : Decidable chunk.OneKind :=
  decidable_of_iff ((chunk.toolCalls ≠ [] → chunk.reasoning = [] ∧ chunk.content = []) ∧ (chunk.reasoning ≠ [] → chunk.content = []))
    ⟨fun ⟨tools, thinking⟩ => ⟨tools, thinking⟩, fun ⟨tools, thinking⟩ => ⟨tools, thinking⟩⟩

end ChatCompletionsStreamResponse

open ChatCompletionsStreamResponse

def toolFragment (index : Int) (id name : String) (arguments : Bytes) : ChatCompletionsStreamResponseChoiceDelta :=
  { toolCalls := [{ index := some index, id, function := { name, arguments } }] }

/-- The tool calls come in one phase: no reasoning and no content between two of them. -/
def OneToolPhase (chunks : List ChatCompletionsStreamResponse) : Prop :=
  ∃ before phase after, chunks = before ++ (phase ++ after) ∧ (∀ chunk ∈ before, chunk.toolCalls = []) ∧
    (∀ chunk ∈ phase, chunk.toolCalls = [] → chunk.reasoning = [] ∧ chunk.content = []) ∧
    ∀ chunk ∈ after, chunk.toolCalls = []

variable {chunk : ChatCompletionsStreamResponse} {rest : List ChatCompletionsStreamResponse}

theorem OneToolPhase.tail (phase : OneToolPhase (chunk :: rest)) : OneToolPhase rest := by
  obtain ⟨before, during, after, split, first, second, third⟩ := phase
  cases before with
  | cons _ before =>
    obtain ⟨rfl, rfl⟩ := List.cons.inj split
    exact ⟨before, during, after, rfl, fun c member => first c (List.mem_cons_of_mem _ member), second, third⟩
  | nil =>
    cases during with
    | cons _ during =>
      obtain ⟨rfl, rfl⟩ := List.cons.inj split
      exact ⟨[], during, after, rfl, first, fun c member => second c (List.mem_cons_of_mem _ member), third⟩
    | nil =>
      cases after with
      | nil => cases split
      | cons _ after =>
        obtain ⟨rfl, rfl⟩ := List.cons.inj split
        exact ⟨[], [], rest, rfl, first, second, fun c member => third c (List.mem_cons_of_mem _ member)⟩

/-- The rest of a tool phase, and the chunks after it. -/
def WithinToolPhase (chunks : List ChatCompletionsStreamResponse) : Prop :=
  ∃ phase after, chunks = phase ++ after ∧
    (∀ chunk ∈ phase, chunk.toolCalls = [] → chunk.reasoning = [] ∧ chunk.content = []) ∧
    ∀ chunk ∈ after, chunk.toolCalls = []

theorem OneToolPhase.enter (phase : OneToolPhase (chunk :: rest)) (tools : chunk.toolCalls ≠ []) :
    WithinToolPhase (chunk :: rest) := by
  obtain ⟨before, during, after, split, first, second, third⟩ := phase
  cases before with
  | nil => exact ⟨during, after, split, second, third⟩
  | cons _ before =>
    obtain ⟨rfl, rfl⟩ := List.cons.inj split
    exact absurd (first _ List.mem_cons_self) tools

/-- A chunk within the phase has tool calls or nothing at all; any other chunk is behind the last tool call. -/
theorem WithinToolPhase.tail (within : WithinToolPhase (chunk :: rest)) :
    WithinToolPhase rest ∧ (chunk.toolCalls = [] → chunk.reasoning = [] ∧ chunk.content = []) ∨
      chunk.toolCalls = [] ∧ ∀ later ∈ rest, later.toolCalls = [] := by
  obtain ⟨during, after, split, second, third⟩ := within
  cases during with
  | cons _ during =>
    obtain ⟨rfl, rfl⟩ := List.cons.inj split
    exact .inl ⟨⟨during, after, rfl, fun c member => second c (List.mem_cons_of_mem _ member), third⟩,
      second _ List.mem_cons_self⟩
  | nil =>
    obtain rfl : chunk :: rest = after := split
    exact .inr ⟨third _ List.mem_cons_self, fun c member => third c (List.mem_cons_of_mem _ member)⟩

/-- The fragments introduce the tools `next`, `next + 1`, …: a tool has its
name in its first fragment and in no other. -/
def IntroducedInOrder (next : Nat) : List ToolCallResponse → Prop
  | [] => True
  | toolCall :: rest =>
    (toolCall.index.getD 0 = next ∧ toolCall.function.name ≠ "" ∧ IntroducedInOrder (next + 1) rest) ∨
      (0 ≤ toolCall.index.getD 0 ∧ toolCall.index.getD 0 < next ∧ toolCall.function.name = "" ∧ IntroducedInOrder next rest)

end LLMHub
