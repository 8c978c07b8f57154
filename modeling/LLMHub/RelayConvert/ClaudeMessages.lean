import LLMHub.RelayConvert.ClaudeGrammar

namespace LLMHub

open Transducer Transducer.Emitter ClaudeConvertInfo ChatCompletionsStreamResponse

/-- The client is where the converter is, and the chunks to come fit. -/
structure Follows (info : Meta) (seen : ClaudeReader) (rest : List ChatCompletionsStreamResponse) : Prop where
  counted : 1 ≤ info.sendResponseCount
  seen : seen = info.claudeConvertInfo.reader
  single : ∀ chunk ∈ rest, chunk.toolCalls.length ≤ 1
  kept : IntroductionsKept rest
  come : info.claudeConvertInfo.done = false → ToolsToCome info.claudeConvertInfo rest

namespace Follows

variable {info : Meta} {seen : ClaudeReader} {chunk : ChatCompletionsStreamResponse}
  {rest : List ChatCompletionsStreamResponse}

theorem convertChunk (follows : Follows info seen (chunk :: rest)) :
    ∃ seen', (info.convertChunk chunk).2.foldlM ClaudeReader.read seen = some seen' ∧
      Follows (info.convertChunk chunk).1 seen' rest := by
  obtain ⟨counted, rfl, single, kept, come⟩ := follows
  have others : ∀ later ∈ rest, later.toolCalls.length ≤ 1 := fun later member => single later (List.mem_cons_of_mem _ member)
  cases running : info.claudeConvertInfo.done with
  | true =>
    have silent : info.convertChunk chunk = ({ info with sendResponseCount := info.sendResponseCount + 1 }, []) := by
      simp [Meta.convertChunk, streamResponseOpenAI2Claude, running]
    rw [silent]
    refine ⟨_, rfl, ⟨Nat.le_add_left 1 _, rfl, others, kept.2, fun continues => ?_⟩⟩
    rw [show info.claudeConvertInfo.done = true from running] at continues
    cases continues
  | false =>
    obtain ⟨reads, fits⟩ := read_laterChunk running (single chunk List.mem_cons_self) kept (come running)
    have later : info.convertChunk chunk =
        ({ info with
            sendResponseCount := info.sendResponseCount + 1
            claudeConvertInfo := (laterChunk chunk info.claudeConvertInfo).1 },
          (laterChunk chunk info.claudeConvertInfo).2) := by
      have second : info.sendResponseCount ≠ 0 := by omega
      simp [Meta.convertChunk, streamResponseOpenAI2Claude, running, second]
    rw [later]
    exact ⟨_, reads, ⟨Nat.le_add_left 1 _, rfl, others, kept.2, fits⟩⟩

/-- The message is complete after the finalizer. -/
theorem finalize (follows : Follows info seen []) :
    (info.finalize).2.foldlM ClaudeReader.read seen = some .finished := by
  obtain ⟨-, rfl, -, -, -⟩ := follows
  unfold Meta.finalize finalizeStreamResponseOpenAI2Claude
  cases running : info.claudeConvertInfo.done with
  | true => simp [reader, running]
  | false =>
    have ends := read_endMessage info.claudeConvertInfo.usage info.claudeConvertInfo.stopReasonOrEndTurn running
    exact ends

/-- The first chunk starts the message. -/
theorem firstChunk (estimatePromptTokens : Int) (usage : Option Usage)
    (kinds : ∀ later ∈ chunk :: rest, later.OneKind ∧ later.toolCalls.length ≤ 1) (phase : OneToolPhase (chunk :: rest))
    (order : IntroducedInOrder 0 ((chunk :: rest).flatMap toolCalls))
    (kept : IntroductionsKept rest) :
    ∃ seen, (Meta.convertChunk chunk { estimatePromptTokens, claudeConvertInfo := { usage } }).2.foldlM
        ClaudeReader.read .begin = some seen ∧
      Follows (Meta.convertChunk chunk { estimatePromptTokens, claudeConvertInfo := { usage } }).1 seen rest := by
  have others : ∀ later ∈ rest, later.toolCalls.length ≤ 1 := fun later member => (kinds later (List.mem_cons_of_mem _ member)).2
  obtain ⟨kind, single⟩ := kinds chunk List.mem_cons_self
  have fresh : ({ usage } : ClaudeConvertInfo).done = false := rfl
  obtain ⟨payload, running, fits⟩ := read_firstPayload fresh rfl rfl kind single phase order
  -- the state after the message was started is the fresh one
  have converted : Meta.convertChunk chunk { estimatePromptTokens, claudeConvertInfo := { usage } } =
      ({ estimatePromptTokens := estimatePromptTokens
         sendResponseCount := 1
         claudeConvertInfo := (LLMHub.firstChunk estimatePromptTokens chunk { usage }).1 },
        (LLMHub.firstChunk estimatePromptTokens chunk { usage }).2) := rfl
  rw [converted]
  unfold LLMHub.firstChunk
  cases choices : chunk.choices with
  | nil =>
    have empty := empty_of_choices choices
    have come : ToolsToCome { usage } (chunk :: rest) := .before nofun phase order
    exact ⟨_, rfl, ⟨Nat.le_refl 1, rfl, others, kept, fun _ => come.skip empty.toolCalls rfl rfl⟩⟩
  | cons choice _ =>
    have delta : choice.delta = chunk.delta := by simp [ChatCompletionsStreamResponse.delta, choices]
    obtain ⟨reads, same⟩ := read_finishFirstChoice choice.finishReason chunk.usage running
    have said : Read (firstChoice choice chunk.usage) { usage } := by
      unfold firstChoice
      rw [delta]
      exact payload.andThen reads
    have state : firstChoice choice chunk.usage { usage } =
        (firstPayload chunk.delta).andThen (finishFirstChoice choice.finishReason chunk.usage) { usage } := by
      rw [firstChoice, delta]
    refine ⟨_, said, ⟨Nat.le_refl 1, rfl, others, kept, fun continues => ?_⟩⟩
    dsimp only [andThen_fst, emit_apply] at continues ⊢
    rw [state] at continues ⊢
    obtain ⟨mode, offset⟩ := same continues
    exact fits.transport mode offset

end Follows

/-- Whatever the chunks carry one at a time, the client reads one whole
message, unless a tool is introduced by a finish chunk that awaits its usage
and the tool calls go on. -/
theorem claudeEvents_wellFormed (estimatePromptTokens : Int) (usage : Option Usage) (first : ChatCompletionsStreamResponse)
    (rest : List ChatCompletionsStreamResponse)
    (kinds : ∀ chunk ∈ first :: rest, chunk.OneKind ∧ chunk.toolCalls.length ≤ 1) (phase : OneToolPhase (first :: rest))
    (order : IntroducedInOrder 0 ((first :: rest).flatMap toolCalls))
    (kept : IntroductionsKept rest) :
    WellFormedMessage (Meta.claudeEvents { estimatePromptTokens, claudeConvertInfo := { usage } } (first :: rest)) := by
  obtain ⟨seen, started, follows⟩ := Follows.firstChunk estimatePromptTokens usage kinds phase order kept
  obtain ⟨last, read, ready⟩ := forEach_observed (fun _ _ _ _ holds => Follows.convertChunk holds) rest _ _ follows
  unfold WellFormedMessage Meta.claudeEvents
  rw [andThen_snd, forEach_cons_snd, forEach_cons_fst, List.foldlM_append, List.foldlM_append, started, Option.bind_eq_bind,
    Option.bind_some, read]
  exact ready.finalize

/-- Thinking, then two tools in parallel, a finish chunk and the usage after it. -/
def parallelTools : List ChatCompletionsStreamResponse :=
  [.single { reasoningContent := some [104, 109] }, .single (toolFragment 0 "call_a" "search" []),
    .single (toolFragment 1 "call_b" "fetch" [123]), .single (toolFragment 0 "" "" [123, 125]),
    .single (toolFragment 1 "" "" [125]), .single {} (some "tool_calls"), { usage := some {} }]

theorem parallelTools_wellFormed :
    WellFormedMessage (Meta.claudeEvents { estimatePromptTokens := 7, claudeConvertInfo := { usage := none } }
      (.single { role := "assistant" } :: parallelTools)) :=
  claudeEvents_wellFormed 7 none (.single { role := "assistant" }) parallelTools (by decide)
    ⟨[.single { role := "assistant" }, .single { reasoningContent := some [104, 109] }],
      [.single (toolFragment 0 "call_a" "search" []), .single (toolFragment 1 "call_b" "fetch" [123]),
        .single (toolFragment 0 "" "" [123, 125]), .single (toolFragment 1 "" "" [125])],
      [.single {} (some "tool_calls"), { usage := some {} }], rfl, by decide, by decide, by decide⟩
    (by simp [parallelTools, toolCalls, ChatCompletionsStreamResponse.delta,
      ChatCompletionsStreamResponse.single, toolFragment, IntroducedInOrder])
    (by simp [parallelTools, IntroductionsKept, toolCalls, ChatCompletionsStreamResponse.delta,
      ChatCompletionsStreamResponse.single, isFinished,
      ChatCompletionsStreamResponseChoice.finished, toolFragment])

/-- The finish chunk introduces the tool and awaits the usage; the arguments come after it. -/
def droppedIntroduction : List ChatCompletionsStreamResponse :=
  [.single { role := "assistant" }, .single (toolFragment 0 "call_a" "search" []) (some "tool_calls"),
    .single (toolFragment 0 "" "" [123, 125])]

/-- The arguments are sent to a block that was never started. -/
theorem droppedIntroduction_malformed :
    (∀ chunk ∈ droppedIntroduction, chunk.choices.length = 1 ∧ chunk.usage = none ∧ chunk.OneKind ∧
      chunk.toolCalls.length ≤ 1) ∧
      OneToolPhase droppedIntroduction ∧
      IntroducedInOrder 0 (droppedIntroduction.flatMap toolCalls) ∧
      ¬ WellFormedMessage (Meta.claudeEvents {} droppedIntroduction) := by
  refine ⟨by decide, ⟨[.single { role := "assistant" }], droppedIntroduction.tail, [], rfl, by decide, by decide, by decide⟩,
    ?_, by decide⟩
  simp [droppedIntroduction, toolCalls, ChatCompletionsStreamResponse.delta,
    ChatCompletionsStreamResponse.single, toolFragment, IntroducedInOrder]

end LLMHub
