import LLMHub.Billing.UsageDialects

namespace LLMHub

/-- Counts an upstream reports in openai semantics: machine integers that are
not negative, with the cache inside the prompt. -/
structure Usage.CacheInPrompt (usage : Usage) : Prop where
  completion : 0 ≤ usage.completionTokens ∧ usage.completionTokens < 2 ^ 63
  prompt : usage.promptTokens < 2 ^ 63
  cached : 0 ≤ usage.promptTokensDetails.cachedTokens
  cachedCreation : 0 ≤ usage.promptTokensDetails.cachedCreationTokens
  cacheWrite : 0 ≤ usage.promptTokensDetails.cacheWriteTokens
  creation5m : 0 ≤ usage.claudeCacheCreation5mTokens ∧ usage.claudeCacheCreation5mTokens < 2 ^ 63
  creation1h : 0 ≤ usage.claudeCacheCreation1hTokens ∧ usage.claudeCacheCreation1hTokens < 2 ^ 63
  inside : usage.promptTokensDetails.cachedTokens + usage.promptTokensDetails.cacheCreationTokensTotal ≤ usage.promptTokens

/-- The Claude usage reports the input of the openai usage, and reading it back
reports it again. -/
structure KeepsInputTotal (usage : Usage) (claude : ClaudeUsage) : Prop where
  input : claude.inputTokens + claude.cacheReadInputTokens + claude.cacheCreationInputTokens = usage.promptTokens
  output : claude.outputTokens = usage.completionTokens
  parts : ∀ split, claude.cacheCreation = some split →
    split.ephemeral5mInputTokens + split.ephemeral1hInputTokens = claude.cacheCreationInputTokens
  promptBack : (usageFromClaudeAPIUsage claude).promptTokens = usage.promptTokens
  completionBack : (usageFromClaudeAPIUsage claude).completionTokens = usage.completionTokens

/-- The usage either writes the cache under the native name or does not use it
at all, and the lifetimes it lists are those of all its cache writes. -/
structure Usage.NativeCacheWrite (usage : Usage) : Prop where
  native : 0 < usage.promptTokensDetails.cacheWriteTokens ∨
    usage.promptTokensDetails.cachedTokens = 0 ∧ usage.promptTokensDetails.cachedCreationTokens = 0
  lifetimes :
    let listed := usage.claudeCacheCreation5mTokens + usage.claudeCacheCreation1hTokens
    let details := usage.promptTokensDetails
    max details.cachedCreationTokens listed = 0 ∨
      max details.cachedCreationTokens listed = max details.cachedCreationTokens details.cacheWriteTokens ∨
      -- the remainder of the split wraps around
      details.cacheWriteTokens ≤ details.cachedCreationTokens ∧ details.cachedCreationTokens + 2 ^ 63 < listed

theorem InputTokenDetails.cacheCreationTokensTotal_eq_max {d : InputTokenDetails} (nonneg : 0 ≤ d.cacheWriteTokens) :
    d.cacheCreationTokensTotal = max d.cachedCreationTokens d.cacheWriteTokens := by
  simp only [InputTokenDetails.cacheCreationTokensTotal]
  split_ifs <;> omega

/-- The lifetimes the Claude usage reports, when it reports any. -/
theorem buildClaudeUsage_parts {usage : Usage} (counts : usage.CacheInPrompt) {claude : ClaudeUsage}
    (built : buildClaudeUsageFromOpenAIUsage (some usage) = some claude) :
    let listed := usage.claudeCacheCreation5mTokens + usage.claudeCacheCreation1hTokens
    let creation := usage.promptTokensDetails.cachedCreationTokens
    claude.cacheCreation = none ∧ max creation listed = 0 ∨
      ∃ split, claude.cacheCreation = some split ∧ 0 < max creation listed ∧
        split.ephemeral5mInputTokens + split.ephemeral1hInputTokens =
          if creation + 2 ^ 63 < listed then creation else max creation listed := by
  obtain ⟨-, prompt, cached, cachedCreation, cacheWrite, creation5m, creation1h, inside⟩ := counts
  rw [InputTokenDetails.cacheCreationTokensTotal_eq_max cacheWrite] at inside
  have first := @normalizeCacheCreationSplit_fst usage.promptTokensDetails.cachedCreationTokens _ _
    ⟨cachedCreation, by omega⟩ creation5m creation1h
  have reports : claude.cacheCreation =
      let split := normalizeCacheCreationSplit usage.promptTokensDetails.cachedCreationTokens
        usage.claudeCacheCreation5mTokens usage.claudeCacheCreation1hTokens
      if split.1 > 0 ∨ usage.claudeCacheCreation1hTokens > 0 then some ⟨split.1, usage.claudeCacheCreation1hTokens⟩ else none := by
    rw [← Option.some.inj built]
    rfl
  dsimp only at reports ⊢
  rw [first] at reports
  by_cases wraps : usage.promptTokensDetails.cachedCreationTokens + 2 ^ 63 <
      usage.claudeCacheCreation5mTokens + usage.claudeCacheCreation1hTokens
  · rw [if_pos wraps, if_pos (by omega)] at reports
    exact Or.inr ⟨_, reports, by omega, by rw [if_pos wraps]; dsimp only; omega⟩
  · rw [if_neg wraps] at reports
    split_ifs at reports with reported
    · exact Or.inr ⟨_, reports, by omega, by rw [if_neg wraps]; dsimp only; omega⟩
    · exact Or.inl ⟨reports, by omega⟩

theorem cacheCreationTokens_of_parts {claude : ClaudeUsage}
    (word : 0 ≤ claude.cacheCreationInputTokens ∧ claude.cacheCreationInputTokens < 2 ^ 63)
    (parts : ∀ split, claude.cacheCreation = some split →
      split.ephemeral5mInputTokens + split.ephemeral1hInputTokens = claude.cacheCreationInputTokens) :
    cacheCreationTokensForOpenAIUsage claude.semanticUsage = claude.cacheCreationInputTokens := by
  have listed : Go.int64 (claude.semanticUsage.claudeCacheCreation5mTokens + claude.semanticUsage.claudeCacheCreation1hTokens) = 0 ∨
      Go.int64 (claude.semanticUsage.claudeCacheCreation5mTokens + claude.semanticUsage.claudeCacheCreation1hTokens) =
        claude.cacheCreationInputTokens := by
    simp only [ClaudeUsage.semanticUsage, ClaudeUsage.getCacheCreation5mTokens, ClaudeUsage.getCacheCreation1hTokens]
    cases reported : claude.cacheCreation with
    | none => exact Or.inl rfl
    | some split =>
      refine Or.inr ?_
      simp only [Option.map_some, Option.getD_some]
      rw [parts split reported, Go.int64_eq_self (by omega) (by omega)]
  have creation : claude.semanticUsage.promptTokensDetails.cachedCreationTokens = claude.cacheCreationInputTokens := rfl
  simp only [cacheCreationTokensForOpenAIUsage]
  rcases listed with zero | all
  · rw [zero, if_pos rfl, creation]
  · rw [all, creation]
    split_ifs <;> omega

/-- The Claude usage keeps the input total, and so does the way back, exactly
when the usage reports its cache writes under the native name or has no cache. -/
theorem claude_usage_keeps_input_total_iff (usage : Usage) (counts : usage.CacheInPrompt) :
    ∃ claude, buildClaudeUsageFromOpenAIUsage (some usage) = some claude ∧
      (KeepsInputTotal usage claude ↔ usage.NativeCacheWrite) := by
  refine ⟨_, rfl, ?_⟩
  generalize whole : ClaudeUsage.mk _ _ _ _ _ = claude
  have built : buildClaudeUsageFromOpenAIUsage (some usage) = some claude := congrArg some whole
  have reports := buildClaudeUsage_parts counts built
  have input : claude.inputTokens =
      if usage.promptTokensDetails.cacheWriteTokens > 0 then
        max (Go.int64 (Go.int64 (usage.promptTokens - usage.promptTokensDetails.cachedTokens) -
          usage.promptTokensDetails.cacheCreationTokensTotal)) 0
      else usage.promptTokens := by rw [← whole]
  have output : claude.outputTokens = usage.completionTokens := by rw [← whole]
  have written : claude.cacheCreationInputTokens = usage.promptTokensDetails.cacheCreationTokensTotal := by rw [← whole]
  have read : claude.cacheReadInputTokens = usage.promptTokensDetails.cachedTokens := by rw [← whole]
  obtain ⟨-, prompt, cached, cachedCreation, cacheWrite, -, -, inside⟩ := counts
  have largest := InputTokenDetails.cacheCreationTokensTotal_eq_max cacheWrite
  rw [largest] at inside input written
  rw [Go.int64_eq_self (x := _ - usage.promptTokensDetails.cachedTokens) (by omega) (by omega),
    Go.int64_eq_self (by omega) (by omega)] at input
  dsimp only at reports
  have sum_iff : claude.inputTokens + claude.cacheReadInputTokens + claude.cacheCreationInputTokens = usage.promptTokens ↔
      0 < usage.promptTokensDetails.cacheWriteTokens ∨
        usage.promptTokensDetails.cachedTokens = 0 ∧ usage.promptTokensDetails.cachedCreationTokens = 0 := by
    rw [input, read, written]
    split_ifs <;> omega
  constructor
  · intro keeps
    refine ⟨sum_iff.mp keeps.input, ?_⟩
    rcases reports with ⟨-, zero⟩ | ⟨split, reported, -, parts⟩
    · exact Or.inl zero
    · have total := (keeps.parts split reported).symm.trans parts
      rw [written] at total
      dsimp only
      split_ifs at total with wraps <;> omega
  · rintro ⟨native, lifetimes⟩
    have parts : ∀ split, claude.cacheCreation = some split →
        split.ephemeral5mInputTokens + split.ephemeral1hInputTokens = claude.cacheCreationInputTokens := by
      intro split reported
      rcases reports with ⟨unreported, -⟩ | ⟨split', reported', positive, parts⟩
      · exact absurd (unreported.symm.trans reported) (by simp)
      · obtain rfl := Option.some.inj (reported.symm.trans reported')
        rw [parts, written]
        dsimp only at lifetimes
        split_ifs with wraps <;> omega
    have sum := sum_iff.mpr native
    have back : (usageFromClaudeAPIUsage claude).promptTokens =
        Go.int64 (claude.inputTokens + claude.cacheReadInputTokens + claude.cacheCreationInputTokens) := by
      rw [← cacheCreationTokens_of_parts (by omega) parts]
      rfl
    refine ⟨sum, output, parts, ?_, output⟩
    rw [back, sum, Go.int64_eq_self (by omega) (by omega)]

/-- The usage of the cache-write test, with the prompt raised so that it holds
what was read and written. -/
def cacheWriteUsage : Usage where
  promptTokens := 6600
  completionTokens := 36
  totalTokens := 6636
  promptTokensDetails := { cachedTokens := 2921, cacheWriteTokens := 3616 }

theorem cacheWriteUsage_kept : cacheWriteUsage.CacheInPrompt ∧ cacheWriteUsage.NativeCacheWrite ∧
    ∃ claude, buildClaudeUsageFromOpenAIUsage (some cacheWriteUsage) = some claude ∧ KeepsInputTotal cacheWriteUsage claude := by
  have counts : cacheWriteUsage.CacheInPrompt :=
    ⟨by decide, by decide, by decide, by decide, by decide, by decide, by decide, by decide⟩
  have native : cacheWriteUsage.NativeCacheWrite := ⟨by decide, by decide⟩
  obtain ⟨claude, built, keeps⟩ := claude_usage_keeps_input_total_iff cacheWriteUsage counts
  exact ⟨counts, native, claude, built, keeps.mpr native⟩

/-- Cached tokens alone: the Claude client is told of 140 input tokens where
the prompt had 100. -/
theorem cached_prompt_counted_twice :
    let usage : Usage := { promptTokens := 100, completionTokens := 7, promptTokensDetails := { cachedTokens := 40 } }
    usage.CacheInPrompt ∧ ∃ claude, buildClaudeUsageFromOpenAIUsage (some usage) = some claude ∧
      claude.inputTokens + claude.cacheReadInputTokens + claude.cacheCreationInputTokens = 140 ∧
      (usageFromClaudeAPIUsage claude).promptTokens = 140 ∧ ¬ KeepsInputTotal usage claude := by
  refine ⟨⟨by decide, by decide, by decide, by decide, by decide, by decide, by decide, by decide⟩,
    ⟨_, rfl, by decide, by decide, fun keeps => ?_⟩⟩
  exact absurd keeps.input (by decide)

end LLMHub
