import LLMHub.Billing.TextQuotaBounds
import LLMHub.RelayConvert.ChatToClaude

namespace LLMHub

def ClaudeUsage.getCacheCreation5mTokens (usage : ClaudeUsage) : Int :=
  (usage.cacheCreation.map (·.ephemeral5mInputTokens)).getD 0

def ClaudeUsage.getCacheCreation1hTokens (usage : ClaudeUsage) : Int :=
  (usage.cacheCreation.map (·.ephemeral1hInputTokens)).getD 0

/-- `semanticUsage` of `UsageFromClaudeAPIUsage`: a usage in anthropic
semantics, where the prompt leaves the cache out. -/
def ClaudeUsage.semanticUsage (usage : ClaudeUsage) : BilledUsage where
  promptTokens := usage.inputTokens
  completionTokens := usage.outputTokens
  usageSemantic := "anthropic"
  usageSource := "anthropic"
  promptTokensDetails :=
    { cachedTokens := usage.cacheReadInputTokens, cachedCreationTokens := usage.cacheCreationInputTokens }
  claudeCacheCreation5mTokens := usage.getCacheCreation5mTokens
  claudeCacheCreation1hTokens := usage.getCacheCreation1hTokens

def cacheCreationTokensForOpenAIUsage (usage : BilledUsage) : Int :=
  let splitCacheCreationTokens := Go.int64 (usage.claudeCacheCreation5mTokens + usage.claudeCacheCreation1hTokens)
  if splitCacheCreationTokens = 0 then usage.promptTokensDetails.cachedCreationTokens
  else if usage.promptTokensDetails.cachedCreationTokens > splitCacheCreationTokens then
    usage.promptTokensDetails.cachedCreationTokens
  else splitCacheCreationTokens

/-- The same usage in openai semantics, where the prompt counts the cache in. -/
def buildOpenAIStyleUsageFromClaudeUsage (usage : BilledUsage) : BilledUsage :=
  let (cacheCreation5m, cacheCreation1h) := normalizeCacheCreationSplit usage.promptTokensDetails.cachedCreationTokens
    usage.claudeCacheCreation5mTokens usage.claudeCacheCreation1hTokens
  let cacheCreationTokens := cacheCreationTokensForOpenAIUsage usage
  let totalInputTokens := Go.int64 (usage.promptTokens + usage.promptTokensDetails.cachedTokens + cacheCreationTokens)
  { usage with
    claudeCacheCreation5mTokens := cacheCreation5m
    claudeCacheCreation1hTokens := cacheCreation1h
    promptTokensDetails := { usage.promptTokensDetails with cacheWriteTokens := cacheCreationTokens }
    promptTokens := totalInputTokens
    inputTokens := totalInputTokens
    totalTokens := Go.int64 (totalInputTokens + usage.completionTokens)
    usageSemantic := "openai"
    usageSource := "anthropic" }

def usageFromClaudeUsage (usage : BilledUsage) : BilledUsage := buildOpenAIStyleUsageFromClaudeUsage usage

def usageFromClaudeAPIUsage (usage : ClaudeUsage) : BilledUsage := usageFromClaudeUsage usage.semanticUsage

/-- Counts as the Messages API reports them, small enough to be added up, and
cache writes of no particular lifetime. -/
structure ClaudeUsage.Plain (usage : ClaudeUsage) : Prop where
  input : 0 ≤ usage.inputTokens
  output : 0 ≤ usage.outputTokens
  cacheRead : 0 ≤ usage.cacheReadInputTokens
  cacheCreation : 0 ≤ usage.cacheCreationInputTokens
  fits : usage.inputTokens + usage.cacheReadInputTokens + usage.cacheCreationInputTokens + usage.outputTokens < 2 ^ 63
  no5m : usage.getCacheCreation5mTokens = 0
  no1h : usage.getCacheCreation1hTokens = 0

/-- Every token of the request was read from or written to the cache. -/
def ClaudeUsage.cacheOnly (usage : ClaudeUsage) : Bool :=
  usage.inputTokens = 0 ∧ usage.outputTokens = 0 ∧ (usage.cacheReadInputTokens > 0 ∨ usage.cacheCreationInputTokens > 0)

theorem normalizeCacheCreationSplit_fst {total tokens5m tokens1h : Int} (counted : 0 ≤ total ∧ total < 2 ^ 63)
    (short : 0 ≤ tokens5m ∧ tokens5m < 2 ^ 63) (long : 0 ≤ tokens1h ∧ tokens1h < 2 ^ 63) :
    (normalizeCacheCreationSplit total tokens5m tokens1h).1 =
      if total + 2 ^ 63 < tokens5m + tokens1h then total - tokens1h else tokens5m + max (total - tokens5m - tokens1h) 0 := by
  simp only [normalizeCacheCreationSplit]
  rw [Go.int64_eq_self (x := total - tokens5m) (by omega) (by omega)]
  split_ifs with wraps
  · have around (x : Int) : Go.int64 (x + 2 ^ 64) = Go.int64 x := Go.int64_congr (by simp [Int.ModEq])
    have remainder : Go.int64 (total - tokens5m - tokens1h) = total - tokens5m - tokens1h + 2 ^ 64 := by
      rw [← around, Go.int64_eq_self (by omega) (by omega)]
    rw [remainder, max_eq_left (by omega), ← add_assoc, around, Go.int64_eq_self (by omega) (by omega)]
    omega
  · rw [Go.int64_eq_self (x := total - tokens5m - tokens1h) (by omega) (by omega), Go.int64_eq_self (by omega) (by omega)]

section Dialects

variable {usage : ClaudeUsage} {setting : TextQuotaSetting} {info : TextRelayInfo}

theorem cacheCreationTokensForOpenAIUsage_plain (plain : usage.Plain) :
    cacheCreationTokensForOpenAIUsage usage.semanticUsage = usage.cacheCreationInputTokens := by
  have none : Go.int64 (usage.semanticUsage.claudeCacheCreation5mTokens + usage.semanticUsage.claudeCacheCreation1hTokens) = 0 := by
    rw [ClaudeUsage.semanticUsage, plain.no5m, plain.no1h]
    rfl
  unfold cacheCreationTokensForOpenAIUsage
  rw [none]
  rfl

theorem usageFromClaudeAPIUsage_promptTokens (plain : usage.Plain) :
    (usageFromClaudeAPIUsage usage).promptTokens =
      usage.inputTokens + usage.cacheReadInputTokens + usage.cacheCreationInputTokens := by
  have written := cacheCreationTokensForOpenAIUsage_plain plain
  obtain ⟨input, output, cacheRead, cacheCreation, fits, -, -⟩ := plain
  calc (usageFromClaudeAPIUsage usage).promptTokens
      = Go.int64 (usage.inputTokens + usage.cacheReadInputTokens + cacheCreationTokensForOpenAIUsage usage.semanticUsage) := rfl
    _ = _ := by rw [written, Go.int64_eq_self (by omega) (by omega)]

theorem textTokens_semanticUsage (plain : usage.Plain) :
    textTokens usage.semanticUsage =
      { promptTokens := usage.inputTokens
        completionTokens := usage.outputTokens
        totalTokens := usage.inputTokens + usage.outputTokens
        cacheTokens := usage.cacheReadInputTokens
        cacheCreationTokens := usage.cacheCreationInputTokens
        cacheCreationTokens5m := 0, cacheCreationTokens1h := 0, imageTokens := 0, audioTokens := 0 } := by
  obtain ⟨input, output, cacheRead, cacheCreation, fits, no5m, no1h⟩ := plain
  have total : Go.int64 (usage.inputTokens + usage.outputTokens) = usage.inputTokens + usage.outputTokens :=
    Go.int64_eq_self (by omega) (by omega)
  have written : usage.semanticUsage.promptTokensDetails.cacheCreationTokensTotal = usage.cacheCreationInputTokens := by
    simp only [ClaudeUsage.semanticUsage, InputTokenDetails.cacheCreationTokensTotal]
    split_ifs <;> omega
  unfold textTokens
  rw [written]
  simp only [ClaudeUsage.semanticUsage, total, no5m, no1h]

theorem textTokens_usageFromClaudeAPIUsage (plain : usage.Plain) :
    textTokens (usageFromClaudeAPIUsage usage) =
      { promptTokens := usage.inputTokens + usage.cacheReadInputTokens + usage.cacheCreationInputTokens
        completionTokens := usage.outputTokens
        totalTokens := usage.inputTokens + usage.cacheReadInputTokens + usage.cacheCreationInputTokens + usage.outputTokens
        cacheTokens := usage.cacheReadInputTokens
        cacheCreationTokens := usage.cacheCreationInputTokens
        cacheCreationTokens5m := usage.cacheCreationInputTokens
        cacheCreationTokens1h := 0, imageTokens := 0, audioTokens := 0 } := by
  have prompt := usageFromClaudeAPIUsage_promptTokens plain
  have converted := cacheCreationTokensForOpenAIUsage_plain plain
  obtain ⟨input, output, cacheRead, cacheCreation, fits, no5m, no1h⟩ := plain
  have completion : (usageFromClaudeAPIUsage usage).completionTokens = usage.outputTokens := rfl
  have written : (usageFromClaudeAPIUsage usage).promptTokensDetails.cacheCreationTokensTotal = usage.cacheCreationInputTokens := by
    change InputTokenDetails.cacheCreationTokensTotal
      { usage.semanticUsage.promptTokensDetails with cacheWriteTokens := cacheCreationTokensForOpenAIUsage usage.semanticUsage } = _
    rw [converted]
    simp only [ClaudeUsage.semanticUsage, InputTokenDetails.cacheCreationTokensTotal]
    split_ifs <;> omega
  have short : (usageFromClaudeAPIUsage usage).claudeCacheCreation5mTokens = usage.cacheCreationInputTokens := by
    change (normalizeCacheCreationSplit usage.cacheCreationInputTokens usage.getCacheCreation5mTokens
      usage.getCacheCreation1hTokens).1 = _
    rw [normalizeCacheCreationSplit_fst (by omega) (by omega) (by omega)]
    split_ifs <;> omega
  have long : (usageFromClaudeAPIUsage usage).claudeCacheCreation1hTokens = 0 := no1h
  unfold textTokens
  rw [prompt, completion, written, short, long, Go.int64_eq_self (by omega) (by omega)]
  rfl

/-- The prompt costs the same: what one dialect takes out of it the other has
never put in. -/
theorem promptQuota_dialects (plain : usage.Plain) (price : PriceData) :
    promptQuota price (textTokens (usageFromClaudeAPIUsage usage)) false 0 =
      promptQuota price (textTokens usage.semanticUsage) true 0 := by
  rw [textTokens_usageFromClaudeAPIUsage plain, textTokens_semanticUsage plain]
  obtain ⟨input, output, cacheRead, cacheCreation, fits, -, -⟩ := plain
  have rest : Go.int64 (usage.cacheCreationInputTokens - 0 - 0) = usage.cacheCreationInputTokens := by
    rw [sub_zero, sub_zero, Go.int64_eq_self (by omega) (by omega)]
  have base : usage.inputTokens + usage.cacheReadInputTokens + usage.cacheCreationInputTokens - usage.cacheReadInputTokens -
      usage.cacheCreationInputTokens = usage.inputTokens := by omega
  unfold promptQuota
  congr 1
  · simp only [baseTokens, base, Bool.false_eq_true, ↓reduceIte]
  · simp only [cachedCreationTokensWithRatio, remainingCacheCreation, rest, Bool.false_eq_true, ↓reduceIte]
    rw [if_neg (not_lt.mpr cacheCreation)]
    rcases cacheCreation.eq_or_lt with none | some
    · simp [← none]
    · simp [some.ne']

/-- Before rounding the two dialects cost the same. -/
theorem exactQuota_dialects (plain : usage.Plain) (byRatio : info.priceData.usePrice = false) :
    exactQuota setting info (usageFromClaudeAPIUsage usage) false = exactQuota setting info usage.semanticUsage true := by
  have noAudio : audioPrice info (usageFromClaudeAPIUsage usage) = 0 ∧ audioPrice info usage.semanticUsage = 0 := by
    constructor <;> simp [audioPrice, usageFromClaudeAPIUsage, usageFromClaudeUsage, buildOpenAIStyleUsageFromClaudeUsage,
      ClaudeUsage.semanticUsage]
  have completion : (textTokens (usageFromClaudeAPIUsage usage)).completionTokens =
      (textTokens usage.semanticUsage).completionTokens := rfl
  have silent (tokens : TextTokens) : audioInputQuota setting info.priceData tokens 0 = 0 := if_neg (lt_irrefl 0)
  simp only [exactQuota, byRatio, Bool.false_eq_true, ↓reduceIte, noAudio, ratioQuota, promptQuota_dialects plain, completion,
    silent]

theorem apartOf_semanticUsage (info : TextRelayInfo) (usage : ClaudeUsage) : apartOf info usage.semanticUsage = true := by
  unfold apartOf
  rw [usageSemanticFromUsage_some]
  rfl

theorem apartOf_usageFromClaudeAPIUsage (info : TextRelayInfo) (usage : ClaudeUsage) :
    apartOf info (usageFromClaudeAPIUsage usage) = false := by
  have semantic : (usageFromClaudeAPIUsage usage).usageSemantic = "openai" := rfl
  unfold apartOf
  rw [usageSemanticFromUsage_some, semantic]
  simp [cacheApart, isLegacyClaudeDerivedOpenAIUsage, semantic]

theorem chargedQuota_ne_zero {ratio : ℚ} (paid : ratio ≠ 0) (quota : Int) : chargedQuota true ratio quota ≠ 0 := by
  unfold chargedQuota
  by_cases none : quota = 0 <;> simp [paid, none]

variable (setting) in
/-- Without a model or group ratio, tools or audio there is nothing to pay. -/
theorem exactQuota_free (byRatio : info.priceData.usePrice = false) (free : info.priceData.ratio = 0)
    (noTools : toolCallSurcharge setting info = 0) (usage : ClaudeUsage) :
    exactQuota setting info usage.semanticUsage true = 0 := by
  obtain ⟨factor, -, scales⟩ := info.priceData.applyOtherRatiosToDecimal_factor
  have noAudio : audioPrice info usage.semanticUsage = 0 := by simp [audioPrice, ClaudeUsage.semanticUsage]
  simp [exactQuota, byRatio, noAudio, noTools, ratioQuota, free, scales, audioInputQuota]

variable (setting) in
/-- The charge in openai semantics, by what decides the charge in anthropic
semantics. -/
theorem quota_usageFromClaudeAPIUsage (plain : usage.Plain) (byRatio : info.priceData.usePrice = false)
    (other : info.openRouter = false) :
    let rounded := roundedQuota (exactQuota setting info usage.semanticUsage true)
    let tools := toolCallSurcharge setting info
    (calculateTextQuotaSummary setting info (some usage.semanticUsage)).quota =
        chargedQuota (hasBillableUsage (usage.inputTokens + usage.outputTokens) tools) info.priceData.ratio rounded ∧
      (calculateTextQuotaSummary setting info (some (usageFromClaudeAPIUsage usage))).quota =
        chargedQuota (hasBillableUsage (usage.inputTokens + usage.cacheReadInputTokens + usage.cacheCreationInputTokens +
          usage.outputTokens) tools) info.priceData.ratio rounded := by
  have own := congrArg TextTokens.totalTokens (textTokens_semanticUsage plain)
  have converted := congrArg TextTokens.totalTokens (textTokens_usageFromClaudeAPIUsage plain)
  dsimp only [textTokens] at own converted
  rw [quota_of_usage other, quota_of_usage other, own, converted, apartOf_semanticUsage, apartOf_usageFromClaudeAPIUsage,
    exactQuota_dialects plain byRatio]
  exact ⟨rfl, rfl⟩

end Dialects

/-- A Claude usage costs the same in both dialects unless it is cache only:
anthropic semantics then finds no billable usage, where openai semantics
charges the cache. -/
theorem quota_dialects_agree_iff (setting : TextQuotaSetting) (info : TextRelayInfo) (usage : ClaudeUsage) (plain : usage.Plain)
    (byRatio : info.priceData.usePrice = false) (other : info.openRouter = false) :
    (calculateTextQuotaSummary setting info (some usage.semanticUsage)).quota =
        (calculateTextQuotaSummary setting info (some (usageFromClaudeAPIUsage usage))).quota ↔
      ¬(usage.cacheOnly = true ∧ toolCallSurcharge setting info = 0 ∧
        info.priceData.modelRatio * info.priceData.groupRatioInfo.groupRatio ≠ 0) := by
  obtain ⟨own, converted⟩ := quota_usageFromClaudeAPIUsage setting plain byRatio other
  obtain ⟨input, output, cacheRead, cacheCreation, fits, -, -⟩ := plain
  rw [own, converted]
  change _ ↔ ¬(_ ∧ _ ∧ info.priceData.ratio ≠ 0)
  have cacheOnly : usage.cacheOnly = true ↔ usage.inputTokens + usage.outputTokens ≤ 0 ∧
      0 < usage.inputTokens + usage.cacheReadInputTokens + usage.cacheCreationInputTokens + usage.outputTokens := by
    rw [ClaudeUsage.cacheOnly, decide_eq_true_iff]
    omega
  rw [cacheOnly]
  by_cases tools : toolCallSurcharge setting info = 0
  · by_cases tokens : usage.inputTokens + usage.outputTokens ≤ 0
    · by_cases cache : 0 < usage.inputTokens + usage.cacheReadInputTokens + usage.cacheCreationInputTokens + usage.outputTokens
      · -- A cache-only request is free for the first dialect, and for the second only without a ratio.
        have unbilled : hasBillableUsage (usage.inputTokens + usage.outputTokens) (toolCallSurcharge setting info) = false := by
          simp [hasBillableUsage, tools, tokens]
        have billed : hasBillableUsage (usage.inputTokens + usage.cacheReadInputTokens + usage.cacheCreationInputTokens +
            usage.outputTokens) (toolCallSurcharge setting info) = true := by
          simp [hasBillableUsage, cache]
        rw [unbilled, billed, chargedQuota_unbilled]
        by_cases free : info.priceData.ratio = 0
        · have nothing : roundedQuota (exactQuota setting info usage.semanticUsage true) = 0 := by
            rw [exactQuota_free setting byRatio free tools, roundedQuota_zero]
          simp [nothing, chargedQuota, free]
        · have paid := chargedQuota_ne_zero free (roundedQuota (exactQuota setting info usage.semanticUsage true))
          simp [tokens, cache, tools, free, paid.symm]
      · have none : usage.inputTokens + usage.cacheReadInputTokens + usage.cacheCreationInputTokens + usage.outputTokens =
            usage.inputTokens + usage.outputTokens := by omega
        simp [none, tokens]
    · have more : 0 < usage.inputTokens + usage.cacheReadInputTokens + usage.cacheCreationInputTokens + usage.outputTokens := by
        omega
      simp [hasBillableUsage, tokens, more, not_le.mp tokens]
  · simp [hasBillableUsage, tools]

def claudeRequest : TextRelayInfo where
  originModelName := "claude-sonnet-4"
  relayFormat := .claude
  priceData := { modelRatio := 3 / 2, completionRatio := 5, cacheRatio := 1 / 10, cacheCreationRatio := 5 / 4 }

theorem quota_dialects_agree_with_input :
    let usage : ClaudeUsage := { inputTokens := 3, outputTokens := 40, cacheReadInputTokens := 1000 }
    (calculateTextQuotaSummary {} claudeRequest (some usage.semanticUsage)).quota =
      (calculateTextQuotaSummary {} claudeRequest (some (usageFromClaudeAPIUsage usage))).quota := by
  intro usage
  have plain : usage.Plain := by constructor <;> decide
  exact (quota_dialects_agree_iff {} claudeRequest usage plain rfl rfl).mpr (by decide +kernel)

/-- A prompt served from the cache and answered with nothing is free in one
dialect and charged in the other. -/
theorem quota_dialects_cache_only :
    let usage : ClaudeUsage := { inputTokens := 0, outputTokens := 0, cacheReadInputTokens := 1000 }
    (calculateTextQuotaSummary {} claudeRequest (some usage.semanticUsage)).quota = 0 ∧
      (calculateTextQuotaSummary {} claudeRequest (some (usageFromClaudeAPIUsage usage))).quota = 150 := by
  decide +kernel

end LLMHub
