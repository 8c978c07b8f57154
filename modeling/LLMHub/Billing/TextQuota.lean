import LLMHub.Billing.ToolSurcharge
import LLMHub.QuotaMath
import LLMHub.RelayConvert.ChatStream
import LLMHub.Routing.Pricing

namespace LLMHub

/-- `Usage` with the fields that only billing reads. A `Cost` is a JSON number
or missing. -/
structure BilledUsage extends Usage where
  imageTokens : Int := 0
  audioTokens : Int := 0
  usageSemantic : String := ""
  usageSource : String := ""
  cost : Option ℚ := none
  deriving DecidableEq, Repr

/-- The prices of a request. Ratios and prices are exact rationals here. -/
structure PriceData where
  modelPrice : ℚ := 0
  modelRatio : ℚ := 0
  completionRatio : ℚ := 0
  cacheRatio : ℚ := 0
  cacheCreationRatio : ℚ := 0
  cacheCreation5mRatio : ℚ := 0
  cacheCreation1hRatio : ℚ := 0
  imageRatio : ℚ := 0
  otherRatios : List (String × ℚ) := []
  usePrice : Bool := false
  groupRatioInfo : GroupRatioInfo := {}

def isValidOtherRatio (ratio : ℚ) : Bool := ratio > 0

def PriceData.applyOtherRatiosToDecimal (p : PriceData) (value : ℚ) : ℚ :=
  p.otherRatios.foldl (fun value (_, ratio) => if isValidOtherRatio ratio && ratio ≠ 1 then value * ratio else value) value

inductive RelayFormat
  | openAI
  | claude
  | gemini
  | openAIResponses
  | openAIResponsesCompaction
  | openAIAlphaSearch
  | openAIAudio
  | openAIImage
  | openAIRealtime
  | rerank
  | embedding
  | task
  | mjProxy
  deriving DecidableEq, Repr

/-- What billing reads of the relayed request. `openRouter` tells whether there
is a channel of that type. -/
structure TextRelayInfo where
  originModelName : String
  relayFormat : RelayFormat
  finalRequestRelayFormat : Option RelayFormat := none
  requestConversionChain : List RelayFormat := []
  openRouter : Bool := false
  estimatePromptTokens : Int := 0
  toolUse : ToolUse := {}
  priceData : PriceData

def TextRelayInfo.getFinalRequestRelayFormat (info : TextRelayInfo) : RelayFormat :=
  info.finalRequestRelayFormat.getD (info.requestConversionChain.getLastD info.relayFormat)

/-- The operator's settings that billing reads. -/
structure TextQuotaSetting where
  quotaPerUnit : ℚ := 500000
  toolPrices : ToolPriceIndex := {}
  defaultModelRatio : String → Option ℚ := fun _ => none

def getGeminiInputAudioPricePerMillionTokens (modelName : String) : ℚ :=
  if Go.startsWith modelName "gemini-2.5-flash-preview-native-audio" then 3
  else if Go.startsWith modelName "gemini-2.5-flash-preview-lite" then 1 / 2
  else if Go.startsWith modelName "gemini-2.5-flash-preview" then 1
  else if Go.startsWith modelName "gemini-2.5-flash" then 1
  else if Go.startsWith modelName "gemini-2.0-flash" then 7 / 10
  else if Go.startsWith modelName "gemini-robotics-er-1.5" then 1
  else 0

def hasCustomModelRatio (setting : TextQuotaSetting) (modelName : String) (currentRatio : ℚ) : Bool :=
  match setting.defaultModelRatio modelName with
  | none => true
  | some defaultRatio => currentRatio ≠ defaultRatio

def usageSemanticFromUsage (info : TextRelayInfo) (usage : Option BilledUsage) : String :=
  match usage.filter (·.usageSemantic ≠ "") with
  | some usage => usage.usageSemantic
  | none => if info.getFinalRequestRelayFormat = .claude then "anthropic" else "openai"

def isLegacyClaudeDerivedOpenAIUsage (info : TextRelayInfo) (usage : BilledUsage) : Bool :=
  info.getFinalRequestRelayFormat ≠ .claude && !(usage.usageSource ≠ "" || usage.usageSemantic ≠ "") &&
    (usage.claudeCacheCreation5mTokens > 0 || usage.claudeCacheCreation1hTokens > 0)

/-- The part of `textQuotaSummary` that is read from the usage. -/
structure TextTokens where
  promptTokens : Int
  completionTokens : Int
  totalTokens : Int
  cacheTokens : Int
  cacheCreationTokens : Int
  cacheCreationTokens5m : Int
  cacheCreationTokens1h : Int
  imageTokens : Int
  audioTokens : Int
  deriving DecidableEq, Repr

def textTokens (usage : BilledUsage) : TextTokens where
  promptTokens := usage.promptTokens
  completionTokens := usage.completionTokens
  totalTokens := Go.int64 (usage.promptTokens + usage.completionTokens)
  cacheTokens := usage.promptTokensDetails.cachedTokens
  cacheCreationTokens := usage.promptTokensDetails.cacheCreationTokensTotal
  cacheCreationTokens5m := usage.claudeCacheCreation5mTokens
  cacheCreationTokens1h := usage.claudeCacheCreation1hTokens
  imageTokens := usage.imageTokens
  audioTokens := usage.audioTokens

def calcOpenRouterCacheCreateTokens (setting : TextQuotaSetting) (usage : BilledUsage) (priceData : PriceData) : Int :=
  if priceData.cacheCreationRatio = 1 then 0
  else
    let quotaPrice := priceData.modelRatio / setting.quotaPerUnit
    let promptCacheCreatePrice := quotaPrice * priceData.cacheCreationRatio
    let promptCacheReadPrice := quotaPrice * priceData.cacheRatio
    let completionPrice := quotaPrice * priceData.completionRatio
    Go.round ((usage.cost.getD 0 - usage.promptTokens * quotaPrice +
      usage.promptTokensDetails.cachedTokens * (quotaPrice - promptCacheReadPrice) -
      usage.completionTokens * completionPrice) / (promptCacheCreatePrice - quotaPrice))

/-- OpenRouter counts the cache into the prompt under Claude semantics too, and
may leave the cache writes to be guessed from the cost. -/
def openRouterTokens (setting : TextQuotaSetting) (info : TextRelayInfo) (usage : BilledUsage) (tokens : TextTokens) : TextTokens :=
  let tokens := { tokens with promptTokens := Go.int64 (tokens.promptTokens - tokens.cacheTokens) }
  let isUsingCustomSettings :=
    info.priceData.usePrice || hasCustomModelRatio setting info.originModelName info.priceData.modelRatio
  -- `usage.Cost != 0` compares with an int, which a JSON number never is.
  let tokens := if tokens.cacheCreationTokens = 0 ∧ info.priceData.cacheCreationRatio ≠ 1 ∧ !isUsingCustomSettings then
      let maybe := calcOpenRouterCacheCreateTokens setting usage info.priceData
      if maybe ≥ 0 ∧ tokens.promptTokens ≥ maybe then { tokens with cacheCreationTokens := maybe } else tokens
    else tokens
  { tokens with promptTokens := Go.int64 (tokens.promptTokens - tokens.cacheCreationTokens) }

/-- The cache tokens are no part of the prompt tokens. -/
def cacheApart (info : TextRelayInfo) (usage : BilledUsage) (isClaudeUsageSemantic : Bool) : Bool :=
  isClaudeUsageSemantic || isLegacyClaudeDerivedOpenAIUsage info usage

/-- `remaining`: the cache writes of neither lifetime. -/
def remainingCacheCreation (tokens : TextTokens) : Int :=
  let remaining := Go.int64 (tokens.cacheCreationTokens - tokens.cacheCreationTokens5m - tokens.cacheCreationTokens1h)
  if remaining < 0 then 0 else remaining

def cachedCreationTokensWithRatio (price : PriceData) (tokens : TextTokens) (apart : Bool) : ℚ :=
  if tokens.cacheCreationTokens ≠ 0 ∨ tokens.cacheCreationTokens5m > 0 ∨ tokens.cacheCreationTokens1h > 0 then
    if apart then
      remainingCacheCreation tokens * price.cacheCreationRatio + tokens.cacheCreationTokens5m * price.cacheCreation5mRatio +
        tokens.cacheCreationTokens1h * price.cacheCreation1hRatio
    else tokens.cacheCreationTokens * price.cacheCreationRatio
  else 0

/-- The prompt tokens at the plain price. Reported counts may overlap, so what
is left is never taken below zero. -/
def baseTokens (tokens : TextTokens) (apart : Bool) (audioInputPrice : ℚ) : Int :=
  let base := if apart then tokens.promptTokens else tokens.promptTokens - tokens.cacheTokens - tokens.cacheCreationTokens
  let base := base - tokens.imageTokens
  let base := if audioInputPrice > 0 then base - tokens.audioTokens else base
  if base < 0 then 0 else base

def audioInputQuota (setting : TextQuotaSetting) (price : PriceData) (tokens : TextTokens) (audioInputPrice : ℚ) : ℚ :=
  if audioInputPrice > 0 then
    audioInputPrice / 1000000 * tokens.audioTokens * price.groupRatioInfo.groupRatio * setting.quotaPerUnit
  else 0

def PriceData.ratio (price : PriceData) : ℚ := price.modelRatio * price.groupRatioInfo.groupRatio

def promptQuota (price : PriceData) (tokens : TextTokens) (apart : Bool) (audioInputPrice : ℚ) : ℚ :=
  baseTokens tokens apart audioInputPrice + tokens.cacheTokens * price.cacheRatio + tokens.imageTokens * price.imageRatio +
    cachedCreationTokensWithRatio price tokens apart

def ratioQuota (setting : TextQuotaSetting) (price : PriceData) (tokens : TextTokens) (apart : Bool)
    (audioInputPrice surcharge : ℚ) : ℚ :=
  let quota := (promptQuota price tokens apart audioInputPrice + tokens.completionTokens * price.completionRatio) * price.ratio +
    audioInputQuota setting price tokens audioInputPrice
  let quota := price.applyOtherRatiosToDecimal quota + surcharge
  if price.ratio ≠ 0 ∧ quota ≤ 0 then 1 else quota

def priceQuota (setting : TextQuotaSetting) (price : PriceData) (surcharge : ℚ) : ℚ :=
  price.applyOtherRatiosToDecimal (price.modelPrice * setting.quotaPerUnit * price.groupRatioInfo.groupRatio) + surcharge

def quotaFromDecimalChecked (d : ℚ) : Int × Option QuotaClamp := saturateQuota (Go.round d) "QuotaFromDecimal"

structure TextQuotaSummary extends TextTokens where
  usageSemantic : String
  isClaudeUsageSemantic : Bool
  audioInputPrice : ℚ
  toolSurchargeItems : List ToolSurchargeItem
  toolCallSurchargeQuota : ℚ
  quota : Int
  quotaClamp : Option QuotaClamp

/-- A request without tokens may still be billable for its tool calls. -/
def hasBillableUsage (totalTokens : Int) (toolCallSurchargeQuota : ℚ) : Bool :=
  totalTokens > 0 || toolCallSurchargeQuota ≠ 0

/-- The usage to bill: without one from upstream, the estimated prompt. -/
def billedUsage (info : TextRelayInfo) (usage : Option BilledUsage) : BilledUsage :=
  usage.getD { promptTokens := info.estimatePromptTokens, totalTokens := info.estimatePromptTokens }

/-- The last step: nothing for nothing, and at least one unit for something. -/
def chargedQuota (billable : Bool) (ratio : ℚ) (quota : Int) : Int :=
  if !billable then 0 else if ratio ≠ 0 ∧ quota = 0 then 1 else quota

def calculateTextQuotaSummary (setting : TextQuotaSetting) (info : TextRelayInfo) (given : Option BilledUsage) : TextQuotaSummary :=
  let price := info.priceData
  let usageSemantic := usageSemanticFromUsage info given
  let isClaudeUsageSemantic : Bool := usageSemantic = "anthropic"
  let usage := billedUsage info given
  let tokens := textTokens usage
  let tokens := if info.openRouter && isClaudeUsageSemantic then openRouterTokens setting info usage tokens else tokens
  let toolSurchargeItems := toolSurchargeItems setting.toolPrices info.toolUse info.originModelName
  let surcharge := calculateTextToolCallSurcharge toolSurchargeItems price.groupRatioInfo.groupRatio setting.quotaPerUnit
  -- The price of audio is looked up only where there is some to bill by tokens.
  let audioInputPrice := if !price.usePrice && tokens.audioTokens ≠ 0 then
      getGeminiInputAudioPricePerMillionTokens info.originModelName
    else 0
  let (quota, clamp) := quotaFromDecimalChecked <|
    if price.usePrice then priceQuota setting price surcharge
    else ratioQuota setting price tokens (cacheApart info usage isClaudeUsageSemantic) audioInputPrice surcharge
  { tokens with
    usageSemantic, isClaudeUsageSemantic, audioInputPrice, toolSurchargeItems
    toolCallSurchargeQuota := surcharge
    quota := chargedQuota (hasBillableUsage tokens.totalTokens surcharge) price.ratio quota
    quotaClamp := clamp }

end LLMHub
