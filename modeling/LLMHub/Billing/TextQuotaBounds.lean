import LLMHub.Billing.TextQuota

namespace LLMHub

theorem saturateQuota_mono (op : String) {x y : Int} (le : x ≤ y) : (saturateQuota x op).1 ≤ (saturateQuota y op).1 := by
  unfold saturateQuota maxQuota minQuota
  split_ifs <;> dsimp only <;> omega

theorem saturateQuota_bounds (op : String) {x : Int} (nonneg : 0 ≤ x) :
    0 ≤ (saturateQuota x op).1 ∧ (saturateQuota x op).1 ≤ 2 ^ 31 - 1 ∧ (0 < x → 0 < (saturateQuota x op).1) := by
  unfold saturateQuota maxQuota minQuota
  split_ifs <;> dsimp only <;> omega

/-- Counts as upstream reports them. -/
structure BilledUsage.Nonneg (usage : BilledUsage) : Prop where
  prompt : 0 ≤ usage.promptTokens
  completion : 0 ≤ usage.completionTokens
  cached : 0 ≤ usage.promptTokensDetails.cachedTokens
  cachedCreation : 0 ≤ usage.promptTokensDetails.cachedCreationTokens
  cacheWrite : 0 ≤ usage.promptTokensDetails.cacheWriteTokens
  creation5m : 0 ≤ usage.claudeCacheCreation5mTokens
  creation1h : 0 ≤ usage.claudeCacheCreation1hTokens
  image : 0 ≤ usage.imageTokens
  audio : 0 ≤ usage.audioTokens

structure PriceData.Nonneg (price : PriceData) : Prop where
  modelPrice : 0 ≤ price.modelPrice
  modelRatio : 0 ≤ price.modelRatio
  completion : 0 ≤ price.completionRatio
  cache : 0 ≤ price.cacheRatio
  cacheCreation : 0 ≤ price.cacheCreationRatio
  cacheCreation5m : 0 ≤ price.cacheCreation5mRatio
  cacheCreation1h : 0 ≤ price.cacheCreation1hRatio
  image : 0 ≤ price.imageRatio
  group : 0 ≤ price.groupRatioInfo.groupRatio

theorem PriceData.Nonneg.ratio {price : PriceData} (prices : price.Nonneg) : 0 ≤ price.ratio :=
  mul_nonneg prices.modelRatio prices.group

/-- The other ratios are one positive factor. -/
theorem PriceData.applyOtherRatiosToDecimal_factor (price : PriceData) :
    ∃ factor : ℚ, 0 < factor ∧ ∀ value, price.applyOtherRatiosToDecimal value = value * factor := by
  unfold PriceData.applyOtherRatiosToDecimal
  induction price.otherRatios with
  | nil => exact ⟨1, one_pos, fun value => (mul_one value).symm⟩
  | cons entry rest ih =>
    obtain ⟨factor, positive, scales⟩ := ih
    obtain ⟨name, ratio⟩ := entry
    by_cases used : (isValidOtherRatio ratio && ratio ≠ 1) = true
    · have valid : 0 < ratio := by simpa [isValidOtherRatio] using (Bool.and_eq_true_iff.mp used).1
      refine ⟨ratio * factor, mul_pos valid positive, fun value => ?_⟩
      rw [List.foldl_cons, scales]
      dsimp only
      rw [if_pos used, mul_assoc]
    · refine ⟨factor, positive, fun value => ?_⟩
      rw [List.foldl_cons, scales]
      dsimp only
      rw [if_neg used]

section Nonneg
variable {setting : TextQuotaSetting} {price : PriceData} {usage : BilledUsage}

theorem remainingCacheCreation_nonneg (tokens : TextTokens) : 0 ≤ remainingCacheCreation tokens := by
  unfold remainingCacheCreation
  dsimp only
  split <;> omega

theorem baseTokens_nonneg (tokens : TextTokens) (apart : Bool) (audioInputPrice : ℚ) :
    0 ≤ baseTokens tokens apart audioInputPrice := by
  unfold baseTokens
  dsimp only
  split <;> omega

theorem cacheCreationTokensTotal_nonneg (details : InputTokenDetails) : 0 ≤ details.cacheCreationTokensTotal := by
  unfold InputTokenDetails.cacheCreationTokensTotal
  dsimp only
  split <;> omega

theorem cachedCreationTokensWithRatio_nonneg (prices : price.Nonneg) (counts : usage.Nonneg) (apart : Bool) :
    0 ≤ cachedCreationTokensWithRatio price (textTokens usage) apart := by
  have remaining : (0 : ℚ) ≤ remainingCacheCreation (textTokens usage) := by exact_mod_cast remainingCacheCreation_nonneg _
  have creation : (0 : ℚ) ≤ (textTokens usage).cacheCreationTokens := by exact_mod_cast cacheCreationTokensTotal_nonneg _
  have creation5m : (0 : ℚ) ≤ (textTokens usage).cacheCreationTokens5m := by exact_mod_cast counts.creation5m
  have creation1h : (0 : ℚ) ≤ (textTokens usage).cacheCreationTokens1h := by exact_mod_cast counts.creation1h
  unfold cachedCreationTokensWithRatio
  split
  · split
    · exact add_nonneg (add_nonneg (mul_nonneg remaining prices.cacheCreation) (mul_nonneg creation5m prices.cacheCreation5m))
        (mul_nonneg creation1h prices.cacheCreation1h)
    · exact mul_nonneg creation prices.cacheCreation
  · exact le_rfl

theorem promptQuota_nonneg (prices : price.Nonneg) (counts : usage.Nonneg) (apart : Bool) (audioInputPrice : ℚ) :
    0 ≤ promptQuota price (textTokens usage) apart audioInputPrice := by
  have base : (0 : ℚ) ≤ baseTokens (textTokens usage) apart audioInputPrice := by exact_mod_cast baseTokens_nonneg _ _ _
  have cached : (0 : ℚ) ≤ (textTokens usage).cacheTokens := by exact_mod_cast counts.cached
  have image : (0 : ℚ) ≤ (textTokens usage).imageTokens := by exact_mod_cast counts.image
  exact add_nonneg (add_nonneg (add_nonneg base (mul_nonneg cached prices.cache)) (mul_nonneg image prices.image))
    (cachedCreationTokensWithRatio_nonneg prices counts apart)

theorem audioInputQuota_nonneg (unit : 0 ≤ setting.quotaPerUnit) (prices : price.Nonneg) (counts : usage.Nonneg)
    (audioInputPrice : ℚ) : 0 ≤ audioInputQuota setting price (textTokens usage) audioInputPrice := by
  have audio : (0 : ℚ) ≤ (textTokens usage).audioTokens := by exact_mod_cast counts.audio
  have group := prices.group
  unfold audioInputQuota
  split
  · rename_i priced
    have priced := priced.le
    positivity
  · exact le_rfl

/-- The quota by tokens before the floor of one, growing with the completion. -/
theorem ratioQuota_affine (unit : 0 ≤ setting.quotaPerUnit) (prices : price.Nonneg) (counts : usage.Nonneg) (apart : Bool)
    (audioInputPrice : ℚ) {surcharge : ℚ} (billed : 0 ≤ surcharge) :
    ∃ fixed rate : ℚ, 0 ≤ fixed ∧ 0 ≤ rate ∧ ∀ completion : Int,
      ratioQuota setting price { textTokens usage with completionTokens := completion } apart audioInputPrice surcharge =
        if price.ratio ≠ 0 ∧ fixed + completion * rate ≤ 0 then 1 else fixed + completion * rate := by
  obtain ⟨factor, positive, scales⟩ := price.applyOtherRatiosToDecimal_factor
  have prompt := promptQuota_nonneg prices counts apart audioInputPrice
  have audio := audioInputQuota_nonneg unit prices counts audioInputPrice
  have ratio := prices.ratio
  have completes := prices.completion
  refine ⟨(promptQuota price (textTokens usage) apart audioInputPrice * price.ratio +
      audioInputQuota setting price (textTokens usage) audioInputPrice) * factor + surcharge,
    price.completionRatio * price.ratio * factor, by positivity, by positivity, fun completion => ?_⟩
  have same : ((promptQuota price (textTokens usage) apart audioInputPrice + completion * price.completionRatio) * price.ratio +
      audioInputQuota setting price (textTokens usage) audioInputPrice) * factor + surcharge =
      (promptQuota price (textTokens usage) apart audioInputPrice * price.ratio +
        audioInputQuota setting price (textTokens usage) audioInputPrice) * factor + surcharge +
      completion * (price.completionRatio * price.ratio * factor) := by ring
  rw [← same, ← scales]
  rfl

theorem priceQuota_nonneg (unit : 0 ≤ setting.quotaPerUnit) (prices : price.Nonneg) {surcharge : ℚ} (billed : 0 ≤ surcharge) :
    0 ≤ priceQuota setting price surcharge := by
  obtain ⟨factor, positive, scales⟩ := price.applyOtherRatiosToDecimal_factor
  have modelPrice := prices.modelPrice
  have group := prices.group
  rw [priceQuota, scales]
  positivity

end Nonneg

def roundedQuota (quota : ℚ) : Int := (quotaFromDecimalChecked quota).1

theorem roundedQuota_mono {x y : ℚ} (nonneg : 0 ≤ x) (le : x ≤ y) : roundedQuota x ≤ roundedQuota y :=
  saturateQuota_mono _ (Go.round_mono nonneg le)

theorem roundedQuota_bounds {x : ℚ} (nonneg : 0 ≤ x) : 0 ≤ roundedQuota x ∧ roundedQuota x ≤ 2 ^ 31 - 1 :=
  have bounds := saturateQuota_bounds "QuotaFromDecimal" (Go.round_nonneg nonneg)
  ⟨bounds.1, bounds.2.1⟩

theorem roundedQuota_one : roundedQuota 1 = 1 := by decide +kernel

theorem roundedQuota_zero : roundedQuota 0 = 0 := by decide +kernel

/-- The two floors of one are one floor of the rounded quota. -/
theorem chargedQuota_floored {ratio x : ℚ} (nonneg : 0 ≤ x) :
    chargedQuota true ratio (roundedQuota (if ratio ≠ 0 ∧ x ≤ 0 then 1 else x)) =
      if ratio = 0 then roundedQuota x else max 1 (roundedQuota x) := by
  have bounds := (roundedQuota_bounds nonneg).1
  unfold chargedQuota
  by_cases free : ratio = 0
  · simp [free]
  · rw [if_neg free]
    by_cases none : x ≤ 0
    · obtain rfl : x = 0 := le_antisymm none nonneg
      simp [free, roundedQuota_one, roundedQuota_zero]
    · simp only [free, none, ne_eq, not_false_eq_true, and_false, true_and, ↓reduceIte, Bool.not_true, Bool.false_eq_true]
      split <;> omega

section Summary
variable (setting : TextQuotaSetting) (info : TextRelayInfo)

def toolCallSurcharge : ℚ :=
  calculateTextToolCallSurcharge (toolSurchargeItems setting.toolPrices info.toolUse info.originModelName)
    info.priceData.groupRatioInfo.groupRatio setting.quotaPerUnit

def audioPrice (usage : BilledUsage) : ℚ :=
  if !info.priceData.usePrice && usage.audioTokens ≠ 0 then getGeminiInputAudioPricePerMillionTokens info.originModelName else 0

def exactQuota (usage : BilledUsage) (apart : Bool) : ℚ :=
  if info.priceData.usePrice then priceQuota setting info.priceData (toolCallSurcharge setting info)
  else ratioQuota setting info.priceData (textTokens usage) apart (audioPrice info usage) (toolCallSurcharge setting info)

variable {setting info}

variable (setting) in
/-- The summary outside OpenRouter. -/
theorem calculateTextQuotaSummary_quota (other : info.openRouter = false) (given : Option BilledUsage) :
    let summary := calculateTextQuotaSummary setting info given
    let usage := billedUsage info given
    summary.totalTokens = Go.int64 (usage.promptTokens + usage.completionTokens) ∧
      summary.toolCallSurchargeQuota = toolCallSurcharge setting info ∧
      summary.quota = chargedQuota (hasBillableUsage summary.totalTokens summary.toolCallSurchargeQuota) info.priceData.ratio
        (roundedQuota (exactQuota setting info usage (cacheApart info usage (usageSemanticFromUsage info given = "anthropic")))) := by
  simp only [calculateTextQuotaSummary, other, Bool.false_and, Bool.false_eq_true, ↓reduceIte]
  exact ⟨rfl, rfl, rfl⟩

theorem toolCallSurcharge_nonneg (unit : 0 ≤ setting.quotaPerUnit) (prices : info.priceData.Nonneg) :
    0 ≤ toolCallSurcharge setting info :=
  calculateTextToolCallSurcharge_nonneg (toolSurchargeItems_billable _ _ _) prices.group unit

theorem exactQuota_nonneg (unit : 0 ≤ setting.quotaPerUnit) (prices : info.priceData.Nonneg) {usage : BilledUsage}
    (counts : usage.Nonneg) (apart : Bool) : 0 ≤ exactQuota setting info usage apart := by
  have billed := toolCallSurcharge_nonneg unit prices
  unfold exactQuota
  split
  · exact priceQuota_nonneg unit prices billed
  · obtain ⟨fixed, rate, start, grows, affine⟩ := ratioQuota_affine unit prices counts apart (audioPrice info usage) billed
    have completion : (0 : ℚ) ≤ usage.completionTokens := by exact_mod_cast counts.completion
    have form := affine usage.completionTokens
    change ratioQuota setting info.priceData (textTokens usage) _ _ _ = _ at form
    rw [form]
    split
    · exact zero_le_one
    · positivity

@[simp] theorem chargedQuota_unbilled (ratio : ℚ) (quota : Int) : chargedQuota false ratio quota = 0 := rfl

theorem chargedQuota_bounds (billable : Bool) (ratio : ℚ) {quota : Int} (nonneg : 0 ≤ quota) (below : quota ≤ 2 ^ 31 - 1) :
    0 ≤ chargedQuota billable ratio quota ∧ chargedQuota billable ratio quota ≤ 2 ^ 31 - 1 ∧
      (billable = true → ratio ≠ 0 → 1 ≤ chargedQuota billable ratio quota) := by
  unfold chargedQuota
  split
  · rename_i none
    exact ⟨le_rfl, by norm_num, fun some => by simp [some] at none⟩
  · split
    · exact ⟨by norm_num, by norm_num, fun _ _ => le_rfl⟩
    · rename_i kept
      exact ⟨nonneg, below, fun _ paid => by have := mt (And.intro paid) kept; omega⟩

/-- What is charged for a usage grows with the completion. -/
theorem chargedQuota_completion (unit : 0 ≤ setting.quotaPerUnit) (prices : info.priceData.Nonneg) {usage : BilledUsage}
    (counts : usage.Nonneg) (apart : Bool) {completion : Int} (more : usage.completionTokens ≤ completion) :
    chargedQuota true info.priceData.ratio (roundedQuota (exactQuota setting info usage apart)) ≤
      chargedQuota true info.priceData.ratio
        (roundedQuota (exactQuota setting info { usage with completionTokens := completion } apart)) := by
  have billed := toolCallSurcharge_nonneg unit prices
  have zero := counts.completion
  unfold exactQuota
  split
  · exact le_rfl
  · obtain ⟨fixed, rate, start, grows, affine⟩ := ratioQuota_affine unit prices counts apart (audioPrice info usage) billed
    have less := affine usage.completionTokens
    have bigger := affine completion
    change ratioQuota setting info.priceData (textTokens usage) _ _ _ = _ at less
    change ratioQuota setting info.priceData (textTokens { usage with completionTokens := completion }) _
      (audioPrice info { usage with completionTokens := completion }) _ = _ at bigger
    have own : (0 : ℚ) ≤ usage.completionTokens := by exact_mod_cast zero
    have step : (usage.completionTokens : ℚ) ≤ completion := by exact_mod_cast more
    have nonneg : 0 ≤ fixed + usage.completionTokens * rate := by positivity
    have le : fixed + usage.completionTokens * rate ≤ fixed + completion * rate :=
      add_le_add_right (mul_le_mul_of_nonneg_right step grows) fixed
    rw [less, bigger, chargedQuota_floored nonneg, chargedQuota_floored (nonneg.trans le)]
    have rounded := roundedQuota_mono nonneg le
    split
    · exact rounded
    · exact max_le_max le_rfl rounded

def apartOf (info : TextRelayInfo) (usage : BilledUsage) : Bool :=
  cacheApart info usage (usageSemanticFromUsage info (some usage) = "anthropic")

theorem usageSemanticFromUsage_some (info : TextRelayInfo) (usage : BilledUsage) :
    usageSemanticFromUsage info (some usage) =
      if usage.usageSemantic = "" then usageSemanticFromUsage info none else usage.usageSemantic := by
  unfold usageSemanticFromUsage
  by_cases named : usage.usageSemantic = "" <;> simp [Option.filter_some, named]

theorem apartOf_completion (info : TextRelayInfo) (usage : BilledUsage) (completion : Int) :
    apartOf info { usage with completionTokens := completion } = apartOf info usage := by
  unfold apartOf
  rw [usageSemanticFromUsage_some, usageSemanticFromUsage_some]
  rfl

theorem quota_of_usage (other : info.openRouter = false) (usage : BilledUsage) :
    (calculateTextQuotaSummary setting info (some usage)).quota =
      chargedQuota (hasBillableUsage (Go.int64 (usage.promptTokens + usage.completionTokens)) (toolCallSurcharge setting info))
        info.priceData.ratio (roundedQuota (exactQuota setting info usage (apartOf info usage))) := by
  obtain ⟨total, surcharge, quota⟩ := calculateTextQuotaSummary_quota setting other (some usage)
  rw [quota, total, surcharge]
  rfl

theorem hasBillableUsage_mono {total total' : Int} {surcharge : ℚ} (more : total ≤ total')
    (billable : hasBillableUsage total surcharge = true) : hasBillableUsage total' surcharge = true := by
  rw [hasBillableUsage, Bool.or_eq_true, decide_eq_true_eq] at *
  exact billable.imp_left more.trans_lt'

theorem quota_completion (unit : 0 ≤ setting.quotaPerUnit) (prices : info.priceData.Nonneg) (other : info.openRouter = false)
    {usage : BilledUsage} (counts : usage.Nonneg) {completion : Int} (more : usage.completionTokens ≤ completion)
    (fits : usage.promptTokens + completion < 2 ^ 63) :
    (calculateTextQuotaSummary setting info (some usage)).quota ≤
      (calculateTextQuotaSummary setting info (some { usage with completionTokens := completion })).quota := by
  have zero := counts.prompt
  have own := counts.completion
  have grown : BilledUsage.Nonneg { usage with completionTokens := completion } := { counts with completion := own.trans more }
  have grows := chargedQuota_completion unit prices counts (apartOf info usage) more
  rw [quota_of_usage other, quota_of_usage other, apartOf_completion info usage completion, Go.int64_eq_self (by omega) (by omega),
    Go.int64_eq_self (by dsimp only; omega) (by dsimp only; omega)]
  have more : usage.promptTokens + usage.completionTokens ≤ usage.promptTokens + completion := by omega
  -- A usage that is billable stays so.
  cases billable : hasBillableUsage (usage.promptTokens + usage.completionTokens) (toolCallSurcharge setting info) with
  | false =>
    obtain ⟨low, high⟩ := roundedQuota_bounds (exactQuota_nonneg unit prices grown (apartOf info usage))
    rw [chargedQuota_unbilled]
    exact (chargedQuota_bounds _ info.priceData.ratio low high).1
  | true =>
    rw [hasBillableUsage_mono more billable]
    exact grows

end Summary

/-- The quota of a text request fits its column, is nothing without billable
usage, at least one unit with it, and does not fall when the completion grows
within the integers. -/
theorem text_quota_bounded_positive_monotone (setting : TextQuotaSetting) (info : TextRelayInfo) (given : Option BilledUsage)
    (unit : 0 ≤ setting.quotaPerUnit) (prices : info.priceData.Nonneg) (counts : (billedUsage info given).Nonneg)
    (other : info.openRouter = false) :
    let summary := calculateTextQuotaSummary setting info given
    0 ≤ summary.quota ∧ summary.quota ≤ 2 ^ 31 - 1 ∧
      (hasBillableUsage summary.totalTokens summary.toolCallSurchargeQuota = false → summary.quota = 0) ∧
      (hasBillableUsage summary.totalTokens summary.toolCallSurchargeQuota = true →
        info.priceData.modelRatio * info.priceData.groupRatioInfo.groupRatio ≠ 0 → 1 ≤ summary.quota) ∧
      ∀ usage completion, given = some usage → usage.completionTokens ≤ completion →
        usage.promptTokens + completion < 2 ^ 63 →
        summary.quota ≤ (calculateTextQuotaSummary setting info (some { usage with completionTokens := completion })).quota := by
  intro summary
  obtain ⟨total, surcharge, quota⟩ := calculateTextQuotaSummary_quota setting other given
  obtain ⟨low, high⟩ := roundedQuota_bounds (exactQuota_nonneg unit prices counts
    (cacheApart info (billedUsage info given) (usageSemanticFromUsage info given = "anthropic")))
  have bounds := chargedQuota_bounds (hasBillableUsage summary.totalTokens summary.toolCallSurchargeQuota)
    info.priceData.ratio low high
  rw [← quota] at bounds
  refine ⟨bounds.1, bounds.2.1, fun none => ?_, bounds.2.2, ?_⟩
  · rw [quota, none]
    rfl
  · rintro usage completion rfl more fits
    exact quota_completion unit prices other counts more fits

def pricedRequest : TextRelayInfo where
  originModelName := "gpt-4o"
  relayFormat := .openAI
  priceData := { modelRatio := 2, completionRatio := 4, groupRatioInfo := { groupRatio := 1 } }

theorem text_quota_growing_completion :
    let usage : BilledUsage := { promptTokens := 10, completionTokens := 3 }
    1 ≤ (calculateTextQuotaSummary {} pricedRequest (some usage)).quota ∧
      (calculateTextQuotaSummary {} pricedRequest (some usage)).quota ≤
        (calculateTextQuotaSummary {} pricedRequest (some { usage with completionTokens := 5 })).quota := by
  have counts : (billedUsage pricedRequest (some { promptTokens := 10, completionTokens := 3 })).Nonneg := by
    constructor <;> decide
  have prices : pricedRequest.priceData.Nonneg := by
    constructor <;> decide
  obtain ⟨-, -, -, charged, grows⟩ := text_quota_bounded_positive_monotone {} pricedRequest
    (some { promptTokens := 10, completionTokens := 3 }) (by norm_num) prices counts rfl
  exact ⟨charged (by decide +kernel) (by decide +kernel), grows _ 5 rfl (by norm_num) (by norm_num)⟩

/-- One more completion token wraps the total below zero, and a request at the
highest quota becomes one without billable usage. -/
theorem text_quota_total_wraps :
    let usage : BilledUsage := { promptTokens := 2 ^ 62, completionTokens := 2 ^ 62 - 1 }
    (calculateTextQuotaSummary {} pricedRequest (some usage)).quota = 2 ^ 31 - 1 ∧
      (calculateTextQuotaSummary {} pricedRequest (some { usage with completionTokens := 2 ^ 62 })).quota = 0 := by
  decide +kernel

end LLMHub
