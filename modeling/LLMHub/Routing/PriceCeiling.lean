import LLMHub.Routing.PolicySelection
import LLMHub.Routing.Pricing
import Mathlib.Data.Option.Basic

namespace LLMHub

/-- The price of a channel in this generation; a platform channel has the base
price. -/
def RoutingCache.multiplierOf (cache : RoutingCache) (channelID : Nat) : ℚ :=
  ((cache.hubSupplyPricingByChannel.lookup channelID).map (·.priceMultiplier)).getD 1

theorem decorateHubTierCandidateWithRuntimeHealth_keeps (signals : HubRoutingSignals)
    (candidate : HubTierChannelCandidate) (modelName requestPath : String) :
    (decorateHubTierCandidateWithRuntimeHealth signals candidate modelName requestPath).channelID =
        candidate.channelID ∧
      (decorateHubTierCandidateWithRuntimeHealth signals candidate modelName requestPath).multiplier =
        candidate.multiplier := by
  unfold decorateHubTierCandidateWithRuntimeHealth
  dsimp only
  split <;> exact ⟨rfl, rfl⟩

variable {cache : RoutingCache} {channelID : Nat} {policy : HubTokenRoutingPolicy} {modelName : String}
  {filter : ChannelProviderFilter} {c : HubTierChannelCandidate} {channels : Nat → Option RoutedChannel}
  {info : GroupRatioInfo} {context : RequestContext}

theorem supplyOffer_some {offer : ℚ × Nat}
    (offered : supplyOffer (cache.hubSupplyPricingByChannel.lookup channelID) = some offer) :
    offer.1 = cache.multiplierOf channelID := by
  unfold supplyOffer at offered
  unfold RoutingCache.multiplierOf
  cases found : cache.hubSupplyPricingByChannel.lookup channelID with
  | none =>
    rw [found] at offered
    obtain rfl := Option.some.inj offered
    rfl
  | some pricing =>
    rw [found] at offered
    dsimp only at offered
    split at offered
    · exact absurd offered (by simp)
    · obtain rfl := Option.some.inj offered
      rfl

/-- What the selection loop has checked of a candidate. -/
structure Admitted (cache : RoutingCache) (channels : Nat → Option RoutedChannel) (policy : HubTokenRoutingPolicy)
    (modelName : String) (filter : ChannelProviderFilter) (c : HubTierChannelCandidate) : Prop where
  found : ∃ channel, channels c.channelID = some channel ∧ channel.id = c.channelID
  selection : hubPolicyChannelMatchesSelection policy c.channelID filter.platformFallback = true
  price : c.multiplier = cache.multiplierOf c.channelID
  allowed : hubPolicyAllowsMultiplier policy modelName c.channelID c.multiplier filter.platformFallback = true

theorem hubPolicyCandidate_some {requestPath : String}
    (found : hubPolicyCandidate cache policy modelName requestPath filter channelID = some c) :
    c.channelID = channelID ∧ Admitted cache cache.channel policy modelName filter c := by
  obtain ⟨channel, cached, checks⟩ := Option.bind_eq_some_iff.mp found
  obtain ⟨_, checked, pricing⟩ := Option.bind_eq_some_iff.mp checks
  obtain ⟨⟨multiplier, provider⟩, offered, ceiling⟩ := Option.bind_eq_some_iff.mp pricing
  obtain ⟨_, allowed, decorated⟩ := Option.bind_eq_some_iff.mp ceiling
  obtain rfl := Option.some.inj decorated
  have kept := decorateHubTierCandidateWithRuntimeHealth_keeps cache.signals
    { channelID, priority := channel.getPriority, weight := channel.getWeight, provider, multiplier }
    modelName requestPath
  have guarded := (Option.guard_eq_some' _).mp checked
  simp only [Bool.and_eq_true] at guarded
  refine ⟨kept.1, ⟨⟨channel, ?_, ?_⟩, ?_, ?_, ?_⟩⟩
  · rw [kept.1]
    exact cached
  · rw [kept.1]
    simpa using List.find?_some cached
  · rw [kept.1]
    exact guarded.1.1.1.2
  · rw [kept.1, kept.2]
    exact supplyOffer_some offered
  · rw [kept.1, kept.2]
    exact (Option.guard_eq_some' _).mp allowed

/-- Every candidate of a policy selection was admitted, and none stands twice. -/
theorem hubPolicyCandidates_admitted (cache : RoutingCache) (order : List Nat) (policy : HubTokenRoutingPolicy)
    (modelName requestPath : String) (filter : ChannelProviderFilter) :
    (∀ c ∈ hubPolicyCandidates cache order policy modelName requestPath filter,
        Admitted cache cache.channel policy modelName filter c) ∧
      ((hubPolicyCandidates cache order policy modelName requestPath filter).map (·.channelID)).Nodup := by
  unfold hubPolicyCandidates
  refine List.foldlRecOn (motive := fun candidates : List HubTierChannelCandidate =>
    (∀ c ∈ candidates, Admitted cache cache.channel policy modelName filter c) ∧ (candidates.map (·.channelID)).Nodup) _ _
    ⟨fun _ member => absurd member List.not_mem_nil, List.nodup_nil⟩ ?_
  rintro candidates ⟨admitted, distinct⟩ channelID -
  split
  · exact ⟨admitted, distinct⟩
  · next fresh =>
    cases found : hubPolicyCandidate cache policy modelName requestPath filter channelID with
    | none => exact ⟨admitted, distinct⟩
    | some candidate =>
      obtain ⟨named, good⟩ := hubPolicyCandidate_some found
      refine ⟨fun c member => ?_, ?_⟩
      · rcases List.mem_append.mp member with earlier | new
        · exact admitted c earlier
        · exact List.mem_singleton.mp new ▸ good
      · simp only [List.any_eq_true, decide_eq_true_eq, not_exists, not_and] at fresh
        rw [List.map_append, List.map_singleton]
        refine List.Nodup.append distinct (List.nodup_singleton _) ?_
        rw [List.disjoint_singleton, named]
        intro again
        obtain ⟨c, member, same⟩ := List.mem_map.mp again
        exact fresh c member same

/-- A selected channel is a usable candidate, and its snapshot is captured from
the generation that admitted it. -/
theorem selectHubPolicyChannel_some {stages : Nat → Draw}
    {candidates : List HubTierChannelCandidate} {excluded : Finset Nat}
    {channel : RoutedChannel} {snapshot : HubSupplyPricingSnapshot}
    (admitted : ∀ c ∈ candidates, Admitted cache channels policy modelName filter c)
    (selected : selectHubPolicyChannel stages cache channels policy modelName candidates excluded filter =
      some (some (channel, snapshot))) :
    snapshot = cache.captureHubSupplyPricingSnapshot channel.id ∧
      (∃ c ∈ candidates, c.channelID = channel.id ∧ Usable excluded c) ∧
      (filter.platformFallback = true →
        ∃ preferred, policy.providerFallbackProtectionMultiplier modelName = some preferred) := by
  obtain ⟨id, chosen, returned⟩ := Option.bind_eq_some_iff.mp selected
  by_cases zero : id = 0
  · rw [if_pos zero] at returned
    exact absurd (Option.some.inj returned) (by simp)
  rw [if_neg zero] at returned
  obtain ⟨found, listed, same⟩ := Option.map_eq_some_iff.mp (Option.some.inj returned)
  obtain ⟨rfl, rfl⟩ := Prod.mk.inj same
  obtain ⟨⟨c, member, rfl, usable⟩, protection⟩ := selectHubTierChannelByHubPolicy_returns chosen zero
  obtain ⟨own, ownListed, named⟩ := (admitted c member).found
  obtain rfl := Option.some.inj (ownListed.symm.trans listed)
  rw [named]
  exact ⟨rfl, ⟨c, member, rfl, usable⟩, protection⟩

/-- A price before protection: the own price of the channel on a base of 1. -/
structure OwnPrice (own : ℚ) (info : GroupRatioInfo) : Prop where
  ratio : info.groupRatio = own
  base : info.baseGroupRatio = 1
  current : (if info.hasSupplyPricing then info.supplyMultiplier else 1) = own
  charged : ¬(info.hasSupplyPricing = true ∧ info.supplyGroupRatio ≤ 0)
  unprotected : info.fallbackPriceProtection = false

theorem applySupplyFees_keeps (fees : SettlementFees) (pricing : HubSupplyPricing) (info : GroupRatioInfo) :
    (applySupplyFees fees pricing info).baseGroupRatio = info.baseGroupRatio ∧
      (applySupplyFees fees pricing info).supplyMultiplier = info.supplyMultiplier ∧
      (applySupplyFees fees pricing info).supplyGroupRatio = info.supplyGroupRatio ∧
      (applySupplyFees fees pricing info).hasSupplyPricing = info.hasSupplyPricing ∧
      (applySupplyFees fees pricing info).fallbackPriceProtection = info.fallbackPriceProtection := by
  unfold applySupplyFees
  split <;> exact ⟨rfl, rfl, rfl, rfl, rfl⟩

theorem applyHubSupplyPricingSnapshot_ownPrice {fees : SettlementFees} {priced : GroupRatioInfo}
    {pricing : Option HubSupplyPricing} (base : info.groupRatio = 1)
    (ok : applyHubSupplyPricingSnapshot fees (resetHubSupplyPricing info) channelID pricing = .ok priced) :
    ∃ found, pricing = some found ∧ OwnPrice found.priceMultiplier priced := by
  unfold applyHubSupplyPricingSnapshot at ok
  cases pricing with
  | none => exact absurd ok (by simp)
  | some found =>
    dsimp only at ok
    split at ok
    · exact absurd ok (by simp)
    · split at ok
      · exact absurd ok (by simp)
      · next valid =>
        obtain rfl := Except.ok.inj ok
        push Not at valid
        refine ⟨found, rfl, ?_⟩
        obtain ⟨baseKept, multiplier, ratio, supplied, untouched⟩ :=
          applySupplyFees_keeps fees found (applySupplyPrice found (resetHubSupplyPricing info))
        have own : (applySupplyPrice found (resetHubSupplyPricing info)).supplyGroupRatio = found.priceMultiplier := by
          simp [applySupplyPrice, resetHubSupplyPricing, base]
        refine ⟨ratio.trans own, baseKept.trans base, ?_, ?_, untouched⟩
        · dsimp only
          rw [supplied, multiplier]
          rfl
        · dsimp only
          rw [ratio, own]
          intro free
          linarith [valid.1, free.2]

/-- The request is priced from the snapshot of its own channel. -/
theorem applyHubSupplyPricingFromRequest_ok {fees : SettlementFees}
    {configuredInDB : Nat → Except String Bool} {priced : GroupRatioInfo} (positive : 0 < channelID)
    (base : info.groupRatio = 1)
    (captured : context.hubSupplyPricingSnapshot = some (cache.captureHubSupplyPricingSnapshot channelID))
    (ok : applyHubSupplyPricingFromRequest fees cache configuredInDB context info channelID = .ok priced) :
    ∃ own, OwnPrice (cache.multiplierOf channelID) own ∧ priced = applyHubFallbackPriceProtection context own := by
  have snapshot : cache.captureHubSupplyPricingSnapshot channelID =
      ⟨channelID, cache.hubSupplyPricingByChannel.lookup channelID, channelID ∈ cache.hubSupplyConfiguredIDs⟩ :=
    if_neg (by omega)
  unfold applyHubSupplyPricingFromRequest at ok
  rw [captured, snapshot] at ok
  simp only [Option.filter_some, decide_true, if_true] at ok
  unfold RoutingCache.multiplierOf
  split at ok
  · next platform =>
    refine ⟨resetHubSupplyPricing info, ?_, (Except.ok.inj ok).symm⟩
    rw [platform.1]
    exact ⟨base, base, rfl, by simp [resetHubSupplyPricing], rfl⟩
  · cases supplied : applyHubSupplyPricingSnapshot fees (resetHubSupplyPricing info) channelID
        (cache.hubSupplyPricingByChannel.lookup channelID) with
    | error e =>
      rw [supplied] at ok
      exact absurd ok (by simp [bind, Except.bind])
    | ok own =>
      rw [supplied] at ok
      obtain ⟨found, pricing, price⟩ := applyHubSupplyPricingSnapshot_ownPrice base supplied
      refine ⟨own, ?_, (Except.ok.inj ok).symm⟩
      rw [pricing]
      exact price

theorem applyHubFallbackPriceProtection_preferred {own : ℚ}
    (price : OwnPrice own info) (preferred : context.hubRoutingFallback = false) :
    applyHubFallbackPriceProtection context info = info := by
  unfold applyHubFallbackPriceProtection
  rw [if_neg price.charged, if_pos (by simp [preferred])]

/-- On fallback the charge is the larger of the own and the protected price. -/
theorem applyHubFallbackPriceProtection_fallback {own first : ℚ} (price : OwnPrice own info) (ownGrid : Thousandths own)
    (firstGrid : Thousandths first) (fallback : context.hubRoutingFallback = true)
    (routed : context.hubTokenRoutingPolicy = some policy)
    (protection : policy.providerFallbackProtectionMultiplier context.modelName = some first) :
    (applyHubFallbackPriceProtection context info).groupRatio = max own first ∧
      ((applyHubFallbackPriceProtection context info).fallbackPriceProtection = true ↔ own < first) := by
  unfold applyHubFallbackPriceProtection
  rw [if_neg price.charged, if_neg (by simp [fallback]), routed]
  dsimp only
  rw [protection, price.current]
  dsimp only
  have below := ownGrid.lt_sub_tolerance firstGrid
  split
  · next above =>
    have notLess : ¬own < first := fun less => not_lt.mpr above (below.mpr less)
    exact ⟨price.ratio.trans (max_eq_left (not_lt.mp notLess)).symm, by simp [price.unprotected, notLess]⟩
  · next cheap =>
    have less : own < first := below.mp (not_le.mp cheap)
    exact ⟨by rw [price.base, one_mul, max_eq_right less.le], by simp [less]⟩

/-- On the grid a price of the list is the multiplier of a selected channel that
is configured for the model. -/
theorem configured_of_mem {value : ℚ} (grid : ∀ selected ∈ policy.channels, Thousandths selected.multiplier)
    (member : value ∈ policy.orderedMultipliersWith modelName true) :
    ∃ selected ∈ policy.channels,
      (selected.modelsFor true).any (hubRoutingModelMatches · modelName) = true ∧ value = selected.multiplier := by
  obtain ⟨selected, inside, offered⟩ := mem_orderedMultipliersWith.mp member
  obtain ⟨offers, rounded⟩ := selected.offer_some offered
  exact ⟨selected, inside, offers, rounded.trans (grid selected inside).round_eq⟩

theorem Admitted.preferred (admitted : Admitted cache channels policy modelName filter c)
    (phase : filter.platformFallback = false) (ownGrid : Thousandths c.multiplier)
    (grid : ∀ selected ∈ policy.channels, Thousandths selected.multiplier) :
    c.channelID ∈ policy.channelIDs ∧
      ∃ selected ∈ policy.channels, selected.channelID = c.channelID ∧ selected.multiplier = c.multiplier ∧
        selected.models.any (hubRoutingModelMatches · modelName) = true := by
  have selection := admitted.selection
  have allowed := admitted.allowed
  simp only [hubPolicyChannelMatchesSelection, hubPolicyAllowsMultiplier, phase, Bool.false_eq_true, if_false,
    HubTokenRoutingPolicy.allowsChannel, HubTokenRoutingPolicy.allowsPreferredChannel, decide_eq_true_eq,
    Bool.and_eq_true, List.any_eq_true] at selection allowed
  obtain ⟨-, selected, inside, ⟨same, close⟩, published⟩ := allowed
  exact ⟨selection, selected, inside, same, (grid selected inside).eq_of_close ownGrid close,
    by simpa only [List.any_eq_true] using published⟩

theorem Admitted.fallback (admitted : Admitted cache channels policy modelName filter c)
    (phase : filter.platformFallback = true) (ownGrid : Thousandths c.multiplier) :
    ∃ value ∈ policy.orderedMultipliersWith modelName true, c.multiplier ≤ value := by
  have allowed := admitted.allowed
  simp only [hubPolicyAllowsMultiplier, phase, if_true, HubTokenRoutingPolicy.allowsMultiplierForPlatformFallback,
    Bool.and_eq_true, List.any_eq_true, decide_eq_true_eq] at allowed
  obtain ⟨-, value, member, below⟩ := allowed
  exact ⟨value, member, (ownGrid.le_add_tolerance (orderedMultipliersWith_thousandths member)).mp below⟩

theorem token_routing_price_ceiling (fees : SettlementFees) (cache : RoutingCache)
    (configuredInDB : Nat → Except String Bool) (draw : PolicyDraw) (policy : HubTokenRoutingPolicy)
    (modelName requestPath : String) (excluded : Finset Nat) (filter : ChannelProviderFilter)
    (channel : RoutedChannel) (snapshot : HubSupplyPricingSnapshot)
    (selected : getHubPolicyChannelFromCache draw cache policy modelName requestPath excluded filter =
      some (some (channel, snapshot)))
    (context : RequestContext) (routed : context.hubTokenRoutingPolicy = some policy)
    (named : context.modelName = modelName) (phase : context.hubRoutingFallback = filter.platformFallback)
    (captured : context.hubSupplyPricingSnapshot = some snapshot)
    (info priced : GroupRatioInfo) (base : info.groupRatio = 1)
    (ok : applyHubSupplyPricingFromRequest fees cache configuredInDB context info channel.id = .ok priced)
    (ownGrid : Thousandths (cache.multiplierOf channel.id))
    (grid : ∀ selected ∈ policy.channels, Thousandths selected.multiplier) :
    (filter.platformFallback = false →
      priced.groupRatio = cache.multiplierOf channel.id ∧ channel.id ∈ policy.channelIDs ∧
        ∃ selected ∈ policy.channels, selected.channelID = channel.id ∧
          selected.multiplier = cache.multiplierOf channel.id ∧
          selected.models.any (hubRoutingModelMatches · modelName) = true) ∧
    (filter.platformFallback = true →
      ∃ first, policy.providerFallbackProtectionMultiplier modelName = some first ∧
        priced.groupRatio = max (cache.multiplierOf channel.id) first ∧
        cache.multiplierOf channel.id ≤ priced.groupRatio ∧
        ∃ selected ∈ policy.channels,
          (selected.modelsFor true).any (hubRoutingModelMatches · modelName) = true ∧
            priced.groupRatio ≤ selected.multiplier) ∧
    (priced.fallbackPriceProtection = true ↔ cache.multiplierOf channel.id < priced.groupRatio) := by
  have all := (hubPolicyCandidates_admitted cache draw.order policy modelName requestPath filter).1
  obtain ⟨rfl, ⟨c, member, atID, -⟩, protection⟩ := selectHubPolicyChannel_some all selected
  have admitted := all c member
  obtain ⟨own, price, rfl⟩ := applyHubSupplyPricingFromRequest_ok channel.positive base captured ok
  have candidatePrice : c.multiplier = cache.multiplierOf channel.id := atID ▸ admitted.price
  cases fallback : filter.platformFallback with
  | false =>
    obtain ⟨chosen, published, inside, same, equal, offers⟩ :=
      admitted.preferred fallback (candidatePrice ▸ ownGrid) grid
    rw [applyHubFallbackPriceProtection_preferred price (phase.trans fallback), price.ratio, price.unprotected]
    exact ⟨fun _ => ⟨rfl, atID ▸ chosen, published, inside, same.trans atID, equal.trans candidatePrice, offers⟩,
      by simp, by simp⟩
  | true =>
    obtain ⟨first, protects⟩ := protection fallback
    have firstMember := providerFallbackProtectionMultiplier_mem protects
    obtain ⟨ratio, flagged⟩ := applyHubFallbackPriceProtection_fallback price ownGrid
      (orderedMultipliersWith_thousandths firstMember) (phase.trans fallback) routed (named ▸ protects)
    obtain ⟨value, member, below⟩ := admitted.fallback fallback (candidatePrice ▸ ownGrid)
    rw [ratio, flagged]
    refine ⟨by simp, fun _ => ⟨first, protects, rfl, le_max_left _ _, ?_⟩, by simp⟩
    -- The charge is one of the two prices, and each is at most a configured one.
    rcases max_choice (cache.multiplierOf channel.id) first with unchanged | raised
    · obtain ⟨selected, inside, offers, same⟩ := configured_of_mem grid member
      exact ⟨selected, inside, offers, by rw [unchanged, ← candidatePrice, ← same]; exact below⟩
    · obtain ⟨selected, inside, offers, same⟩ := configured_of_mem grid firstMember
      exact ⟨selected, inside, offers, by rw [raised, same]⟩

/-- The selected channel at 0.6 is out of service; another provider offers 0.3. -/
def outageCache : RoutingCache where
  group2model2channels := [("default", [("gpt-5", [1, 3])])]
  channelsIDM := [{ id := 1, status := .autoDisabled }, { id := 3 }]
  hubSupplyPricingByChannel :=
    [(1, { supplyGroupId := 1, supplyProviderId := 7, supplyProviderStatus := some .active, priceMultiplier := 3 / 5 }),
     (3, { supplyGroupId := 2, supplyProviderId := 9, supplyProviderStatus := some .active, priceMultiplier := 3 / 10 })]
  hubSupplyConfiguredIDs := [1, 3]

def outagePolicy : HubTokenRoutingPolicy := ⟨7, [1], [⟨1, 3 / 5, ["gpt-5"], []⟩]⟩

def outageContext : RequestContext where
  hubRoutingFallback := true
  hubTokenRoutingPolicy := some outagePolicy
  originalModel := "gpt-5"
  hubSupplyPricingSnapshot := some (outageCache.captureHubSupplyPricingSnapshot 3)

theorem outage_price_ceiling :
    ∃ priced, applyHubSupplyPricingFromRequest ⟨0, 0⟩ outageCache (fun _ => .ok false) outageContext {} 3 = .ok priced ∧
      priced.groupRatio = max (3 / 10) (3 / 5) ∧
      (priced.fallbackPriceProtection = true ↔ outageCache.multiplierOf 3 < priced.groupRatio) := by
  have priceable : (applyHubSupplyPricingFromRequest ⟨0, 0⟩ outageCache (fun _ => .ok false) outageContext {} 3).isOk =
      true := by decide +kernel
  obtain ⟨priced, ok⟩ : ∃ priced, applyHubSupplyPricingFromRequest ⟨0, 0⟩ outageCache (fun _ => .ok false)
      outageContext {} 3 = .ok priced := by
    cases result : applyHubSupplyPricingFromRequest ⟨0, 0⟩ outageCache (fun _ => .ok false) outageContext {} 3 with
    | error e => exact absurd priceable (by simp [result, Except.isOk, Except.toBool])
    | ok priced => exact ⟨priced, rfl⟩
  obtain ⟨-, fallback, flagged⟩ := token_routing_price_ceiling ⟨0, 0⟩ outageCache (fun _ => .ok false)
    ⟨[], fun _ => ⟨0, 0⟩⟩ outagePolicy "gpt-5" "/v1/chat/completions" ∅ { platformFallback := true } { id := 3 }
    (outageCache.captureHubSupplyPricingSnapshot 3) (by decide +kernel) outageContext rfl rfl rfl rfl {} priced rfl ok
    ⟨300, by decide +kernel⟩ (by simpa [outagePolicy] using ⟨600, by norm_num⟩)
  obtain ⟨first, protects, ratio, -⟩ := fallback rfl
  have configured : outagePolicy.providerFallbackProtectionMultiplier "gpt-5" = some (3 / 5) := by decide +kernel
  have own : outageCache.multiplierOf 3 = 3 / 10 := by decide +kernel
  obtain rfl := Option.some.inj (configured.symm.trans protects)
  exact ⟨priced, ok, own ▸ ratio, flagged⟩

end LLMHub
