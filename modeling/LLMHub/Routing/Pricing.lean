import LLMHub.Routing.Cache

namespace LLMHub

structure GroupRatioInfo where
  groupRatio : ℚ := 1
  groupSpecialRatio : ℚ := -1
  hasSpecialRatio : Bool := false
  baseGroupRatio : ℚ := 1
  supplyMultiplier : ℚ := 1
  supplyGroupRatio : ℚ := 0
  hasSupplyPricing : Bool := false
  supplyGroupId : Int := 0
  supplyProviderId : Nat := 0
  supplyOwnerUserId : Int := 0
  supplyTenantId : Int := 0
  providerServiceFeeBasisPoints : Int := 0
  hasProviderServiceFeeBasisPoints : Bool := false
  platformFeeBasisPoints : Int := 0
  hasPlatformFeeBasisPoints : Bool := false
  fallbackPriceProtection : Bool := false
  deriving DecidableEq, Repr

inductive PricingError
  | ownershipUnverified (channelID : Nat) (cause : String)
  | snapshotMissing (channelID : Nat)
  | snapshotIncomplete (channelID : Nat)
  | multiplierInvalid (multiplier : ℚ) (channelID : Nat)
  deriving DecidableEq, Repr

/-- The fees of `hub_provider_settlement_setting`. -/
structure SettlementFees where
  providerServiceFeeBasisPoints : Int
  platformFeeBasisPoints : Int

/-- What pricing reads of the request. -/
structure RequestContext where
  hubRoutingFallback : Bool := false
  hubTokenRoutingPolicy : Option HubTokenRoutingPolicy := none
  originalModel : String := ""
  model : String := ""
  hubSupplyPricingSnapshot : Option HubSupplyPricingSnapshot := none

def RequestContext.modelName (context : RequestContext) : String :=
  if context.originalModel = "" then context.model else context.originalModel

def resetHubSupplyPricing (info : GroupRatioInfo) : GroupRatioInfo where
  groupRatio := info.groupRatio
  groupSpecialRatio := info.groupSpecialRatio
  hasSpecialRatio := info.hasSpecialRatio
  baseGroupRatio := info.groupRatio
  supplyMultiplier := 1
  supplyGroupRatio := info.groupRatio

/-- A column value where it is a share of a whole, or the setting. -/
def basisPointsOr (column : Option Int) (setting : Int) : Int :=
  match column with
  | none => setting
  | some value => if 0 ≤ value ∧ value ≤ 10000 then value else setting

/-- With a tenant the provider column is its service fee; without one it still
is the platform fee of before the migration. -/
def applySupplyFees (fees : SettlementFees) (pricing : HubSupplyPricing) (info : GroupRatioInfo) : GroupRatioInfo :=
  if pricing.tenantId.any (· > 0) then { info with
    providerServiceFeeBasisPoints := basisPointsOr pricing.providerServiceFeeBasisPoints fees.providerServiceFeeBasisPoints
    hasProviderServiceFeeBasisPoints := true
    platformFeeBasisPoints := basisPointsOr pricing.tenantPlatformFeeBasisPoints fees.platformFeeBasisPoints }
  else { info with
    platformFeeBasisPoints := basisPointsOr pricing.providerServiceFeeBasisPoints fees.platformFeeBasisPoints }

def applySupplyPrice (pricing : HubSupplyPricing) (info : GroupRatioInfo) : GroupRatioInfo := { info with
  supplyMultiplier := pricing.priceMultiplier
  supplyGroupRatio := info.baseGroupRatio * pricing.priceMultiplier
  hasSupplyPricing := true
  supplyGroupId := pricing.supplyGroupId
  supplyProviderId := pricing.supplyProviderId
  supplyOwnerUserId := pricing.supplyOwnerUserId
  supplyTenantId := pricing.tenantId.getD info.supplyTenantId }

def applyHubSupplyPricingSnapshot (fees : SettlementFees) (info : GroupRatioInfo) (channelID : Nat)
    (pricing : Option HubSupplyPricing) : Except PricingError GroupRatioInfo :=
  match pricing with
  | none => .error (.snapshotMissing channelID)
  | some pricing =>
    if pricing.supplyGroupId ≤ 0 ∨ pricing.supplyProviderId ≤ 0 ∨ pricing.supplyProviderStatus = none then
      .error (.snapshotIncomplete channelID)
    else if pricing.priceMultiplier < 1 / 100 ∨ pricing.priceMultiplier > 100 then
      .error (.multiplierInvalid pricing.priceMultiplier channelID)
    else
      let info := applySupplyFees fees pricing (applySupplyPrice pricing info)
      .ok { info with hasPlatformFeeBasisPoints := true, groupRatio := info.supplyGroupRatio }

/-- On fallback the request pays at least the price of its first selected
channel. -/
def applyHubFallbackPriceProtection (context : RequestContext) (info : GroupRatioInfo) : GroupRatioInfo :=
  if info.hasSupplyPricing ∧ info.supplyGroupRatio ≤ 0 then info
  else if !context.hubRoutingFallback then info
  else match context.hubTokenRoutingPolicy with
    | none => info
    | some policy =>
      let currentMultiplier := if info.hasSupplyPricing then info.supplyMultiplier else 1
      match policy.providerFallbackProtectionMultiplier context.modelName with
      | none => info
      | some protectedMultiplier =>
        if currentMultiplier ≥ protectedMultiplier - hubTokenMultiplierTolerance then info
        else { info with
          groupRatio := info.baseGroupRatio * protectedMultiplier
          fallbackPriceProtection := true }

/-- The prices outside a routed request: the cached one, or the base price of a
channel that the database does not know as supplied. -/
def applyHubSupplyPricing (fees : SettlementFees) (cache : RoutingCache) (configuredInDB : Nat → Except String Bool)
    (info : GroupRatioInfo) (channelID : Nat) : Except PricingError GroupRatioInfo :=
  let info := resetHubSupplyPricing info
  match cache.getHubSupplyPricingByChannelID channelID with
  | some pricing => applyHubSupplyPricingSnapshot fees info channelID (some pricing)
  | none =>
    match configuredInDB channelID with
    | .error cause => .error (.ownershipUnverified channelID cause)
    | .ok true => .error (.snapshotMissing channelID)
    | .ok false => .ok info

/-- Prices a routed request with the snapshot captured when its channel was
selected. -/
def applyHubSupplyPricingFromRequest (fees : SettlementFees) (cache : RoutingCache)
    (configuredInDB : Nat → Except String Bool) (context : RequestContext) (info : GroupRatioInfo) (channelID : Nat) :
    Except PricingError GroupRatioInfo := do
  let info := resetHubSupplyPricing info
  match context.hubSupplyPricingSnapshot.filter (·.channelID = channelID) with
  | some snapshot =>
    if snapshot.pricing = none ∧ snapshot.configured = false then
      pure (applyHubFallbackPriceProtection context info)
    else do
      let priced ← applyHubSupplyPricingSnapshot fees info channelID snapshot.pricing
      pure (applyHubFallbackPriceProtection context priced)
  | none => do
    let priced ← applyHubSupplyPricing fees cache configuredInDB info channelID
    pure (applyHubFallbackPriceProtection context priced)

end LLMHub
