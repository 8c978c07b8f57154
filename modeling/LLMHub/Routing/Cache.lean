import LLMHub.Go.Map
import LLMHub.Routing.Health
import LLMHub.Routing.Policy
import LLMHub.Schema.Settlement

namespace LLMHub

inductive ChannelStatus
  | unknown
  | enabled
  | manuallyDisabled
  | autoDisabled
  deriving DecidableEq, Repr

/-- The columns of `channels` that routing reads. `advancedCustom` is the type
that serves only the paths of its configuration. -/
structure RoutedChannel where
  id : Nat
  positive : 0 < id := by decide
  advancedCustom : Bool := false
  status : ChannelStatus := .enabled
  priority : Option Int := none
  weight : Option Nat := none
  deriving DecidableEq, Repr

def RoutedChannel.getPriority (channel : RoutedChannel) : Int := channel.priority.getD 0

/-- `int(*channel.Weight)` of an unsigned column. -/
def RoutedChannel.getWeight (channel : RoutedChannel) : Int := Go.int64 (channel.weight.getD 0)

/-- The price and owner of a supplied channel. An empty status stands for one
that the provider row does not have. -/
structure HubSupplyPricing where
  supplyGroupId : Int
  supplyProviderId : Nat
  supplyProviderStatus : Option HubProviderStatus
  supplyOwnerUserId : Int := 0
  tenantId : Option Int := none
  tenantPlatformFeeBasisPoints : Option Int := none
  priceMultiplier : ℚ
  tenantPublished : Bool := true
  providerServiceFeeBasisPoints : Option Int := none
  deriving DecidableEq, Repr

/-- Captured when a channel is selected and kept with the request until billing
and logging finish. -/
structure HubSupplyPricingSnapshot where
  channelID : Nat
  pricing : Option HubSupplyPricing
  configured : Bool
  deriving DecidableEq, Repr

inductive ChannelProviderFilterMode
  | any
  | only
  | exclude
  deriving DecidableEq, Repr

structure ChannelProviderFilter where
  providerID : Nat := 0
  mode : ChannelProviderFilterMode := .any
  strictExcludedChannels : Bool := false
  platformFallback : Bool := false
  preferredChannelID : Nat := 0
  deriving DecidableEq, Repr

/-- The probe kinds a supplied channel was verified for, by model, and whether
each is available. -/
abbrev HubSupplyModelProbeKinds := List (String × List (HubSupplyProbeKind × Bool))

/-- The paths and models that advanced custom channels are configured for. -/
abbrev AdvancedCustomConfigs := List (Nat × (String → String → Bool))

/-- The candidates of a model in a service tier, by owner. -/
structure HubTierCandidateBuckets where
  providerIDs : List Nat
  candidatesBySource : List (Nat × List HubTierChannelCandidate)

/-- One published generation of the routing caches. Prices and health signals
are published without the memory cache too. -/
structure RoutingCache where
  memoryCacheEnabled : Bool := true
  group2model2channels : List (String × List (String × List Nat)) := []
  group2model2hubTierCandidates : List (String × List (String × HubTierCandidateBuckets)) := []
  channelsIDM : List RoutedChannel := []
  channel2advancedCustomConfig : AdvancedCustomConfigs := []
  channel2HubSupplyProbeKinds : List (Nat × HubSupplyModelProbeKinds) := []
  hubSupplyPricingByChannel : List (Nat × HubSupplyPricing) := []
  hubSupplyConfiguredIDs : List Nat := []
  signals : HubRoutingSignals := {}
  /-- `hub_supply_groups.tenant_published`, read for a channel without a cached price. -/
  tenantPublishedInDB : Nat → Bool := fun _ => true

namespace RoutingCache

def channel (cache : RoutingCache) (channelID : Nat) : Option RoutedChannel :=
  cache.channelsIDM.find? fun channel => channel.id = channelID

def getHubSupplyPricingByChannelID (cache : RoutingCache) (channelID : Nat) : Option HubSupplyPricing :=
  if channelID ≤ 0 then none else cache.hubSupplyPricingByChannel.lookup channelID

def captureHubSupplyPricingSnapshot (cache : RoutingCache) (channelID : Nat) : HubSupplyPricingSnapshot :=
  if channelID ≤ 0 then ⟨channelID, none, false⟩
  else ⟨channelID, cache.hubSupplyPricingByChannel.lookup channelID, channelID ∈ cache.hubSupplyConfiguredIDs⟩

def channelMatchesProviderFilter (cache : RoutingCache) (channelID : Nat) (filter : ChannelProviderFilter) : Bool :=
  if filter.mode = .any ∨ filter.providerID ≤ 0 then true
  else match filter.mode with
    | .only => (cache.getHubSupplyPricingByChannelID channelID).any (·.supplyProviderId = filter.providerID)
    | .exclude => (cache.getHubSupplyPricingByChannelID channelID).all (·.supplyProviderId ≠ filter.providerID)
    | .any => true

def isHubSupplyChannelTenantPublished (cache : RoutingCache) (channelID : Nat) : Bool :=
  if channelID ≤ 0 then false
  else match cache.hubSupplyPricingByChannel.lookup channelID with
    | some pricing => pricing.tenantPublished
    | none =>
      if cache.memoryCacheEnabled ∧ channelID ∉ cache.hubSupplyConfiguredIDs then true
      else cache.tenantPublishedInDB channelID

end RoutingCache

def hubSupplyModelProbeKindsForModel (kinds : HubSupplyModelProbeKinds) (modelName : String) :
    List (HubSupplyProbeKind × Bool) :=
  match kinds.lookup modelName with
  | some modelKinds => modelKinds
  | none =>
    let normalized := formatMatchingModelName modelName
    if normalized ≠ "" ∧ normalized ≠ modelName then (kinds.lookup normalized).getD [] else []

def RoutingCache.hubSupplyChannelSupportsRequest (cache : RoutingCache)
    (availability : List (Nat × HubSupplyModelProbeKinds)) (channelID : Nat) (modelName requestPath : String) : Bool :=
  let kinds := availability.lookup channelID
  let decision := getHubRoutingDecision cache.signals channelID modelName requestPath
  if kinds.isSome && !cache.isHubSupplyChannelTenantPublished channelID then false
  else if decision.hardUnavailable then false
  else match kinds with
    | none => true
    | some modelKinds =>
      match (hubSupplyModelProbeKindsForModel modelKinds modelName).lookup (hubSupplyProbeKindForRequest requestPath) with
      | none => false
      | some available => available || realHealth decision.runtimeSignal = some .healthy

/-- An advanced custom channel serves a request only where its configuration
supports the path. -/
def supportsPath (configs : AdvancedCustomConfigs) (channel : RoutedChannel) (modelName requestPath : String) : Bool :=
  if channel.advancedCustom && requestPath ≠ "" then
    (configs.lookup channel.id).any (· requestPath modelName)
  else true

def serviceTiers : List String := ["special", "low", "medium", "high"]

def isServiceTier (group : String) : Bool := group ∈ serviceTiers

def isHubTokenRoutingCandidateAbilityGroup (group : String) : Bool :=
  group = "hub-routing" || group = "default" || isServiceTier group

def hubPolicyChannelMatchesSelection (policy : HubTokenRoutingPolicy) (channelID : Nat) (platformFallback : Bool) :
    Bool :=
  if platformFallback then !policy.allowsChannel channelID else policy.allowsChannel channelID

/-- The names under which abilities for a model are published. -/
def abilityModelNames (modelName : String) : List String :=
  let normalized := formatMatchingModelName modelName
  if normalized ≠ "" ∧ normalized ≠ modelName then [modelName, normalized] else [modelName]

/-- The price and owner of a channel. A supplied channel counts only with an
active provider and a positive price; others cost the base price. -/
def supplyOffer (pricing : Option HubSupplyPricing) : Option (ℚ × Nat) :=
  match pricing with
  | none => some (1, 0)
  | some pricing =>
    if pricing.supplyProviderStatus ≠ some .active ∨ pricing.priceMultiplier ≤ 0 then none
    else some (pricing.priceMultiplier, pricing.supplyProviderId)

def hubPolicyAllowsMultiplier (policy : HubTokenRoutingPolicy) (modelName : String) (channelID : Nat) (multiplier : ℚ)
    (platformFallback : Bool) : Bool :=
  if platformFallback then policy.allowsMultiplierForPlatformFallback modelName multiplier
  else policy.allowsPreferredChannel modelName channelID multiplier

/-- The body of the selection loop: the candidate that a channel id of the
abilities stands for, if the request may use it. -/
def hubPolicyCandidate (cache : RoutingCache) (policy : HubTokenRoutingPolicy) (modelName requestPath : String)
    (filter : ChannelProviderFilter) (channelID : Nat) : Option HubTierChannelCandidate := do
  let channel ← cache.channel channelID
  guard (channel.status = .enabled && hubPolicyChannelMatchesSelection policy channelID filter.platformFallback &&
    cache.channelMatchesProviderFilter channelID filter &&
    cache.hubSupplyChannelSupportsRequest cache.channel2HubSupplyProbeKinds channelID modelName requestPath &&
    supportsPath cache.channel2advancedCustomConfig channel modelName requestPath)
  let (multiplier, provider) ← supplyOffer (cache.hubSupplyPricingByChannel.lookup channelID)
  guard (hubPolicyAllowsMultiplier policy modelName channelID multiplier filter.platformFallback)
  pure (decorateHubTierCandidateWithRuntimeHealth cache.signals
    { channelID, priority := channel.getPriority, weight := channel.getWeight, provider, multiplier }
    modelName requestPath)

/-- The channel ids of the abilities for a model, group by group. -/
def abilityChannelIDs (groups : List (String × List (String × List Nat))) (modelName : String) : List Nat :=
  groups.flatMap fun (group, models) =>
    if isHubTokenRoutingCandidateAbilityGroup group then
      (abilityModelNames modelName).flatMap fun candidateModel => (models.lookup candidateModel).getD []
    else []

def hubPolicyCandidates (cache : RoutingCache) (order : List Nat) (policy : HubTokenRoutingPolicy)
    (modelName requestPath : String) (filter : ChannelProviderFilter) : List HubTierChannelCandidate :=
  (abilityChannelIDs (Go.iterate order cache.group2model2channels) modelName).foldl
    (fun candidates channelID =>
      if candidates.any (·.channelID = channelID) then candidates
      else match hubPolicyCandidate cache policy modelName requestPath filter channelID with
        | none => candidates
        | some candidate => candidates ++ [candidate])
    []

/-- The random values of one policy selection: the order in which the ability
map is visited, and the draws of each price stage. -/
structure PolicyDraw where
  order : List Nat
  stages : Nat → Draw

/-- The end of a policy selection: `none` is the panic of a draw; the inner
`none` is a request without a channel. -/
def selectHubPolicyChannel (stages : Nat → Draw) (cache : RoutingCache) (channels : Nat → Option RoutedChannel)
    (policy : HubTokenRoutingPolicy) (modelName : String) (candidates : List HubTierChannelCandidate)
    (excluded : Finset Nat) (filter : ChannelProviderFilter) :
    Option (Option (RoutedChannel × HubSupplyPricingSnapshot)) := do
  let selectedID ← selectHubTierChannelByHubPolicy stages policy modelName candidates excluded
    filter.platformFallback filter.preferredChannelID
  if selectedID = 0 then pure none
  else pure ((channels selectedID).map fun channel => (channel, cache.captureHubSupplyPricingSnapshot selectedID))

def getHubPolicyChannelFromCache (draw : PolicyDraw) (cache : RoutingCache) (policy : HubTokenRoutingPolicy)
    (modelName requestPath : String) (excluded : Finset Nat) (filter : ChannelProviderFilter) :
    Option (Option (RoutedChannel × HubSupplyPricingSnapshot)) :=
  selectHubPolicyChannel draw.stages cache cache.channel policy modelName
    (hubPolicyCandidates cache draw.order policy modelName requestPath filter) excluded filter

end LLMHub
