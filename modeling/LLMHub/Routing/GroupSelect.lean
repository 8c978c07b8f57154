import LLMHub.Routing.Cache

namespace LLMHub

inductive ChannelSelectionError
  | inconsistent (channelID : Nat)
  | noChannelAtPriority (group model : String) (priority : Int)
  | channelNotFound
  | autoGroupsNotEnabled
  deriving DecidableEq, Repr

/-- A selected channel with its captured price, or none. -/
abbrev ChannelSelection := Except ChannelSelectionError (Option (RoutedChannel × HubSupplyPricingSnapshot))

/-- The random values of a selection in one group. -/
structure GroupDraw where
  tier : Draw
  channel : Nat
  deriving DecidableEq, Repr

/-- Failed channels are taken again only where nothing else is left and the
caller is not strict. -/
def preferUntried {α : Type} (channelID : α → Nat) (entries : List α) (excluded : Finset Nat) (strict : Bool) :
    List α :=
  if entries.isEmpty ∨ excluded = ∅ then entries
  else
    let filtered := entries.filter fun entry => channelID entry ∉ excluded
    if filtered.isEmpty then (if strict then [] else entries) else filtered

namespace RoutingCache

/-- The owner under which a channel is chosen in a service tier. -/
def hubTierProviderForChannel (cache : RoutingCache) (channelID : Nat) (filter : ChannelProviderFilter) : Option Nat :=
  let pricing := cache.getHubSupplyPricingByChannelID channelID
  if pricing.any (·.supplyProviderStatus ≠ some .active) then none
  else if !cache.channelMatchesProviderFilter channelID filter then none
  else some ((pricing.map (·.supplyProviderId)).getD 0)

end RoutingCache

def hubTierBucketProviderMatchesFilter (providerID : Nat) (filter : ChannelProviderFilter) : Bool :=
  if filter.mode = .any ∨ filter.providerID ≤ 0 then true
  else match filter.mode with
    | .only => providerID = filter.providerID
    | .exclude => providerID ≠ filter.providerID
    | .any => true

/-- Applies the checks of the request to the prebuilt buckets, with the same
choice of an owner first. -/
def selectHubTierChannelFromBuckets (draw : Draw) (buckets : Option HubTierCandidateBuckets) (excluded : Finset Nat)
    (filter : ChannelProviderFilter) (isEligible : HubTierChannelCandidate → Bool)
    (decorate : HubTierChannelCandidate → HubTierChannelCandidate) : Option Nat :=
  match buckets with
  | none => some 0
  | some buckets =>
    let eligible := buckets.providerIDs.flatMap fun providerID =>
      if hubTierBucketProviderMatchesFilter providerID filter then
        (((buckets.candidatesBySource.lookup providerID).getD []).filter fun candidate =>
          candidate.channelID ∉ excluded && isEligible candidate).filterMap fun candidate =>
            if (decorate candidate).hardUnavailable then none else some (decorate candidate)
      else []
    selectHubTierChannelFromEligible draw (filterHubTierCandidatesByQualityBand eligible)

end LLMHub
