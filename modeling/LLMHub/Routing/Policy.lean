import LLMHub.Go.Number
import LLMHub.Go.Strings
import LLMHub.Routing.TierSelect

namespace LLMHub

def hubTokenRoutingMinMultiplier : ℚ := 1 / 100
def hubTokenRoutingMaxMultiplier : ℚ := 100

/-- Multipliers this close are the same price. -/
def hubTokenMultiplierTolerance : ℚ := 5 / 10000

/-- A selected channel with its current price. `models` are the published
ones; `configuredModels` keep the price basis of an unpublished model. -/
structure HubTokenRoutingChannel where
  channelID : Nat
  multiplier : ℚ
  models : List String
  configuredModels : List String := []
  deriving DecidableEq, Repr

/-- `channels` is resolved from the current publication and pricing for each
request, in the order of `channelIDs`. -/
structure HubTokenRoutingPolicy where
  providerID : Nat
  channelIDs : List Nat
  channels : List HubTokenRoutingChannel
  deriving DecidableEq, Repr

def roundHubTokenMultiplier (value : ℚ) : ℚ := Go.round (value * 1000) / 1000

/-- An exact multiple of the price step 0.001. -/
def Thousandths (x : ℚ) : Prop := ∃ k : Int, x = k / 1000

theorem Thousandths.round (value : ℚ) : Thousandths (roundHubTokenMultiplier value) := ⟨_, rfl⟩

def validHubTokenMultiplier (value : ℚ) : Bool :=
  hubTokenRoutingMinMultiplier ≤ value ∧ value ≤ hubTokenRoutingMaxMultiplier

def hubRoutingModelMatches (configured requested : String) : Bool := Go.trimSpace configured = Go.trimSpace requested

def HubTokenRoutingChannel.modelsFor (channel : HubTokenRoutingChannel) (configured : Bool) : List String :=
  if configured && !channel.configuredModels.isEmpty then channel.configuredModels else channel.models

/-- The price at which a selected channel offers the model, if it does. -/
def HubTokenRoutingChannel.offer (channel : HubTokenRoutingChannel) (modelName : String) (configured : Bool) :
    Option ℚ :=
  if validHubTokenMultiplier channel.multiplier &&
      (channel.modelsFor configured).any (hubRoutingModelMatches · modelName) then
    some (roundHubTokenMultiplier channel.multiplier)
  else none

namespace HubTokenRoutingPolicy

def allowsChannel (policy : HubTokenRoutingPolicy) (channelID : Nat) : Bool := channelID ∈ policy.channelIDs

/-- The prices of the selected channels for a model, each once, in the order
in which they were selected. -/
def orderedMultipliersWith (policy : HubTokenRoutingPolicy) (modelName : String) (configured : Bool) : List ℚ :=
  policy.channels.foldl
    (fun values channel =>
      match channel.offer modelName configured with
      | none => values
      | some value => if value ∈ values then values else values ++ [value])
    []

def orderedMultipliers (policy : HubTokenRoutingPolicy) (modelName : String) : List ℚ :=
  policy.orderedMultipliersWith modelName false

def allowsPreferredChannel (policy : HubTokenRoutingPolicy) (modelName : String) (channelID : Nat)
    (multiplier : ℚ) : Bool :=
  validHubTokenMultiplier multiplier &&
    policy.channels.any fun channel =>
      decide (channel.channelID = channelID ∧ |channel.multiplier - multiplier| < hubTokenMultiplierTolerance) &&
        channel.models.any (hubRoutingModelMatches · modelName)

def allowsMultiplierForPlatformFallback (policy : HubTokenRoutingPolicy) (modelName : String) (multiplier : ℚ) : Bool :=
  validHubTokenMultiplier multiplier &&
    (policy.orderedMultipliersWith modelName true).any fun selected =>
      decide (multiplier ≤ selected + hubTokenMultiplierTolerance)

def providerFallbackProtectionMultiplier (policy : HubTokenRoutingPolicy) (modelName : String) : Option ℚ :=
  (policy.orderedMultipliersWith modelName true).head?

end HubTokenRoutingPolicy

/-- The affinity channel, where the band has it and no channel of the same
provider outranks it. -/
def affinityTarget (band : List HubTierChannelCandidate) (preferredChannelID : Nat) : Option HubTierChannelCandidate :=
  band.find? fun candidate =>
    decide (candidate.channelID = preferredChannelID) &&
      !band.any fun other => decide (other.provider = candidate.provider ∧ other.priority > candidate.priority)

/-- Affinity may select within the current price and quality stage, but cannot
promote a lower-priority channel over another channel from the same provider. -/
def selectHubPolicyStageChannel (draw : Draw) (candidates : List HubTierChannelCandidate) (excluded : Finset Nat)
    (preferredChannelID : Nat) : Option Nat :=
  if preferredChannelID ≤ 0 then selectHubTierChannel draw candidates excluded
  else
    let eligible := filterHubTierCandidatesByQualityBand (eligibleCandidates candidates excluded)
    match affinityTarget eligible preferredChannelID with
    | some candidate => some candidate.channelID
    | none => selectHubTierChannelFromEligible draw eligible

def priceStage (candidates : List HubTierChannelCandidate) (multiplier : ℚ) : List HubTierChannelCandidate :=
  candidates.filter fun candidate => |candidate.multiplier - multiplier| < hubTokenMultiplierTolerance

/-- Takes the selected prices in order until one of them yields a channel; each
stage has its own draws. -/
def selectPriceStages (draws : Nat → Draw) (candidates : List HubTierChannelCandidate) (excluded : Finset Nat)
    (preferredChannelID : Nat) : Nat → List ℚ → Option Nat
  | _, [] => some 0
  | stage, multiplier :: rest => do
    let selected ← selectHubPolicyStageChannel (draws stage) (priceStage candidates multiplier) excluded
      preferredChannelID
    if selected ≠ 0 then pure selected
    else selectPriceStages draws candidates excluded preferredChannelID (stage + 1) rest

def cheaperCandidates (candidates : List HubTierChannelCandidate) (preferred : ℚ) : List HubTierChannelCandidate :=
  candidates.filter fun candidate =>
    0 < candidate.multiplier ∧ candidate.multiplier < preferred - hubTokenMultiplierTolerance

def affordableCandidates (candidates : List HubTierChannelCandidate) (maxMultiplier : ℚ) :
    List HubTierChannelCandidate :=
  candidates.filter fun candidate =>
    0 < candidate.multiplier ∧ candidate.multiplier ≤ maxMultiplier + hubTokenMultiplierTolerance

def fallbackMaxMultiplier (policy : HubTokenRoutingPolicy) (modelName : String) (preferred : ℚ) : ℚ :=
  (policy.orderedMultipliers modelName).foldl
    (fun maxMultiplier multiplier => if multiplier > maxMultiplier then multiplier else maxMultiplier) preferred

def selectHubTierChannelByHubPolicy (draws : Nat → Draw) (policy : HubTokenRoutingPolicy) (modelName : String)
    (candidates : List HubTierChannelCandidate) (excluded : Finset Nat) (platformFallback : Bool)
    (preferredChannelID : Nat) : Option Nat :=
  if platformFallback then
    match policy.providerFallbackProtectionMultiplier modelName with
    | none => some 0
    | some preferred => do
      let selected ← selectHubPolicyStageChannel (draws 0) (cheaperCandidates candidates preferred) excluded
        preferredChannelID
      if selected ≠ 0 then pure selected
      else
        selectHubPolicyStageChannel (draws 1)
          (affordableCandidates candidates (fallbackMaxMultiplier policy modelName preferred)) excluded
          preferredChannelID
  else
    selectPriceStages draws candidates excluded preferredChannelID 0 (policy.orderedMultipliers modelName)

end LLMHub
