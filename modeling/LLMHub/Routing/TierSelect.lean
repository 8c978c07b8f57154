import LLMHub.Go.Int64
import Mathlib.Data.Rat.Defs
import Mathlib.Data.List.Dedup
import Mathlib.Data.List.Sort
import Mathlib.Data.Finset.Insert

namespace LLMHub

def hubRoutingQualityMinRealSamples : Int := 20
def hubRoutingQualityHealthySuccessBps : Int := 9500
def hubRoutingQualitySuccessBandBps : Int := 100
def hubRoutingQualityTTFTRelativeBandBps : Int := 12000
def hubRoutingQualityTTFTAbsoluteBandMs : Int := 300
def hubRoutingFactorNeutralBps : Int := 10000

/-- A channel as the selectors see it. `realFirstTokenP95Ms` is absent where
the source clears `HasRealFirstTokenP95`. Platform channels have provider 0. -/
structure HubTierChannelCandidate where
  channelID : Nat
  priority : Int := 0
  weight : Int := 0
  provider : Nat := 0
  multiplier : ℚ := 0
  availabilityFactorBps : Int := 0
  latencyFactorBps : Int := 0
  hardUnavailable : Bool := false
  realSampleCount : Int := 0
  realSuccessRateBps : Int := 0
  realFirstTokenSamples : Int := 0
  realFirstTokenP95Ms : Option Int := none
  deriving DecidableEq, Repr

/-- The random values of one selection: the provider, then the channel. -/
structure Draw where
  provider : Nat
  channel : Nat
  deriving DecidableEq, Repr

def calculateHubRoutingEffectiveWeight (baseWeight availabilityFactorBps latencyFactorBps : Int) : Int :=
  if baseWeight ≤ 0 ∨ availabilityFactorBps ≤ 0 ∨ latencyFactorBps ≤ 0 then 0
  else
    let effective :=
      (Go.int64 (baseWeight * availabilityFactorBps * latencyFactorBps + 50000000)).tdiv 100000000
    if effective = 0 then 1 else effective

namespace HubTierChannelCandidate

/-- The candidate has enough real traffic for its success rate to count. -/
def mature (candidate : HubTierChannelCandidate) : Bool :=
  hubRoutingQualityMinRealSamples ≤ candidate.realSampleCount

/-- The first-token latency, where it was measured on enough requests. -/
def measuredTTFT (candidate : HubTierChannelCandidate) : Option Int :=
  if candidate.realFirstTokenSamples < hubRoutingQualityMinRealSamples then none else candidate.realFirstTokenP95Ms

def availability (candidate : HubTierChannelCandidate) : Int :=
  if candidate.availabilityFactorBps ≤ 0 then hubRoutingFactorNeutralBps else candidate.availabilityFactorBps

def latency (candidate : HubTierChannelCandidate) : Int :=
  if candidate.latencyFactorBps ≤ 0 then hubRoutingFactorNeutralBps else candidate.latencyFactorBps

/-- The weight of a target; where no target has a static weight, each counts 100. -/
def effectiveWeight (allStaticWeightsZero : Bool) (candidate : HubTierChannelCandidate) : Int :=
  calculateHubRoutingEffectiveWeight (if allStaticWeightsZero then 100 else candidate.weight)
    candidate.availability candidate.latency

end HubTierChannelCandidate

def bestSuccessRateBps (candidates : List HubTierChannelCandidate) : Int :=
  candidates.foldl
    (fun best candidate =>
      if candidate.mature ∧ candidate.realSuccessRateBps > best then candidate.realSuccessRateBps else best)
    (-1)

/-- The lowest measured first-token latency, or a negative value. -/
def bestTTFTP95Ms (stable : List HubTierChannelCandidate) : Int :=
  stable.foldl
    (fun best candidate =>
      match candidate.measuredTTFT with
      | none => best
      | some p95 => if best < 0 ∨ p95 < best then p95 else best)
    (-1)

def ttftThresholdMs (bestTTFT : Int) : Int :=
  let relativeThresholdMs :=
    (Go.int64 (bestTTFT * hubRoutingQualityTTFTRelativeBandBps + hubRoutingFactorNeutralBps - 1)).tdiv
      hubRoutingFactorNeutralBps
  let absoluteThresholdMs := Go.int64 (bestTTFT + hubRoutingQualityTTFTAbsoluteBandMs)
  if absoluteThresholdMs > relativeThresholdMs then absoluteThresholdMs else relativeThresholdMs

def stableCandidates (successThresholdBps : Int) (candidates : List HubTierChannelCandidate) :
    List HubTierChannelCandidate :=
  candidates.filter fun candidate => candidate.mature && decide (successThresholdBps ≤ candidate.realSuccessRateBps)

def fastCandidates (thresholdMs : Int) (stable : List HubTierChannelCandidate) : List HubTierChannelCandidate :=
  stable.filter fun candidate => candidate.measuredTTFT.any fun p95 => decide (p95 ≤ thresholdMs)

/-- Keeps cold or slower channels as fallback candidates: with the better ones
excluded the band is taken over what remains. -/
def filterHubTierCandidatesByQualityBand (candidates : List HubTierChannelCandidate) : List HubTierChannelCandidate :=
  let best := bestSuccessRateBps candidates
  if best < 0 then candidates
  else if best < hubRoutingQualityHealthySuccessBps then candidates
  else
    let stable := stableCandidates (max (best - hubRoutingQualitySuccessBandBps) 0) candidates
    let bestTTFT := bestTTFTP95Ms stable
    if bestTTFT < 0 then stable else fastCandidates (ttftThresholdMs bestTTFT) stable

def highestPriority (candidates : List HubTierChannelCandidate) : Option Int :=
  candidates.foldl
    (fun highest candidate =>
      if candidate.hardUnavailable then highest
      else match highest with
        | none => some candidate.priority
        | some priority => if candidate.priority > priority then some candidate.priority else some priority)
    none

/-- Walks the targets until their weights use up `randomWeight`; the last
target answers for a remainder. -/
def weightedTarget (weight : HubTierChannelCandidate → Int) (last : HubTierChannelCandidate) :
    Int → List HubTierChannelCandidate → HubTierChannelCandidate
  | _, [] => last
  | randomWeight, candidate :: rest =>
    let remaining := Go.int64 (randomWeight - weight candidate)
    if remaining < 0 then candidate else weightedTarget weight last remaining rest

def allStaticWeightsZero (targets : List HubTierChannelCandidate) : Bool :=
  targets.all fun candidate => decide (candidate.weight ≤ 0)

def totalWeight (targets : List HubTierChannelCandidate) : Int :=
  targets.foldl (fun sum candidate => Go.int64 (sum + candidate.effectiveWeight (allStaticWeightsZero targets))) 0

/-- How the weights are scaled before the draw: small averages are spread by a
factor, and targets without any weight get one each. -/
structure Smoothing where
  sumWeight : Int
  factor : Int
  adjustment : Int

def smoothing (count : Nat) (sumWeight : Int) : Smoothing :=
  if sumWeight = 0 then ⟨count * 100, 1, 100⟩
  else if sumWeight.tdiv count < 10 then ⟨sumWeight, 100, 0⟩
  else ⟨sumWeight, 1, 0⟩

/-- The choice among several targets of one priority; `none` is the panic of
`rand.Intn`. -/
def drawTarget (draw : Nat) (first : HubTierChannelCandidate) (rest : List HubTierChannelCandidate) :
    Option HubTierChannelCandidate :=
  let targets := first :: rest
  let smooth := smoothing targets.length (totalWeight targets)
  (Go.intn (Go.int64 (smooth.sumWeight * smooth.factor)) draw).map fun randomWeight =>
    weightedTarget
      (fun candidate => candidate.effectiveWeight (allStaticWeightsZero targets) * smooth.factor + smooth.adjustment)
      (rest.getLastD first) randomWeight targets

def selectHubTierProviderChannel (draw : Nat) (candidates : List HubTierChannelCandidate) : Option Nat :=
  match highestPriority candidates with
  | none => some 0
  | some priority =>
    match candidates.filter fun candidate => !candidate.hardUnavailable && candidate.priority = priority with
    | [] => some 0
    | [target] => some target.channelID
    | first :: rest => (drawTarget draw first rest).map (·.channelID)

def providerIDs (candidates : List HubTierChannelCandidate) : List Nat :=
  (candidates.map (·.provider)).dedup.insertionSort (· ≤ ·)

/-- First an owner, then a channel of that owner, so that splitting one
upstream into several channels gains no traffic. -/
def selectHubTierChannelFromEligible (draw : Draw) (candidates : List HubTierChannelCandidate) : Option Nat :=
  match providerIDs candidates with
  | [] => some 0
  | first :: rest => do
    let index ← Go.intn (first :: rest).length draw.provider
    let providerID := (first :: rest).getD index first
    selectHubTierProviderChannel draw.channel (candidates.filter fun candidate => candidate.provider = providerID)

/-- What a request may still use: neither failed before nor hard-unavailable. -/
def eligibleCandidates (candidates : List HubTierChannelCandidate) (excluded : Finset Nat) :
    List HubTierChannelCandidate :=
  candidates.filter fun candidate => decide (candidate.channelID ∉ excluded) && !candidate.hardUnavailable

def selectHubTierChannel (draw : Draw) (candidates : List HubTierChannelCandidate) (excluded : Finset Nat) :
    Option Nat :=
  selectHubTierChannelFromEligible draw (filterHubTierCandidatesByQualityBand (eligibleCandidates candidates excluded))

end LLMHub
