import LLMHub.Go.Strings
import LLMHub.Routing.TierSelect
import LLMHub.Schema.Supply

namespace LLMHub

inductive HubRoutingRealHealth
  | unknown
  | healthy
  | degraded
  | unhealthy
  | quarantined
  deriving DecidableEq, Repr

/-- What the router reads of a window of real traffic. -/
structure HubRoutingRuntimeSignal where
  realHealthState : HubRoutingRealHealth := .unknown
  realSampleCount : Int := 0
  realSuccessRateBps : Int := 0
  realAvailabilityFactorBps : Int := 0
  realFirstTokenSampleCount : Int := 0
  realFirstTokenP95Ms : Option Int := none
  realFirstTokenScoreBps : Int := 0
  deriving DecidableEq, Repr

structure HubRoutingProbeSignal where
  routable : Bool
  consecutiveFailures : Int := 0
  lastFirstTokenMs : Option Int := none
  deriving DecidableEq, Repr

structure HubRoutingDecision where
  runtimeSignal : Option HubRoutingRuntimeSignal
  hardUnavailable : Bool
  availabilityFactorBps : Int
  latencyFactorBps : Int
  deriving DecidableEq, Repr

def hubRoutingLatencyFactorFloorBps : Int := 2000

def handleThinkingBudgetModel (name start wildcard : String) : String :=
  if Go.startsWith name start && Go.contains name "-thinking-" then wildcard else name

def formatMatchingModelName (name : String) : String :=
  let name :=
    if Go.startsWith name "gemini-2.5-flash-lite" then
      handleThinkingBudgetModel name "gemini-2.5-flash-lite" "gemini-2.5-flash-lite-thinking-*"
    else if Go.startsWith name "gemini-2.5-flash" then
      handleThinkingBudgetModel name "gemini-2.5-flash" "gemini-2.5-flash-thinking-*"
    else if Go.startsWith name "gemini-2.5-pro" then
      handleThinkingBudgetModel name "gemini-2.5-pro" "gemini-2.5-pro-thinking-*"
    else name
  let name := if Go.startsWith name "gpt-4-gizmo" then "gpt-4-gizmo-*" else name
  if Go.startsWith name "gpt-4o-gizmo" then "gpt-4o-gizmo-*" else name

def normalizeHubRoutingRuntimeModelName (modelName : String) : String :=
  let modelName := Go.trimSpace modelName
  let normalized := Go.trimSpace (formatMatchingModelName modelName)
  if normalized ≠ "" then normalized else modelName

/-- Direct image requests have a health pool of their own. -/
def hubSupplyProbeKindForRequest (requestPath : String) : HubSupplyProbeKind :=
  let requestPath := Go.toLower (Go.trimSpace requestPath)
  if Go.startsWith requestPath "/v1/images/generations" || Go.startsWith requestPath "/v1/images/edits" then .image
  else .text

structure HubRoutingRuntimeKey where
  channelID : Nat
  modelName : String
  probeKind : HubSupplyProbeKind
  deriving DecidableEq, Repr

def hubRoutingRuntimeKey (channelID : Nat) (modelName requestPath : String) : HubRoutingRuntimeKey :=
  ⟨channelID, normalizeHubRoutingRuntimeModelName modelName, hubSupplyProbeKindForRequest requestPath⟩

/-- The published health signals. `runtime` is empty once its snapshot is older
than `HubRoutingRuntimeSnapshotMaxAgeSeconds`. -/
structure HubRoutingSignals where
  probes : List (HubRoutingRuntimeKey × HubRoutingProbeSignal) := []
  runtime : List (HubRoutingRuntimeKey × HubRoutingRuntimeSignal) := []

def hubRoutingLatencyScoreBps (value : Option Int) (zeroAtMs : Int) : Int :=
  match value with
  | none => hubRoutingFactorNeutralBps
  | some ms =>
    if ms < 0 ∨ zeroAtMs ≤ 0 then hubRoutingFactorNeutralBps
    else
      let score := (Go.int64 ((zeroAtMs - ms) * hubRoutingFactorNeutralBps)).tdiv zeroAtMs
      if score < 0 then 0 else if score > hubRoutingFactorNeutralBps then hubRoutingFactorNeutralBps else score

def hubRoutingTTFTScoreBps (p50Ms p95Ms : Option Int) : Int :=
  (hubRoutingLatencyScoreBps p50Ms 10000 * 2 + hubRoutingLatencyScoreBps p95Ms 20000 + 1).tdiv 3

def probeAvailabilityBps : Option HubRoutingProbeSignal → Int
  | none => hubRoutingFactorNeutralBps
  | some probe =>
    if !probe.routable then 0 else if probe.consecutiveFailures = 1 then 7000 else hubRoutingFactorNeutralBps

def realAvailabilityBps : Option HubRoutingRuntimeSignal → Int
  | none => hubRoutingFactorNeutralBps
  | some signal =>
    if signal.realAvailabilityFactorBps > 0 then signal.realAvailabilityFactorBps else hubRoutingFactorNeutralBps

def realHealth (runtime : Option HubRoutingRuntimeSignal) : Option HubRoutingRealHealth :=
  runtime.map (·.realHealthState)

/-- Probe and real latency weighted 70 to 30, the real one by its confidence. -/
def latencyFactorBps (probe : Option HubRoutingProbeSignal) (runtime : Option HubRoutingRuntimeSignal) : Int :=
  let probeLatencyScoreBps :=
    match probe.bind (·.lastFirstTokenMs) with
    | none => hubRoutingFactorNeutralBps
    | some ms => hubRoutingTTFTScoreBps (some ms) (some ms)
  let (realLatencyScoreBps, realConfidenceBps) : Int × Int :=
    match runtime with
    | none => (hubRoutingFactorNeutralBps, 0)
    | some signal =>
      if signal.realFirstTokenSampleCount ≥ 20 then
        (signal.realFirstTokenScoreBps,
          min (Go.int64 (signal.realFirstTokenSampleCount * 100)) hubRoutingFactorNeutralBps)
      else (hubRoutingFactorNeutralBps, 0)
  let realAdjusted := hubRoutingFactorNeutralBps +
    (Go.int64 ((realLatencyScoreBps - hubRoutingFactorNeutralBps) * realConfidenceBps)).tdiv hubRoutingFactorNeutralBps
  let factor := (Go.int64 (probeLatencyScoreBps * 70 + realAdjusted * 30 + 50)).tdiv 100
  if factor < hubRoutingLatencyFactorFloorBps then hubRoutingLatencyFactorFloorBps else factor

def getHubRoutingDecision (signals : HubRoutingSignals) (channelID : Nat) (modelName requestPath : String) :
    HubRoutingDecision :=
  let key := hubRoutingRuntimeKey channelID modelName requestPath
  let probe := signals.probes.lookup key
  let runtime := signals.runtime.lookup key
  let healthy := realHealth runtime = some .healthy
  let hardUnavailable : Bool :=
    realHealth runtime = some .quarantined ∨ (probe.any (!·.routable) ∧ ¬healthy)
  { runtimeSignal := runtime
    hardUnavailable
    availabilityFactorBps :=
      if hardUnavailable then 0
      else if healthy then hubRoutingFactorNeutralBps
      else min (probeAvailabilityBps probe) (realAvailabilityBps runtime)
    latencyFactorBps := latencyFactorBps probe runtime }

def decorateHubTierCandidateWithRuntimeHealth (signals : HubRoutingSignals) (candidate : HubTierChannelCandidate)
    (modelName requestPath : String) : HubTierChannelCandidate :=
  let decision := getHubRoutingDecision signals candidate.channelID modelName requestPath
  let candidate := { candidate with
    availabilityFactorBps := decision.availabilityFactorBps
    latencyFactorBps := decision.latencyFactorBps
    hardUnavailable := decision.hardUnavailable }
  match decision.runtimeSignal with
  | none => candidate
  | some signal => { candidate with
      realSampleCount := signal.realSampleCount
      realSuccessRateBps := signal.realSuccessRateBps
      realFirstTokenSamples := signal.realFirstTokenSampleCount
      realFirstTokenP95Ms := signal.realFirstTokenP95Ms.or candidate.realFirstTokenP95Ms }

end LLMHub
