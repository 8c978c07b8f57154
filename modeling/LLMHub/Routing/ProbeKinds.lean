import LLMHub.Go.Entries
import LLMHub.Routing.Cache
import LLMHub.Supply.Probe

namespace LLMHub

def hubSupplyProbeFailureThreshold : Int := 2

def hubSupplyProbeTargetRoutable (target : HubSupplyGroupProbeTarget) : Bool :=
  match target.status with
  | .available => true
  | .pending | .testing | .error =>
    0 < target.lastSuccessAt && target.consecutiveFailures < hubSupplyProbeFailureThreshold
  | _ => false

def HubSupplyGroupProbeTarget.verified (target : HubSupplyGroupProbeTarget) : Bool :=
  0 < target.lastSuccessAt || target.status = .available

/-- The verified probe kinds by model. A kind is available while every verified
target of it is routable. -/
def buildHubSupplyModelProbeKinds (targets : List HubSupplyGroupProbeTarget) : HubSupplyModelProbeKinds :=
  (targets.filter (·.verified)).foldl
    (fun result target =>
      let kinds := (result.lookup target.modelName).getD []
      let available := (kinds.lookup target.probeKind).getD true
      Go.put result target.modelName
        (Go.put kinds target.probeKind (available && hubSupplyProbeTargetRoutable target)))
    []

def hubSupplyAutoProbeDisabledModelKinds (modelName : String) (targets : List HubSupplyGroupProbeTarget) :
    List (HubSupplyProbeKind × Bool) :=
  (targets.filter fun target => target.modelName = modelName && target.verified).foldl
    (fun kinds target => Go.put kinds target.probeKind true) []

def HubSupplyProbeKind.trimmed : HubSupplyProbeKind → HubSupplyProbeKind
  | .other value =>
    match Go.trimSpace value with
    | "text" => .text
    | "image" => .image
    | value => .other value
  | kind => kind

/-- A probe result as the loader reports it for a channel. -/
structure HubRoutingProbeReport extends HubRoutingProbeSignal where
  channelID : Nat
  modelName : String
  probeKind : HubSupplyProbeKind
  deriving DecidableEq, Repr

def HubRoutingProbeReport.key (report : HubRoutingProbeReport) : HubRoutingRuntimeKey :=
  ⟨report.channelID, normalizeHubRoutingRuntimeModelName report.modelName, report.probeKind.trimmed⟩

def HubRoutingRuntimeKey.complete (key : HubRoutingRuntimeKey) : Bool :=
  0 < key.channelID && key.modelName ≠ "" && key.probeKind ≠ .other ""

/-- Two results under one key: routable while both are, with the larger failure
count and the slower first token. -/
def HubRoutingProbeSignal.join (current signal : HubRoutingProbeSignal) : HubRoutingProbeSignal where
  routable := current.routable && signal.routable
  consecutiveFailures := max current.consecutiveFailures signal.consecutiveFailures
  lastFirstTokenMs :=
    match current.lastFirstTokenMs, signal.lastFirstTokenMs with
    | some slowest, some ms => some (if ms > slowest then ms else slowest)
    | none, reported => reported
    | slowest, none => slowest

def publishHubRoutingProbeSignals (reports : List HubRoutingProbeReport) :
    List (HubRoutingRuntimeKey × HubRoutingProbeSignal) :=
  (reports.filter (·.key.complete)).foldl
    (fun published report =>
      Go.put published report.key
        (match published.lookup report.key with
        | none => report.toHubRoutingProbeSignal
        | some current => current.join report.toHubRoutingProbeSignal))
    []

/-- A supply group with its channel and its probe targets. -/
structure SuppliedChannel where
  channelID : Nat
  group : HubSupplyGroup
  targets : List HubSupplyGroupProbeTarget

namespace SuppliedChannel

def currentTargets (supplied : SuppliedChannel) : List HubSupplyGroupProbeTarget :=
  supplied.targets.filter fun target => target.configVersion = supplied.group.configVersion

def autoProbeDisabledModels (supplied : SuppliedChannel) : List String :=
  normalizeHubSupplyModelNames supplied.group.autoProbeDisabledModels

def loadedProbeKinds (supplied : SuppliedChannel) : HubSupplyModelProbeKinds :=
  supplied.autoProbeDisabledModels.foldl
    (fun modelKinds modelName =>
      Go.put modelKinds modelName (hubSupplyAutoProbeDisabledModelKinds modelName supplied.currentTargets))
    (buildHubSupplyModelProbeKinds supplied.currentTargets)

/-- A model that is not probed any more stays routable once verified. -/
def targetRoutable (supplied : SuppliedChannel) (target : HubSupplyGroupProbeTarget) : Bool :=
  if supplied.group.isAutoProbeDisabled target.modelName target.modelName then target.verified
  else hubSupplyProbeTargetRoutable target

def report (supplied : SuppliedChannel) (target : HubSupplyGroupProbeTarget) : HubRoutingProbeReport where
  channelID := supplied.channelID
  modelName := target.modelName
  probeKind := target.probeKind
  routable := supplied.targetRoutable target
  consecutiveFailures := target.consecutiveFailures
  lastFirstTokenMs := target.lastFirstTokenMs

end SuppliedChannel

/-- The probe kinds of every supplied channel, and the results to publish. -/
def loadHubSupplyChannelProbeKinds (supplied : List SuppliedChannel) :
    List (Nat × HubSupplyModelProbeKinds) × List HubRoutingProbeReport :=
  (supplied.map fun channel => (channel.channelID, channel.loadedProbeKinds),
    supplied.flatMap fun channel => channel.currentTargets.map channel.report)

/-- The request path that stands for a probe kind. -/
def probeKindPath (probeKind : HubSupplyProbeKind) : String :=
  if probeKind = .image then "/v1/images/generations" else "/v1/chat/completions"

def hubSupplyPublicModelRoutable (signals : HubRoutingSignals) (channelID : Nat) (modelName : String)
    (autoProbeDisabledKinds : List (HubSupplyProbeKind × Bool)) (targets : List HubSupplyGroupProbeTarget) : Bool :=
  let modelKinds := buildHubSupplyModelProbeKinds targets
  let modelKinds :=
    if autoProbeDisabledKinds = [] then modelKinds else Go.put modelKinds modelName autoProbeDisabledKinds
  (hubSupplyModelProbeKindsForModel modelKinds modelName).any fun (probeKind, probeRoutable) =>
    let runtime := signals.runtime.lookup (hubRoutingRuntimeKey channelID modelName (probeKindPath probeKind))
    if realHealth runtime = some .quarantined then false
    else probeRoutable || realHealth runtime = some .healthy

/-- The public check as its callers make it: on the current targets of the exact
model name, with their kinds if the model's automatic probe is off. -/
def SuppliedChannel.publicModelRoutable (supplied : SuppliedChannel) (signals : HubRoutingSignals)
    (modelName channelModels : String) : Bool :=
  let modelTargets := supplied.currentTargets.filter fun target => target.modelName = modelName
  let autoProbeDisabledKinds :=
    if supplied.group.isAutoProbeDisabled modelName channelModels then
      hubSupplyAutoProbeDisabledModelKinds modelName modelTargets
    else []
  hubSupplyPublicModelRoutable signals supplied.channelID modelName autoProbeDisabledKinds modelTargets

end LLMHub
