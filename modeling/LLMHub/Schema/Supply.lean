import LLMHub.Store.Table

namespace LLMHub

open Store

/-- The columns of `hub_supply_groups` that recording a probe reads. -/
structure HubSupplyGroup where
  id : Int
  autoProbeDisabledModels : String := ""
  configVersion : Int := 1
  textProbeMinutes : Int := 10
  imageProbeMinutes : Int := 30
  deriving DecidableEq, Repr

instance : Record HubSupplyGroup := ⟨HubSupplyGroup.id, fun n x => { x with id := n }, fun _ => none, fun _ _ => rfl,
  fun _ _ => rfl⟩

inductive HubSupplyProbeKind
  | text
  | image
  | other (value : String)
  deriving DecidableEq, Repr

inductive HubSupplyProbeStatus
  | pending
  | testing
  | waiting
  | available
  | error
  | suspended
  | skipped
  | other (value : String)
  deriving DecidableEq, Repr

structure HubSupplyGroupProbeTarget where
  id : Int
  groupId : Int
  configVersion : Int
  modelName : String
  endpointType : String
  resolvedEndpointType : String := ""
  probeKind : HubSupplyProbeKind
  status : HubSupplyProbeStatus
  lastProbeAt : Int := 0
  lastSuccessAt : Int := 0
  nextProbeAt : Int
  lastLatencyMs : Int := 0
  lastFirstTokenMs : Option Int := none
  lastError : String := ""
  lastErrorCode : String := ""
  consecutiveFailures : Int := 0
  suspendedAt : Int := 0
  suspensionReason : String := ""
  manualProbeRequested : Bool := false
  probeLeaseToken : String := ""
  updatedAt : Int := 0
  deriving DecidableEq, Repr

instance : Record HubSupplyGroupProbeTarget := ⟨HubSupplyGroupProbeTarget.id, fun n x => { x with id := n },
  fun _ => none, fun _ _ => rfl, fun _ _ => rfl⟩

structure HubSupplyGroupProbeSample where
  id : Int := 0
  groupId : Int
  configVersion : Int
  modelName : String
  endpointType : String
  probeKind : HubSupplyProbeKind
  success : Bool
  latencyMs : Int
  firstTokenMs : Option Int
  errorMessage : String
  errorCode : String
  probedAt : Int
  deriving DecidableEq, Repr

instance : Record HubSupplyGroupProbeSample := ⟨HubSupplyGroupProbeSample.id, fun n x => { x with id := n },
  fun _ => none, fun _ _ => rfl, fun _ _ => rfl⟩

end LLMHub
