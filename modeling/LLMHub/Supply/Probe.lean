import LLMHub.Schema.Database
import LLMHub.Store.Machine
import LLMHub.Go.Strings

namespace LLMHub

open Store Action Go

def hubSupplyProbeTestingLeaseSeconds : Int := 5 * 60
def hubSupplyProbeFailureSuspendLimit : Int := 100
def hubSupplyGroupDefaultTextProbeMinutes : Int := 10
def hubSupplyGroupDefaultImageProbeMinutes : Int := 30

/-- The names of a comma separated list, each once. -/
def normalizeHubSupplyModelNames (modelsCSV : String) : List String :=
  (((modelsCSV.toList.splitOn ',').map fun part => trimSpace (String.ofList part)).filter (· ≠ "")).eraseDups

def HubSupplyGroup.getAutoProbeDisabledModels (group : HubSupplyGroup) (configuredModelsCSV : String) : List String :=
  if trimSpace group.autoProbeDisabledModels = "" then []
  else (normalizeHubSupplyModelNames configuredModelsCSV).filter fun modelName =>
    modelName ∈ normalizeHubSupplyModelNames group.autoProbeDisabledModels

def HubSupplyGroup.isAutoProbeDisabled (group : HubSupplyGroup) (modelName configuredModelsCSV : String) : Bool :=
  trimSpace modelName ∈ group.getAutoProbeDisabledModels configuredModelsCSV

def hubSupplyProbeRetryDelayMinutes (baseMinutes consecutiveFailures : Int) : Int :=
  let baseMinutes := if baseMinutes ≤ 0 then hubSupplyGroupDefaultTextProbeMinutes else baseMinutes
  if consecutiveFailures ≤ 0 then baseMinutes
  else
    let capMinutes := if consecutiveFailures ≥ 30 then 60 else if consecutiveFailures ≥ 10 then 15 else 5
    if baseMinutes > capMinutes then capMinutes else baseMinutes

def hubSupplyProbeNextProbeAt (group : HubSupplyGroup) (target : HubSupplyGroupProbeTarget)
    (probedAt consecutiveFailures : Int) : Int :=
  if consecutiveFailures ≥ hubSupplyProbeFailureSuspendLimit then 0
  else
    let configured := if target.probeKind = .image then group.imageProbeMinutes else group.textProbeMinutes
    let default :=
      if target.probeKind = .image then hubSupplyGroupDefaultImageProbeMinutes else hubSupplyGroupDefaultTextProbeMinutes
    let minutes := if configured ≤ 0 then default else configured
    probedAt + hubSupplyProbeRetryDelayMinutes minutes consecutiveFailures * 60

namespace HubSupplyGroupProbeTarget

/-- Back in the queue, without a lease. -/
def requeue (now : Int) : Table.Assignment HubSupplyGroupProbeTarget where
  set t := { t with status := .pending, nextProbeAt := now, probeLeaseToken := "", updatedAt := now }

def release (now : Int) : Table.Assignment HubSupplyGroupProbeTarget where
  set t := { t with
    status :=
      if t.consecutiveFailures ≥ hubSupplyProbeFailureSuspendLimit then .suspended
      else if t.consecutiveFailures > 0 then .error
      else if t.lastSuccessAt > 0 then .available
      else .pending
    nextProbeAt := if t.consecutiveFailures ≥ hubSupplyProbeFailureSuspendLimit then 0 else now
    manualProbeRequested := false
    probeLeaseToken := ""
    updatedAt := now }

def claim (now : Int) (token : String) : Table.Assignment HubSupplyGroupProbeTarget where
  set t := { t with
    status := .testing
    nextProbeAt := now + hubSupplyProbeTestingLeaseSeconds
    probeLeaseToken := token
    updatedAt := now }

def resetForManualProbe (now : Int) : Table.Assignment HubSupplyGroupProbeTarget where
  set t := { t with
    status := .pending
    nextProbeAt := now
    consecutiveFailures := 0
    suspendedAt := 0
    suspensionReason := ""
    manualProbeRequested := true
    probeLeaseToken := ""
    updatedAt := now }

/-- `status = 'testing' AND probe_lease_token = ?`. -/
def leased (token : String) (t : HubSupplyGroupProbeTarget) : Bool := t.status == .testing && t.probeLeaseToken == token

/-- The condition of a query that names a lease only if the token is not blank. -/
def leasedIfGiven (token : String) (t : HubSupplyGroupProbeTarget) : Bool :=
  trimSpace token == "" || leased (trimSpace token) t

end HubSupplyGroupProbeTarget

open HubSupplyGroupProbeTarget

def requeueExpiredHubSupplyProbeTargets (now : Int) : Command Unit := do
  let _ ← updateWhere (fun t => t.status == .testing && decide (t.nextProbeAt ≤ now)) (requeue now)
  pure ()

def requeueHubSupplyProbeTargetsWithLease (now : Int) (targetIDs : List Int) (leaseToken : String) : Command Unit :=
  if targetIDs = [] then pure ()
  else do
    let _ ← updateWhere (fun t => targetIDs.contains t.id && t.status == .testing && leasedIfGiven leaseToken t)
      (requeue now)
    pure ()

def releaseSkippedHubSupplyProbeTargetWithLease (now targetID : Int) (leaseToken : String) : Command Unit :=
  if targetID ≤ 0 ∨ trimSpace leaseToken = "" then pure ()
  else do
    let _ ← updateWhere (fun t => t.id == targetID && leased (trimSpace leaseToken) t) (release now)
    pure ()

/-- `id IN ? AND status NOT IN ('suspended', 'testing') AND next_probe_at > 0
AND next_probe_at <= ?`. -/
def claimable (now : Int) (targetIDs : List Int) (t : HubSupplyGroupProbeTarget) : Bool :=
  targetIDs.contains t.id && t.status != .suspended && t.status != .testing &&
    decide (0 < t.nextProbeAt) && decide (t.nextProbeAt ≤ now)

/-- The token is random; it is returned whatever targets it claims. -/
def claimHubSupplyProbeTargetsTesting (now : Int) (tokenBytes : Vector UInt8 24) (targetIDs : List Int) : Command String :=
  if targetIDs = [] then pure ""
  else do
    let token := hexEncode tokenBytes.toList
    let _ ← updateWhere (claimable now targetIDs) (claim now token)
    pure token

def resetHubSupplyProbeTargetsForManualProbe (now : Int) (targetIDs : List Int) : Command Unit :=
  if targetIDs = [] then pure ()
  else do
    let _ ← updateWhere (fun t : HubSupplyGroupProbeTarget => targetIDs.contains t.id) (resetForManualProbe now)
    pure ()

/-- What a worker reports of a probe. -/
structure ProbeResult where
  success : Bool
  latencyMs : Int
  firstTokenMs : Option Int := none
  errorMessage : String := ""
  errorCode : String := ""
  resolvedEndpointType : String := ""
  deriving DecidableEq, Repr

/-- The first bytes of a text, up to a whole character. -/
def cutText (bytes : Nat) (s : String) : String :=
  String.ofList (s.toList.foldl (fun (kept, room) c =>
    if c.utf8Size ≤ room then (kept ++ [c], room - c.utf8Size) else (kept, 0)) (([] : List Char), bytes)).1

/-- The fields of the report as they are stored. -/
def ProbeResult.normalize (r : ProbeResult) : ProbeResult :=
  { r with
    firstTokenMs := r.firstTokenMs.filter (0 ≤ ·)
    errorMessage := if r.success then "" else cutText 2000 r.errorMessage
    errorCode := if r.success then "" else cutText 64 r.errorCode
    resolvedEndpointType := trimSpace r.resolvedEndpointType }

/-- The count after a result. -/
def ProbeResult.failures (r : ProbeResult) (consecutiveFailures : Int) : Int :=
  if r.success then 0
  else if consecutiveFailures + 1 ≥ hubSupplyProbeFailureSuspendLimit then hubSupplyProbeFailureSuspendLimit
  else consecutiveFailures + 1

def ProbeResult.status (r : ProbeResult) (consecutiveFailures : Int) : HubSupplyProbeStatus :=
  if r.success then .available
  else if consecutiveFailures + 1 ≥ hubSupplyProbeFailureSuspendLimit then .suspended
  else .error

/-- `updates`, computed from the loaded target and its group. -/
def ProbeResult.update (r : ProbeResult) (now : Int) (group : HubSupplyGroup) (target : HubSupplyGroupProbeTarget) :
    Table.Assignment HubSupplyGroupProbeTarget where
  set t := { t with
    status := r.status target.consecutiveFailures
    lastProbeAt := now
    lastSuccessAt := if r.success then now else target.lastSuccessAt
    nextProbeAt :=
      if group.configVersion = target.configVersion ∧ r.status target.consecutiveFailures ≠ .suspended ∧
          group.isAutoProbeDisabled target.modelName target.modelName = false then
        hubSupplyProbeNextProbeAt group target now (r.failures target.consecutiveFailures)
      else 0
    lastLatencyMs := r.latencyMs
    lastFirstTokenMs := if r.success then r.firstTokenMs else t.lastFirstTokenMs
    lastError := r.errorMessage
    lastErrorCode := r.errorCode
    consecutiveFailures := r.failures target.consecutiveFailures
    suspendedAt := if r.status target.consecutiveFailures = .suspended then now else 0
    suspensionReason :=
      if r.status target.consecutiveFailures = .suspended then "automatic_probe_failure_limit" else ""
    manualProbeRequested := false
    probeLeaseToken := ""
    resolvedEndpointType :=
      if r.success = true ∧ r.resolvedEndpointType ≠ "" then r.resolvedEndpointType else t.resolvedEndpointType
    updatedAt := now }

def ProbeResult.sample (r : ProbeResult) (now : Int) (target : HubSupplyGroupProbeTarget) : HubSupplyGroupProbeSample :=
  { groupId := target.groupId
    configVersion := target.configVersion
    modelName := target.modelName
    endpointType := if r.resolvedEndpointType ≠ "" then r.resolvedEndpointType else target.endpointType
    probeKind := target.probeKind
    success := r.success
    latencyMs := r.latencyMs
    firstTokenMs := r.firstTokenMs
    errorMessage := r.errorMessage
    errorCode := r.errorCode
    probedAt := now }

/-- `reconcileHubSupplyGroupRouteStateTx`, which writes groups, channels and
abilities and only reads probe targets. -/
structure RouteReconciler where
  run : Int → Command Unit
  targets : ∀ id, (run id).Keeps DB.hubSupplyGroupProbeTargets
  samples : ∀ id, (run id).Keeps DB.hubSupplyGroupProbeSamples

def probeTargetIs (targetID : Int) (t : HubSupplyGroupProbeTarget) : Bool := t.id == targetID

/-- The group and whether the result is about its current configuration. -/
def recordHubSupplyProbeResultWithLease (reconcile : RouteReconciler) (now targetID : Int) (leaseToken : String)
    (result : ProbeResult) : Command (Int × Bool) := transaction do
  let r := result.normalize
  let target ← mapError (fun e => if trimSpace leaseToken ≠ "" ∧ e.is .recordNotFound = true then .hubSupplyProbeLeaseLost else e)
    (findOr (fun t => probeTargetIs targetID t && leasedIfGiven leaseToken t) .recordNotFound)
  let group ← findOr (fun g : HubSupplyGroup => g.id == target.groupId) .recordNotFound
  let affected ← updateWhere (fun t => probeTargetIs target.id t && leasedIfGiven leaseToken t) (r.update now group target)
  failIf (trimSpace leaseToken ≠ "" ∧ affected ≠ 1) .hubSupplyProbeLeaseLost
  let _ ← create (r.sample now target) .duplicatedKey
  onlyIf (group.configVersion = target.configVersion) (reconcile.run group.id)
  pure (group.id, decide (group.configVersion = target.configVersion))

end LLMHub
