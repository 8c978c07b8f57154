import LLMHub.Settlement.Fees
import LLMHub.RevenueSplit
import LLMHub.Go.Strings

namespace LLMHub

open Store Action Go

structure HubProviderEarningParams where
  requestId : String
  providerId : Int
  ownerUserId : Int
  consumerUserId : Int := 0
  tokenId : Int := 0
  supplyGroupId : Int
  channelId : Int
  modelName : String := ""
  billingSource : String := ""
  grossQuota : Int
  baseGroupRatio : ℚ := 0
  supplyMultiplier : ℚ := 0
  supplyBillingRatio : ℚ := 0
  billingRatio : ℚ := 0
  tenantId : Int := 0
  providerServiceFeeBasisPoints : Int := 0
  hasProviderServiceFeeBasisPoints : Bool := false
  platformFeeBasisPoints : Int := 0
  hasPlatformFeeBasisPoints : Bool := false
  referralProviderId : Int := 0
  referralBasisPoints : Int := 0
  routingFallback : Bool := false
  fallbackPriceProtection : Bool := false
  settlementDeferred : Option Bool := none

namespace HubProviderEarning

def beforeCreate (now : Int) (e : HubProviderEarning) : HubProviderEarning :=
  { e with createdAt := now, updatedAt := now }

def withSplit (split : RevenueSplit) (e : HubProviderEarning) : HubProviderEarning :=
  { e with
    platformFeeQuota := split.platformFee
    providerIncomeQuota := split.providerIncome
    referralIncomeQuota := split.referralIncome
    resellerGrossQuota := split.resellerGross
    resellerNetIncomeQuota := split.resellerNet
    supplyGrossQuota := split.supplyGross
    fallbackSpreadPlatformQuota := split.fallbackSpreadPlatform }

/-- The columns a settled row must show for a replay with `grossQuota` to be
recognised. -/
def Records (e : HubProviderEarning) (grossQuota : Int) (split : RevenueSplit) : Prop :=
  e.grossQuota = grossQuota ∧ e.platformFeeQuota = split.platformFee ∧
    e.providerIncomeQuota = split.providerIncome ∧ e.referralIncomeQuota = split.referralIncome ∧
    compatibleHubProviderSupplyQuota e grossQuota = split.supplyGross ∧
    e.fallbackSpreadPlatformQuota = split.fallbackSpreadPlatform ∧
    (e.settlementVersion ≥ 2 →
      e.resellerGrossQuota = split.resellerGross ∧ e.resellerNetIncomeQuota = split.resellerNet)

instance (e : HubProviderEarning) (grossQuota : Int) (split : RevenueSplit) : Decidable (e.Records grossQuota split) :=
  inferInstanceAs (Decidable (_ ∧ _))

/-- The update of `SettleHubProviderEarning`. -/
def settle (now grossQuota : Int) (split : RevenueSplit) : Table.Assignment HubProviderEarning where
  set e := { e.withSplit split with
    status := .settled, grossQuota := grossQuota, settledAt := now, updatedAt := now }

/-- The update of `MarkHubProviderEarningReady`. -/
def release (now grossQuota : Int) (split : RevenueSplit) : Table.Assignment HubProviderEarning where
  set e := { e.withSplit split with
    settlementDeferred := some false, grossQuota := grossQuota, updatedAt := now }

/-- The update of `cancelHubProviderEarningTx`. -/
def cancel (now : Int) : Table.Assignment HubProviderEarning where
  set e := { e with status := .cancelled, cancelledAt := now, updatedAt := now }

/-- The update with which `PrepareHubProviderEarning` opens a cancelled row
again: every column of the new draft except the reference it was found by. -/
def reopen (now : Int) (draft : HubProviderEarning) : Table.Assignment HubProviderEarning where
  set e := { e with
    status := .pending
    settlementDeferred := draft.settlementDeferred
    billingSource := draft.billingSource
    grossQuota := draft.grossQuota
    supplyGrossQuota := draft.supplyGrossQuota
    supplyBillingRatio := draft.supplyBillingRatio
    tenantId := draft.tenantId
    providerServiceFeeBasisPoints := draft.providerServiceFeeBasisPoints
    platformFeeBasisPoints := draft.platformFeeBasisPoints
    platformFeeQuota := draft.platformFeeQuota
    providerIncomeQuota := draft.providerIncomeQuota
    resellerGrossQuota := draft.resellerGrossQuota
    resellerNetIncomeQuota := draft.resellerNetIncomeQuota
    settlementVersion := draft.settlementVersion
    referralProviderId := draft.referralProviderId
    referralOwnerUserId := draft.referralOwnerUserId
    referralBasisPoints := draft.referralBasisPoints
    referralIncomeQuota := draft.referralIncomeQuota
    fallbackSpreadPlatformQuota := draft.fallbackSpreadPlatformQuota
    routingFallback := draft.routingFallback
    fallbackPriceProtection := draft.fallbackPriceProtection
    baseGroupRatio := draft.baseGroupRatio
    supplyMultiplier := draft.supplyMultiplier
    billingRatio := draft.billingRatio
    settledAt := 0
    cancelledAt := 0
    updatedAt := now }

end HubProviderEarning

/-- `WHERE request_id = ?`. -/
def requestIdIs (requestId : String) (e : HubProviderEarning) : Bool := e.requestId == requestId

/-- `WHERE id = ? AND status = ?`. -/
def earningIs (id : Int) (status : HubProviderEarningStatus) (e : HubProviderEarning) : Bool :=
  e.id == id && e.status == status

def preparedTenantId (params : HubProviderEarningParams) : Command Int :=
  if params.tenantId ≤ 0 then resolveHubProviderTenantId params.providerId else pure params.tenantId

def preparedPlatformFee (env : Env) (params : HubProviderEarningParams) : Command Int :=
  if params.hasPlatformFeeBasisPoints then do
    failIf (params.platformFeeBasisPoints < 0 ∨ params.platformFeeBasisPoints > 10000)
      (.text "invalid hub provider platform fee snapshot")
    pure params.platformFeeBasisPoints
  else do
    let tenantId ← preparedTenantId params
    if tenantId > 0 then resolveHubTenantPlatformFeeBasisPoints env tenantId
      else resolveHubProviderPlatformFeeBasisPoints env params.providerId

def preparedServiceFee (env : Env) (params : HubProviderEarningParams) : Command Int :=
  if params.hasProviderServiceFeeBasisPoints then do
    failIf (params.providerServiceFeeBasisPoints < 0 ∨ params.providerServiceFeeBasisPoints > 10000)
      (.text "invalid hub provider service fee snapshot")
    pure params.providerServiceFeeBasisPoints
  else resolveHubProviderServiceFeeBasisPoints env params.providerId

/-- Provider, owner and rate of the referral snapshot; zeros without one. -/
structure ReferralSnapshot where
  providerId : Int := 0
  ownerUserId : Int := 0
  basisPoints : Int := 0

def referralSnapshot (params : HubProviderEarningParams) : Option HubProvider → ReferralSnapshot
  | some provider =>
    if provider.status = .active ∧ provider.ownerUserId > 0 then
      ⟨provider.id, provider.ownerUserId, params.referralBasisPoints⟩
    else {}
  | none => {}

def preparedReferral (params : HubProviderEarningParams) : Command ReferralSnapshot :=
  if params.referralProviderId > 0 ∧ params.referralProviderId ≠ params.providerId ∧
      params.referralBasisPoints > 0 then do
    failIf (params.referralBasisPoints > 10000) (.text "invalid fallback referral commission snapshot")
    let provider ← find fun p : HubProvider => p.id == params.referralProviderId
    pure (referralSnapshot params provider)
  else pure {}

/-- The pending row built from the parameters and the resolved rates. A
two-layer split needs an explicit service fee and a tenant. -/
def draftEarning (params : HubProviderEarningParams) (platformFee serviceFee tenantId : Int)
    (referral : ReferralSnapshot) : HubProviderEarning :=
  let twoLayer := params.hasProviderServiceFeeBasisPoints && tenantId > 0
  { requestId := trimSpace params.requestId
    entryType := .usage
    status := .pending
    settlementDeferred := params.settlementDeferred
    providerId := params.providerId
    tenantId := tenantId
    ownerUserId := params.ownerUserId
    consumerUserId := params.consumerUserId
    tokenId := params.tokenId
    supplyGroupId := params.supplyGroupId
    channelId := params.channelId
    modelName := trimSpace params.modelName
    billingSource := trimSpace params.billingSource
    grossQuota := params.grossQuota
    supplyBillingRatio := params.supplyBillingRatio
    providerServiceFeeBasisPoints := if twoLayer then serviceFee else 0
    platformFeeBasisPoints := platformFee
    referralProviderId := referral.providerId
    referralOwnerUserId := referral.ownerUserId
    referralBasisPoints := referral.basisPoints
    routingFallback := params.routingFallback
    fallbackPriceProtection := params.fallbackPriceProtection
    baseGroupRatio := params.baseGroupRatio
    supplyMultiplier := params.supplyMultiplier
    billingRatio := params.billingRatio
    settlementVersion := if twoLayer then 2 else 0 }

/-- The reference of an existing row that a second preparation must repeat. -/
def sameReference (params : HubProviderEarningParams) (existing : HubProviderEarning) : Bool :=
  existing.providerId = params.providerId && existing.ownerUserId = params.ownerUserId &&
    existing.consumerUserId = params.consumerUserId && existing.channelId = params.channelId &&
    existing.supplyGroupId = params.supplyGroupId && existing.tokenId = params.tokenId &&
    existing.modelName = trimSpace params.modelName && existing.entryType = .usage

/-- The second half of `PrepareHubProviderEarning`, when the row could not be
created: find the row that is in the way and open it again if it was
cancelled. -/
def prepareExisting (env : Env) (params : HubProviderEarningParams) (draft : HubProviderEarning) :
    Command HubProviderEarning := do
  let existing ← findOr (requestIdIs (trimSpace params.requestId)) .recordNotFound
  failIf (sameReference params existing = false) .hubProviderEarningReferenceConflict
  if existing.status = .cancelled then do
    let _ ← updateWhere (earningIs existing.id .cancelled) (HubProviderEarning.reopen env.now draft)
    findOr (fun e : HubProviderEarning => e.id == existing.id) .recordNotFound
  else pure existing

def prepareHubProviderEarning (env : Env) (params : HubProviderEarningParams) : Command HubProviderEarning := do
  failIf (trimSpace params.requestId = "" ∨ params.providerId ≤ 0 ∨ params.ownerUserId ≤ 0 ∨
    params.supplyGroupId ≤ 0 ∨ params.channelId ≤ 0 ∨ params.grossQuota ≤ 0) (.text "invalid hub provider earning")
  let platformFee ← preparedPlatformFee env params
  let serviceFee ← preparedServiceFee env params
  let tenantId ← preparedTenantId params
  let referral ← preparedReferral params
  let snapshot := draftEarning params platformFee serviceFee tenantId referral
  let split ← calculateHubProviderEarningRevenueSplit snapshot params.grossQuota
  let draft := snapshot.withSplit split
  let created ← attempt (create (draft.beforeCreate env.now) .duplicatedKey)
  match created with
  | .ok earning => pure earning
  | .error _ => prepareExisting env params draft

def settleHubProviderEarning (env : Env) (requestId : String) (grossQuota : Int) : Command Unit := do
  failIf (trimSpace requestId = "" ∨ grossQuota ≤ 0) (.text "invalid hub provider earning settlement")
  transaction do
    let earning ← findOr (requestIdIs (trimSpace requestId)) .recordNotFound
    failIf (earning.status = .cancelled) .hubProviderEarningCancelled
    failIf (earning.settlementDeferred = some true) .hubProviderEarningSettlementDeferred
    let split ← calculateHubProviderEarningRevenueSplit earning grossQuota
    if earning.status = .settled then
      failIf (¬earning.Records grossQuota split) .hubProviderEarningReferenceConflict
    else do
      let _ ← updateWhere (fun e => e.id == earning.id) (HubProviderEarning.settle env.now grossQuota split)
      pure ()

def markHubProviderEarningReady (env : Env) (requestId : String) (grossQuota : Int) : Command Unit := do
  failIf (trimSpace requestId = "" ∨ grossQuota ≤ 0) (.text "invalid hub provider earning release")
  transaction do
    let earning ← findOr (requestIdIs (trimSpace requestId)) .recordNotFound
    failIf (earning.status = .cancelled) .hubProviderEarningCancelled
    let split ← calculateHubProviderEarningRevenueSplit earning grossQuota
    if earning.status = .settled then
      failIf (¬earning.Records grossQuota split) .hubProviderEarningReferenceConflict
    else do
      let affected ← updateWhere (earningIs earning.id .pending) (HubProviderEarning.release env.now grossQuota split)
      failIf (affected ≠ 1) .hubProviderEarningReferenceConflict

def cancelHubProviderEarningTx (env : Env) (requestId : String) : Command Unit := do
  let found ← find (requestIdIs requestId)
  match found with
  | none => pure ()
  | some earning =>
    match earning.status with
    | .cancelled => pure ()
    | .settled => fail .hubProviderEarningAlreadySettled
    | .other _ => fail .hubProviderEarningReferenceConflict
    | .pending => do
      let affected ← updateWhere (earningIs earning.id .pending) (HubProviderEarning.cancel env.now)
      failIf (affected ≠ 1) .hubProviderEarningReferenceConflict

def cancelHubProviderEarning (env : Env) (requestId : String) : Command Unit :=
  if trimSpace requestId = "" then pure () else transaction (cancelHubProviderEarningTx env (trimSpace requestId))

end LLMHub
