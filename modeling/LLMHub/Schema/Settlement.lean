import LLMHub.Store.Table
import Mathlib.Data.Rat.Defs

namespace LLMHub

open Store

inductive HubProviderStatus
  | pending
  | active
  | rejected
  | disabled
  deriving DecidableEq, Repr

/-- The columns of `hub_providers` that settlement reads. -/
structure HubProvider where
  id : Int
  ownerUserId : Int
  tenantId : Option Int := none
  platformFeeBasisPoints : Option Int := none
  status : HubProviderStatus
  deriving DecidableEq, Repr

instance : Record HubProvider := ⟨HubProvider.id, fun n x => { x with id := n }, fun _ => none, fun _ _ => rfl,
  fun _ _ => rfl⟩

inductive TenantStatus
  | active
  | disabled
  deriving DecidableEq, Repr

structure Tenant where
  id : Int
  status : TenantStatus
  platformFeeBasisPoints : Option Int := none
  deriving DecidableEq, Repr

instance : Record Tenant := ⟨Tenant.id, fun n x => { x with id := n }, fun _ => none, fun _ _ => rfl,
  fun _ _ => rfl⟩

inductive TenantMemberRole
  | owner
  | admin
  deriving DecidableEq, Repr

structure TenantMember where
  id : Int
  tenantId : Int
  userId : Int
  role : TenantMemberRole
  status : TenantStatus
  deriving DecidableEq, Repr

instance : Record TenantMember := ⟨TenantMember.id, fun n x => { x with id := n }, fun _ => none, fun _ _ => rfl,
  fun _ _ => rfl⟩

inductive HubProviderEarningType
  | usage
  | adjustment
  | balanceTransfer
  deriving DecidableEq, Repr

/-- The status column is free text; `other` is a value no operation writes. -/
inductive HubProviderEarningStatus
  | pending
  | settled
  | cancelled
  | other (value : String)
  deriving DecidableEq, Repr

/-- The settlement snapshot of one billable request, one administrator
adjustment or one transfer to an account balance. Unset fields hold the
column defaults. -/
structure HubProviderEarning where
  id : Int := 0
  requestId : String
  entryType : HubProviderEarningType
  status : HubProviderEarningStatus
  settlementDeferred : Option Bool := none
  providerId : Int := 0
  tenantId : Int := 0
  ownerUserId : Int := 0
  consumerUserId : Int := 0
  tokenId : Int := 0
  supplyGroupId : Int := 0
  channelId : Int := 0
  modelName : String := ""
  billingSource : String := ""
  grossQuota : Int := 0
  supplyGrossQuota : Int := 0
  supplyBillingRatio : ℚ := 0
  providerServiceFeeBasisPoints : Int := 0
  platformFeeBasisPoints : Int := 0
  platformFeeQuota : Int := 0
  providerIncomeQuota : Int := 0
  resellerGrossQuota : Int := 0
  resellerNetIncomeQuota : Int := 0
  settlementVersion : Int := 0
  referralProviderId : Int := 0
  referralOwnerUserId : Int := 0
  referralBasisPoints : Int := 0
  referralIncomeQuota : Int := 0
  fallbackSpreadPlatformQuota : Int := 0
  routingFallback : Bool := false
  fallbackPriceProtection : Bool := false
  baseGroupRatio : ℚ := 0
  supplyMultiplier : ℚ := 0
  billingRatio : ℚ := 0
  operatorUserId : Int := 0
  remark : String := ""
  settledAt : Int := 0
  cancelledAt : Int := 0
  createdAt : Int := 0
  updatedAt : Int := 0
  deriving Repr

instance : Record HubProviderEarning := ⟨HubProviderEarning.id, fun n x => { x with id := n },
  fun x => some (.text x.requestId), fun _ _ => rfl, fun _ _ => rfl⟩

/-- Who a withdrawal or a payout account belongs to. The two kinds live in
tables of their own with the same columns. -/
inductive HubParty
  | provider
  | tenant
  deriving DecidableEq, Repr

inductive HubWithdrawalStatus
  | pending
  | approved
  | paid
  | rejected
  | other (value : String)
  deriving DecidableEq, Repr

/-- A row of `hub_provider_withdrawals` or `hub_tenant_withdrawals`;
`holderId` is its `provider_id` or `tenant_id`. -/
structure HubWithdrawal (party : HubParty) where
  id : Int := 0
  holderId : Int
  ownerUserId : Int
  amountQuota : Int
  status : HubWithdrawalStatus
  payoutAccountId : Int := 0
  payoutMethod : String := ""
  payoutAccountSnapshot : String
  applicantNote : String := ""
  payoutCurrency : String := ""
  payoutAmountMinor : Int := 0
  exchangeRate : String := ""
  adminRemark : String := ""
  adminUserId : Int := 0
  reviewedAt : Int := 0
  paidAt : Int := 0
  createdAt : Int := 0
  updatedAt : Int := 0
  deriving DecidableEq, Repr

abbrev HubProviderWithdrawal := HubWithdrawal .provider

abbrev HubTenantWithdrawal := HubWithdrawal .tenant

instance {party : HubParty} : Record (HubWithdrawal party) := ⟨HubWithdrawal.id, fun n x => { x with id := n },
  fun _ => none, fun _ _ => rfl, fun _ _ => rfl⟩

structure HubPayoutAccountDetails where
  version : Int
  recipientName : String
  account : String
  accountType : String
  bankName : String
  bankBranch : String
  deriving DecidableEq, Repr

structure HubPayoutAccount (party : HubParty) where
  id : Int
  holderId : Int
  method : String
  detailsJSON : String
  qrCodeAssetId : Int
  isDefault : Bool := false
  deriving DecidableEq, Repr

instance {party : HubParty} : Record (HubPayoutAccount party) := ⟨HubPayoutAccount.id,
  fun n x => { x with id := n }, fun _ => none, fun _ _ => rfl, fun _ _ => rfl⟩

/-- A picture that belongs to an account. -/
structure HubPayoutAsset (party : HubParty) where
  id : Int
  holderId : Int
  deriving DecidableEq, Repr

instance {party : HubParty} : Record (HubPayoutAsset party) := ⟨HubPayoutAsset.id,
  fun n x => { x with id := n }, fun _ => none, fun _ _ => rfl, fun _ _ => rfl⟩

end LLMHub
