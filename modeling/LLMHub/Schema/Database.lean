import LLMHub.Schema.Settlement
import LLMHub.Schema.Consumer
import LLMHub.Schema.UserSession
import LLMHub.Schema.Supply
import LLMHub.Schema.Errors
import LLMHub.Store.Statement

namespace LLMHub

open Store

structure DB where
  users : Table User := .empty
  tokens : Table Token := .empty
  userSubscriptions : Table UserSubscription := .empty
  subscriptionPlans : Table SubscriptionPlan := .empty
  subscriptionPreConsumeRecords : Table SubscriptionPreConsumeRecord := .empty
  hubProviders : Table HubProvider := .empty
  tenants : Table Tenant := .empty
  tenantMembers : Table TenantMember := .empty
  hubProviderEarnings : Table HubProviderEarning := .empty
  hubProviderWithdrawals : Table HubProviderWithdrawal := .empty
  hubTenantWithdrawals : Table HubTenantWithdrawal := .empty
  hubProviderPayoutAccounts : Table (HubPayoutAccount .provider) := .empty
  hubTenantPayoutAccounts : Table (HubPayoutAccount .tenant) := .empty
  hubProviderPayoutAssets : Table (HubPayoutAsset .provider) := .empty
  hubTenantPayoutAssets : Table (HubPayoutAsset .tenant) := .empty
  billingRefunds : Table BillingRefund := .empty
  billingTokenAdjustments : Table BillingTokenAdjustment := .empty
  billingTaskSettlements : Table BillingTaskSettlement := .empty
  tasks : Table Task := .empty
  channels : Table Channel := .empty
  topUps : Table TopUp := .empty
  subscriptionOrders : Table SubscriptionOrder := .empty
  userSessions : Table UserSession := .empty
  hubSupplyGroups : Table HubSupplyGroup := .empty
  hubSupplyGroupProbeTargets : Table HubSupplyGroupProbeTarget := .empty
  hubSupplyGroupProbeSamples : Table HubSupplyGroupProbeSample := .empty

instance : HasTable DB User := ⟨DB.users, fun db t => { db with users := t }, fun _ _ => rfl⟩

instance : HasTable DB Token := ⟨DB.tokens, fun db t => { db with tokens := t }, fun _ _ => rfl⟩

instance : HasTable DB UserSubscription :=
  ⟨DB.userSubscriptions, fun db t => { db with userSubscriptions := t }, fun _ _ => rfl⟩

instance : HasTable DB SubscriptionPlan :=
  ⟨DB.subscriptionPlans, fun db t => { db with subscriptionPlans := t }, fun _ _ => rfl⟩

instance : HasTable DB SubscriptionPreConsumeRecord :=
  ⟨DB.subscriptionPreConsumeRecords, fun db t => { db with subscriptionPreConsumeRecords := t }, fun _ _ => rfl⟩

instance : HasTable DB HubProvider := ⟨DB.hubProviders, fun db t => { db with hubProviders := t }, fun _ _ => rfl⟩

instance : HasTable DB Tenant := ⟨DB.tenants, fun db t => { db with tenants := t }, fun _ _ => rfl⟩

instance : HasTable DB TenantMember :=
  ⟨DB.tenantMembers, fun db t => { db with tenantMembers := t }, fun _ _ => rfl⟩

instance : HasTable DB HubProviderEarning :=
  ⟨DB.hubProviderEarnings, fun db t => { db with hubProviderEarnings := t }, fun _ _ => rfl⟩

instance : HasTable DB HubProviderWithdrawal :=
  ⟨DB.hubProviderWithdrawals, fun db t => { db with hubProviderWithdrawals := t }, fun _ _ => rfl⟩

instance : HasTable DB HubTenantWithdrawal :=
  ⟨DB.hubTenantWithdrawals, fun db t => { db with hubTenantWithdrawals := t }, fun _ _ => rfl⟩

instance : HasTable DB (HubPayoutAccount .provider) :=
  ⟨DB.hubProviderPayoutAccounts, fun db t => { db with hubProviderPayoutAccounts := t }, fun _ _ => rfl⟩

instance : HasTable DB (HubPayoutAccount .tenant) :=
  ⟨DB.hubTenantPayoutAccounts, fun db t => { db with hubTenantPayoutAccounts := t }, fun _ _ => rfl⟩

instance : HasTable DB (HubPayoutAsset .provider) :=
  ⟨DB.hubProviderPayoutAssets, fun db t => { db with hubProviderPayoutAssets := t }, fun _ _ => rfl⟩

instance : HasTable DB (HubPayoutAsset .tenant) :=
  ⟨DB.hubTenantPayoutAssets, fun db t => { db with hubTenantPayoutAssets := t }, fun _ _ => rfl⟩

instance : HasTable DB BillingRefund :=
  ⟨DB.billingRefunds, fun db t => { db with billingRefunds := t }, fun _ _ => rfl⟩

instance : HasTable DB BillingTokenAdjustment :=
  ⟨DB.billingTokenAdjustments, fun db t => { db with billingTokenAdjustments := t }, fun _ _ => rfl⟩

instance : HasTable DB BillingTaskSettlement :=
  ⟨DB.billingTaskSettlements, fun db t => { db with billingTaskSettlements := t }, fun _ _ => rfl⟩

instance : HasTable DB Channel := ⟨DB.channels, fun db t => { db with channels := t }, fun _ _ => rfl⟩

instance : HasTable DB TopUp := ⟨DB.topUps, fun db t => { db with topUps := t }, fun _ _ => rfl⟩

instance : HasTable DB SubscriptionOrder :=
  ⟨DB.subscriptionOrders, fun db t => { db with subscriptionOrders := t }, fun _ _ => rfl⟩

instance : HasTable DB UserSession := ⟨DB.userSessions, fun db t => { db with userSessions := t }, fun _ _ => rfl⟩

instance : HasTable DB HubSupplyGroup :=
  ⟨DB.hubSupplyGroups, fun db t => { db with hubSupplyGroups := t }, fun _ _ => rfl⟩

instance : HasTable DB HubSupplyGroupProbeTarget :=
  ⟨DB.hubSupplyGroupProbeTargets, fun db t => { db with hubSupplyGroupProbeTargets := t }, fun _ _ => rfl⟩

instance : HasTable DB HubSupplyGroupProbeSample :=
  ⟨DB.hubSupplyGroupProbeSamples, fun db t => { db with hubSupplyGroupProbeSamples := t }, fun _ _ => rfl⟩

instance : HasTable DB Task := ⟨DB.tasks, fun db t => { db with tasks := t }, fun _ _ => rfl⟩

/-- Code of packages `model` and `service`, run against the main database. -/
abbrev Command (α : Type) := Action DB ModelError α

/-- Runtime settings of `hub_provider_settlement_setting`. -/
structure HubProviderSettlementSetting where
  platformFeeBasisPoints : Int := 3000
  providerServiceFeeBasisPoints : Int := 1000
  minimumWithdrawalQuota : Int := 0
  fallbackReferralEnabled : Bool := true
  fallbackReferralBasisPoints : Int := 2000

structure HubPayoutAccountSnapshot where
  method : String
  details : HubPayoutAccountDetails
  qrCodeAssetId : Int
  maskedSummary : String
  deriving DecidableEq, Repr

/-- The JSON package behind `common.Marshal` and `common.Unmarshal`, at the two
types settlement stores as text. -/
structure PayoutJSON where
  marshalDetails : HubPayoutAccountDetails → Except String String
  unmarshalDetails : String → Except String HubPayoutAccountDetails
  marshalSnapshot : HubPayoutAccountSnapshot → Except String String
  unmarshalSnapshot : String → Except String HubPayoutAccountSnapshot

/-- What an operation reads besides the database: the runtime settings, the
JSON package and the clock. -/
structure Env where
  setting : HubProviderSettlementSetting
  json : PayoutJSON
  now : Int
  now_pos : 0 < now

end LLMHub
