import LLMHub.Schema.Database

namespace LLMHub

open Store Action

namespace HubProviderSettlementSetting

/-- `hub_provider_settlement_setting.PlatformFeeBasisPoints`. -/
def platformFee (s : HubProviderSettlementSetting) : Int :=
  if s.platformFeeBasisPoints < 0 ∨ s.platformFeeBasisPoints > 10000 then 3000 else s.platformFeeBasisPoints

/-- `hub_provider_settlement_setting.ProviderServiceFeeBasisPoints`. -/
def providerServiceFee (s : HubProviderSettlementSetting) : Int :=
  if s.providerServiceFeeBasisPoints < 0 ∨ s.providerServiceFeeBasisPoints > 10000 then 1000
  else s.providerServiceFeeBasisPoints

/-- `hub_provider_settlement_setting.MinimumWithdrawalQuota`. -/
def minimumWithdrawal (s : HubProviderSettlementSetting) : Int :=
  if s.minimumWithdrawalQuota < 0 then 0 else s.minimumWithdrawalQuota

end HubProviderSettlementSetting

/-- A nullable override column: absent or out of range means the global fee. -/
def feeOverride (globalFee : Int) : Option Int → Int
  | none => globalFee
  | some value => if value < 0 ∨ value > 10000 then globalFee else value

/-- Both provider fees are overridden by the same column. -/
def resolveHubProviderFeeBasisPoints (globalFee providerId : Int) : Command Int :=
  if providerId ≤ 0 then pure globalFee
  else do
    let provider ← find fun p : HubProvider => p.id == providerId
    pure (feeOverride globalFee (provider.bind HubProvider.platformFeeBasisPoints))

def resolveHubProviderPlatformFeeBasisPoints (env : Env) (providerId : Int) : Command Int :=
  resolveHubProviderFeeBasisPoints env.setting.platformFee providerId

def resolveHubProviderServiceFeeBasisPoints (env : Env) (providerId : Int) : Command Int :=
  resolveHubProviderFeeBasisPoints env.setting.providerServiceFee providerId

def resolveHubTenantPlatformFeeBasisPoints (env : Env) (tenantId : Int) : Command Int :=
  if tenantId ≤ 0 then pure env.setting.platformFee
  else do
    let tenant ← find fun t : Tenant => t.id == tenantId
    pure (feeOverride env.setting.platformFee (tenant.bind Tenant.platformFeeBasisPoints))

def resolveHubProviderTenantId (providerId : Int) : Command Int :=
  if providerId ≤ 0 then pure 0
  else do
    let provider ← find fun p : HubProvider => p.id == providerId
    pure ((provider.bind HubProvider.tenantId).getD 0)

theorem resolveHubProviderFeeBasisPoints_readOnly (globalFee providerId : Int) :
    (resolveHubProviderFeeBasisPoints globalFee providerId).ReadOnly :=
  .ite (.pure _) (.bind (.find _) fun _ => .pure _)

theorem resolveHubTenantPlatformFeeBasisPoints_readOnly (env : Env) (tenantId : Int) :
    (resolveHubTenantPlatformFeeBasisPoints env tenantId).ReadOnly :=
  .ite (.pure _) (.bind (.find _) fun _ => .pure _)

theorem resolveHubProviderTenantId_readOnly (providerId : Int) : (resolveHubProviderTenantId providerId).ReadOnly :=
  .ite (.pure _) (.bind (.find _) fun _ => .pure _)

end LLMHub
