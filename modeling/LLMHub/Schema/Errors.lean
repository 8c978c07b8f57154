import LLMHub.QuotaMath
import LLMHub.Store.Action

namespace LLMHub

/-- Errors of packages `model` and `service`. `database` stands for whatever
the driver reports when a statement could not be executed, `text` for an
error made in place, `wrapped` and `detailed` for a `%w` wrapping with text
before or after the cause. -/
inductive ModelError
  | database
  | recordNotFound
  | duplicatedKey
  | text (message : String)
  | wrapped (context : String) (cause : ModelError)
  | detailed (cause : ModelError) (detail : String)
  | quotaClamp (clamp : QuotaClamp)
  | hubProviderEarningReferenceConflict
  | hubProviderEarningCancelled
  | hubProviderEarningAlreadySettled
  | hubProviderEarningSettlementDeferred
  | hubProviderWithdrawalPending
  | hubProviderWithdrawalBelowMinimum
  | hubProviderWithdrawalInsufficient
  | hubProviderWithdrawalTransition
  | hubProviderWithdrawalRemarkRequired
  | hubProviderWithdrawalPaymentInvalid
  | hubProviderBalanceTransferInsufficient
  | hubProviderPayoutAccountNotFound
  | hubProviderPayoutAccountInvalid
  | hubProviderPayoutAssetInvalid
  | tenantNotFound
  | hubTenantFinanceOwnerRequired
  | hubTenantWithdrawalPending
  | hubTenantWithdrawalNotFound
  | hubTenantWithdrawalBelowMinimum
  | hubTenantWithdrawalInsufficient
  | hubTenantWithdrawalTransition
  | hubTenantWithdrawalRemarkRequired
  | hubTenantWithdrawalPaymentInvalid
  | hubTenantBalanceTransferInsufficient
  | billingRefundReferenceConflict
  | billingRefundUserNotFound
  | billingRefundTokenNotFound
  | billingTokenAdjustmentReferenceConflict
  | billingTokenAdjustmentTokenNotFound
  | billingTaskSettlementReferenceConflict
  | billingTaskSettlementTaskNotFound
  | billingTaskSettlementUserNotFound
  | billingTaskSettlementUserQuotaInsufficient
  | billingTaskSettlementTokenNotFound
  | legacyBillingUserNotFound
  | legacyBillingUserQuotaInsufficient
  | legacyBillingTokenNotFound
  | subscriptionQuotaInsufficient
  | tokenQuotaInsufficient
  | walletQuotaInsufficient
  | paymentMethodMismatch
  | topUpNotFound
  | topUpStatusInvalid
  | subscriptionOrderNotFound
  | subscriptionOrderStatusInvalid
  | userSessionInvalid
  | userSessionInactive
  | userSessionRefreshInvalid
  | userSessionRefreshRace
  | userSessionRefreshReuse
  | hubSupplyProbeLeaseLost
  deriving DecidableEq, Repr

instance : Store.DriverError ModelError := ⟨.database⟩

namespace ModelError

/-- `Error()`. The driver's own text is not fixed by the source. -/
def error : ModelError → String
  | database => "database error"
  | recordNotFound => "record not found"
  | duplicatedKey => "duplicated key not allowed"
  | text message => message
  | wrapped context cause => context ++ ": " ++ cause.error
  | detailed cause detail => cause.error ++ ": " ++ detail
  | quotaClamp clamp => clamp.error
  | hubProviderEarningReferenceConflict => "hub provider earning reference conflict"
  | hubProviderEarningCancelled => "hub provider earning is cancelled"
  | hubProviderEarningAlreadySettled => "hub provider earning is already settled"
  | hubProviderEarningSettlementDeferred => "hub provider earning settlement is deferred"
  | hubProviderWithdrawalPending => "hub provider already has a pending withdrawal"
  | hubProviderWithdrawalBelowMinimum => "hub provider withdrawal amount is below the minimum"
  | hubProviderWithdrawalInsufficient => "hub provider withdrawable balance is insufficient"
  | hubProviderWithdrawalTransition => "invalid hub provider withdrawal status transition"
  | hubProviderWithdrawalRemarkRequired => "hub provider withdrawal review remark is required"
  | hubProviderWithdrawalPaymentInvalid => "hub provider withdrawal payment details are invalid"
  | hubProviderBalanceTransferInsufficient =>
    "hub provider balance transfer amount exceeds withdrawable earnings"
  | hubProviderPayoutAccountNotFound => "hub provider payout account not found"
  | hubProviderPayoutAccountInvalid => "invalid hub provider payout account"
  | hubProviderPayoutAssetInvalid => "invalid hub provider payout asset"
  | tenantNotFound => "tenant not found"
  | hubTenantFinanceOwnerRequired => "an active tenant owner is required for this operation"
  | hubTenantWithdrawalPending => "tenant already has a pending withdrawal"
  | hubTenantWithdrawalNotFound => "tenant withdrawal not found"
  | hubTenantWithdrawalBelowMinimum => "tenant withdrawal amount is below the minimum"
  | hubTenantWithdrawalInsufficient => "tenant withdrawable balance is insufficient"
  | hubTenantWithdrawalTransition => "invalid tenant withdrawal status transition"
  | hubTenantWithdrawalRemarkRequired => "tenant withdrawal review remark is required"
  | hubTenantWithdrawalPaymentInvalid => "tenant withdrawal payment details are invalid"
  | hubTenantBalanceTransferInsufficient => "tenant balance transfer amount exceeds withdrawable earnings"
  | billingRefundReferenceConflict => "billing refund reference conflict"
  | billingRefundUserNotFound => "billing refund user not found"
  | billingRefundTokenNotFound => "billing refund token not found"
  | billingTokenAdjustmentReferenceConflict => "billing token adjustment reference conflict"
  | billingTokenAdjustmentTokenNotFound => "billing token adjustment token not found"
  | billingTaskSettlementReferenceConflict => "billing task settlement reference conflict"
  | billingTaskSettlementTaskNotFound => "billing task settlement task not found"
  | billingTaskSettlementUserNotFound => "billing task settlement user not found"
  | billingTaskSettlementUserQuotaInsufficient => "billing task settlement user quota insufficient"
  | billingTaskSettlementTokenNotFound => "billing task settlement token not found"
  | legacyBillingUserNotFound => "legacy billing user not found"
  | legacyBillingUserQuotaInsufficient => "legacy billing user quota insufficient"
  | legacyBillingTokenNotFound => "legacy billing token not found"
  | subscriptionQuotaInsufficient => "subscription quota insufficient"
  | tokenQuotaInsufficient => "token quota is insufficient"
  | walletQuotaInsufficient => "wallet quota is insufficient"
  | paymentMethodMismatch => "payment method mismatch"
  | topUpNotFound => "topup not found"
  | topUpStatusInvalid => "topup status invalid"
  | subscriptionOrderNotFound => "subscription order not found"
  | subscriptionOrderStatusInvalid => "subscription order status invalid"
  | userSessionInvalid => "user session is invalid"
  | userSessionInactive => "user session is inactive"
  | userSessionRefreshInvalid => "user session refresh token is invalid"
  | userSessionRefreshRace => "user session refresh is already in progress"
  | userSessionRefreshReuse => "user session refresh token was reused"
  | hubSupplyProbeLeaseLost => "hub supply probe lease lost"

def is : ModelError → ModelError → Bool
  | wrapped context cause, target => wrapped context cause = target || cause.is target
  | detailed cause detail, target => detailed cause detail = target || cause.is target
  | e, target => e = target

end ModelError
end LLMHub
