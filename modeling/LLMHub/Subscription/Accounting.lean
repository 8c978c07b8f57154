import LLMHub.Schema.Locks
import LLMHub.Subscription.ExpiryFrame
import LLMHub.Billing.Charge

namespace LLMHub

open Store Program Go

namespace Statements

def getSubscriptionPlanByIdTx (planCache : Int → Option SubscriptionPlan) (id : Int) : Statements SubscriptionPlan := do
  failIf (id ≤ 0) (.text "invalid plan id")
  match planCache id with
  | some plan => pure plan
  | none => findOr (planIs id) .recordNotFound

end Statements

end LLMHub
