import LLMHub.Billing.ProviderSettlement
import LLMHub.Billing.TaskSettlement

namespace LLMHub

open Store Action Go

/-- The environment with the server's keyed digest. -/
structure TaskEnv extends Env where
  generateHMAC : String → String

def taskBillingRefundParams (env : TaskEnv) (task : Task) : Except ModelError BillingRefundParams :=
  if task.id < 0 ∨ task.userId ≤ 0 ∨ task.quota < 0 then .error (.text "invalid task billing refund")
  else
    let requestId := if task.privateData.requestId = "" then "task-refund:" ++ env.generateHMAC task.taskID
      else task.privateData.requestId
    let tokenQuota := if task.privateData.tokenId > 0 then task.quota else 0
    if task.privateData.billingSource = "subscription" then .ok {
      requestId, userId := task.userId, tokenId := task.privateData.tokenId, taskId := task.id, tokenQuota,
      fundingSource := "subscription", subscriptionId := task.privateData.subscriptionId,
      subscriptionExtraQuota := task.quota }
    else .ok {
      requestId, userId := task.userId, tokenId := task.privateData.tokenId, taskId := task.id, tokenQuota,
      fundingSource := "wallet", fundingQuota := task.quota }

def cancelTaskProviderEarning (env : TaskEnv) (task : Task) : Command Unit :=
  if task.privateData.requestId = "" then pure ()
  else do
    let _ ← attempt (cancelHubProviderEarning env.toEnv task.privateData.requestId)
    pure ()

/-- The terminal state of the task and the refund it owes are committed
together. -/
def updateTaskFailureWithRefundIntent (env : TaskEnv) (task : Task) (fromStatus : TaskStatus) : Command Bool := do
  failIf (task.status ≠ .failure) (.text "task is not in a failed terminal state")
  if task.quota ≤ 0 then do
    let won ← task.updateWithStatus fromStatus
    onlyIf (won = true) (cancelTaskProviderEarning env task)
    pure won
  else do
    let params ← ofExcept (taskBillingRefundParams env task)
    let recorded ← task.updateWithStatusAndBillingRefund env.toEnv fromStatus params
    pure recorded.isSome

end LLMHub
