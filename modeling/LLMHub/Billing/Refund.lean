import LLMHub.Billing.Subscription
import LLMHub.Settlement.ProviderFinance

namespace LLMHub

open Store Action Go

structure BillingRefundParams where
  requestId : String
  userId : Int
  tokenId : Int := 0
  taskId : Int := 0
  fundingSource : String
  fundingQuota : Int := 0
  subscriptionId : Int := 0
  subscriptionExtraQuota : Int := 0
  tokenQuota : Int := 0

/-- The parameters with the two texts trimmed. -/
def BillingRefundParams.normalize (params : BillingRefundParams) : BillingRefundParams :=
  { params with requestId := trimSpace params.requestId, fundingSource := trimSpace params.fundingSource }

def validateBillingRefundParams (params : BillingRefundParams) : Except ModelError Unit :=
  if params.requestId = "" ∨ params.userId ≤ 0 then .error (.text "invalid billing refund reference")
  else if params.tokenId < 0 ∨ params.taskId < 0 ∨ params.fundingQuota < 0 ∨ params.subscriptionId < 0 ∨
      params.subscriptionExtraQuota < 0 ∨ params.tokenQuota < 0 then
    .error (.text "billing refund quota cannot be negative")
  else match FundingSource.ofText params.fundingSource with
    | .wallet =>
      if params.subscriptionId ≠ 0 ∨ params.subscriptionExtraQuota ≠ 0 then
        .error (.text "wallet billing refund cannot contain subscription fields")
      else .ok ()
    | .subscription =>
      if (params.fundingQuota > 0 ∨ params.subscriptionExtraQuota > 0) ∧ params.subscriptionId ≤ 0 then
        .error (.text "subscription billing refund requires subscription id")
      else .ok ()
    | .other value => .error (.text ("unsupported billing refund funding source: " ++ value))

/-- The pending record of `createBillingRefundTx`. -/
def BillingRefundParams.record (params : BillingRefundParams) (now : Int) : BillingRefund :=
  { requestId := params.requestId
    status := .pending
    userId := params.userId
    tokenId := params.tokenId
    taskId := params.taskId
    fundingSource := .ofText params.fundingSource
    fundingQuota := params.fundingQuota
    subscriptionId := params.subscriptionId
    subscriptionExtraQuota := params.subscriptionExtraQuota
    tokenQuota := params.tokenQuota
    createdAt := now
    updatedAt := now }

def billingRefundMatches (refund : BillingRefund) (params : BillingRefundParams) : Bool :=
  refund.requestId = params.requestId && refund.userId = params.userId && refund.tokenId = params.tokenId &&
    refund.taskId = params.taskId && refund.fundingSource.text = params.fundingSource &&
    refund.fundingQuota = params.fundingQuota && refund.subscriptionId = params.subscriptionId &&
    refund.subscriptionExtraQuota = params.subscriptionExtraQuota && refund.tokenQuota = params.tokenQuota

def refundIs (requestId : String) (r : BillingRefund) : Bool := r.requestId == requestId

def createBillingRefundTx (env : Env) (params : BillingRefundParams) : Command BillingRefund := do
  let inserted ← insertRow (params.record env.now)
  match inserted with
  | some refund => pure refund
  | none => do
    let existing ← findOr (refundIs params.requestId) .recordNotFound
    failIf (billingRefundMatches existing params = false) .billingRefundReferenceConflict
    pure existing

def createBillingRefund (env : Env) (params : BillingRefundParams) : Command BillingRefund := do
  ofExcept (validateBillingRefundParams params.normalize)
  createBillingRefundTx env params.normalize

/-- `WHERE id = ? AND user_id = ?` on `Unscoped` tokens. -/
def tokenOf (id userId : Int) (t : Token) : Bool := t.id == id && t.userId == userId

/-- Gives quota back to a token; an unlimited token keeps its displayed
remaining quota. -/
def Token.giveBack (now amount : Int) : Table.Assignment Token where
  set t := { t with
    remainQuota := if t.unlimitedQuota then t.remainQuota else t.remainQuota + amount
    usedQuota := t.usedQuota - amount
    accessedTime := now }

def Task.clearQuota : Table.Assignment Task where
  set t := { t with quota := 0 }

def BillingRefund.complete (now attemptCount : Int) : Table.Assignment BillingRefund where
  set r := { r with
    status := .complete
    attemptCount := attemptCount + 1
    lastAttemptAt := now
    completedAt := now
    lastError := ""
    updatedAt := now }

/-- The funding switch of `ProcessBillingRefund`. -/
def refundFunding (env : Env) (refund : BillingRefund) : Command Unit :=
  match refund.fundingSource with
  | .wallet => onlyIf (refund.fundingQuota > 0) do
    let affected ← updateWhere (userIs refund.userId) (User.credit refund.fundingQuota)
    failIf (affected = 0) .billingRefundUserNotFound
  | .subscription => do
    onlyIf (refund.fundingQuota > 0) (refundSubscriptionPreConsumeTx env refund.requestId)
    onlyIf (refund.subscriptionExtraQuota > 0)
      (postConsumeUserSubscriptionDeltaTx env refund.subscriptionId (-refund.subscriptionExtraQuota))
  | .other value => fail (.text ("unsupported billing refund funding source: " ++ value))

def refundToken (env : Env) (refund : BillingRefund) : Command Unit :=
  onlyIf (refund.tokenQuota > 0 ∧ refund.tokenId > 0) do
    let affected ← updateWhere (tokenOf refund.tokenId refund.userId) (Token.giveBack env.now refund.tokenQuota)
    failIf (affected = 0) .billingRefundTokenNotFound

def refundTask (refund : BillingRefund) : Command Unit :=
  onlyIf (refund.taskId > 0) do
    let _ ← updateWhere (fun t : Task => t.id == refund.taskId && t.userId == refund.userId) Task.clearQuota
    pure ()

/-- The transaction of `ProcessBillingRefund`. The earning of the request is
cancelled in it, so that a settled earning fails the refund. -/
def processBillingRefundTx (env : Env) (requestId : String) : Command BillingRefund := do
  let refund ← findOr (refundIs requestId) .recordNotFound
  match refund.status with
  | .complete => pure refund
  | .other value => fail (.text ("unsupported billing refund status: " ++ value))
  | .pending => do
    cancelHubProviderEarningTx env refund.requestId
    refundFunding env refund
    refundToken env refund
    refundTask refund
    let _ ← updateWhere (fun r : BillingRefund => r.id == refund.id && r.status == .pending)
      (BillingRefund.complete env.now refund.attemptCount)
    pure ((BillingRefund.complete env.now refund.attemptCount).set refund)

def BillingRefund.recordFailure (now : Int) (cause : ModelError) : Table.Assignment BillingRefund where
  set r := { r with
    attemptCount := r.attemptCount + 1
    lastAttemptAt := now
    lastError := cause.error
    updatedAt := now }

/-- Its own failure is only logged. -/
def recordBillingRefundFailure (env : Env) (requestId : String) (cause : ModelError) : Command Unit := do
  let _ ← attempt (updateWhere (fun r : BillingRefund => r.requestId == trimSpace requestId && r.status == .pending)
    (BillingRefund.recordFailure env.now cause))
  pure ()

def processBillingRefund (env : Env) (requestId : String) : Command BillingRefund := do
  failIf (trimSpace requestId = "") (.text "billing refund requestId is empty")
  let result ← attempt (transaction (processBillingRefundTx env (trimSpace requestId)))
  match result with
  | .ok completed => pure completed
  | .error cause => do
    recordBillingRefundFailure env (trimSpace requestId) cause
    fail cause

end LLMHub
