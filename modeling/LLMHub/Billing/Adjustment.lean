import LLMHub.Billing.Quota

namespace LLMHub

open Store Action Go

/-- `errors.Is(err, gorm.ErrRecordNotFound)` answered with another error. -/
def orNotFound (missing : ModelError) (e : ModelError) : ModelError := if e.is .recordNotFound then missing else e

/-- The guarded charge of a wallet inside a transaction, with the errors of
the caller. Whatever keeps the user from being read counts as missing. -/
def chargeUserTx (userId quota : Int) (missing insufficient : ModelError) : Command Unit := do
  let affected ← updateWhere (userCovers userId quota) (User.debit quota)
  if affected = 0 then do
    let _ ← mapError (fun _ => missing) (findOr (userIs userId) .recordNotFound)
    fail insufficient
  else pure ()

def increaseTokenQuotaTx (env : Env) (id quota : Int) : Command Unit :=
  if id ≤ 0 ∨ quota ≤ 0 then failIf (quota ≠ 0) (.text "invalid token quota increment")
  else do
    let affected ← updateWhere (tokenIs id) (Token.giveBack env.now quota)
    failIf (affected ≠ 1) .recordNotFound

def legacyToken (env : Env) (userId tokenId quota : Int) : Command Unit := do
  let _ ← mapError (orNotFound .legacyBillingTokenNotFound) (findOr (tokenOf tokenId userId) .recordNotFound)
  mapError (orNotFound .legacyBillingTokenNotFound)
    (if quota > 0 then decreaseTokenQuotaTx env tokenId quota else increaseTokenQuotaTx env tokenId (-quota))

def legacyWallet (userId quota : Int) : Command Unit :=
  if quota > 0 then chargeUserTx userId quota .legacyBillingUserNotFound .legacyBillingUserQuotaInsufficient
  else do
    let affected ← updateWhere (userIs userId) (User.credit (-quota))
    failIf (affected = 0) .legacyBillingUserNotFound

def legacySubscription (env : Env) (userId subscriptionId quota : Int) : Command Unit := do
  failIf (subscriptionId ≤ 0) (.text "subscription id is missing")
  let _ ← findOr (fun s : UserSubscription => s.id == subscriptionId && s.userId == userId) .recordNotFound
  postConsumeUserSubscriptionDeltaTx env subscriptionId quota

/-- The funding switch of `ApplyLegacyQuotaAdjustment`; no source means the
wallet. -/
def legacyFunding (env : Env) (userId subscriptionId : Int) (fundingSource : String) (quota : Int) : Command Unit :=
  match FundingSource.ofText fundingSource with
  | .subscription => legacySubscription env userId subscriptionId quota
  | .wallet => legacyWallet userId quota
  | .other value =>
    if value = "" then legacyWallet userId quota
    else fail (.text ("unsupported legacy billing funding source: " ++ value))

def applyLegacyQuotaAdjustment (env : Env) (userId tokenId subscriptionId : Int) (fundingSource : String) (quota : Int)
    (playground : Bool) : Command Unit := do
  failIf (userId ≤ 0) .legacyBillingUserNotFound
  if quota = 0 then pure ()
  else transaction do
    onlyIf (playground = false) (legacyToken env userId tokenId quota)
    legacyFunding env userId subscriptionId fundingSource quota

def BillingTokenAdjustment.complete (now attemptCount : Int) : Table.Assignment BillingTokenAdjustment where
  set a := { a with
    status := .complete
    attemptCount := attemptCount + 1
    lastAttemptAt := now
    completedAt := now
    lastError := ""
    updatedAt := now }

/-- A positive delta is charged, any other one given back. -/
def adjustToken (env : Env) (adjustment : BillingTokenAdjustment) : Command Unit :=
  if adjustment.deltaQuota > 0 then
    mapError (orNotFound .billingTokenAdjustmentTokenNotFound)
      (decreaseTokenQuotaTx env adjustment.tokenId adjustment.deltaQuota)
  else do
    let affected ← updateWhere (tokenIs adjustment.tokenId) (Token.giveBack env.now (-adjustment.deltaQuota))
    failIf (affected = 0) .billingTokenAdjustmentTokenNotFound

def processBillingTokenAdjustmentTx (env : Env) (requestId : String) : Command BillingTokenAdjustment := do
  let adjustment ← findOr (adjustmentIs requestId) .recordNotFound
  match adjustment.status with
  | .complete => pure adjustment
  | .other value => fail (.text ("unsupported billing token adjustment status: " ++ value))
  | .pending => do
    adjustToken env adjustment
    let _ ← updateWhere (fun a : BillingTokenAdjustment => a.id == adjustment.id && a.status == .pending)
      (BillingTokenAdjustment.complete env.now adjustment.attemptCount)
    pure ((BillingTokenAdjustment.complete env.now adjustment.attemptCount).set adjustment)

def BillingTokenAdjustment.recordFailure (now : Int) (cause : ModelError) : Table.Assignment BillingTokenAdjustment where
  set a := { a with
    attemptCount := a.attemptCount + 1
    lastAttemptAt := now
    lastError := cause.error
    updatedAt := now }

/-- Its own failure is only logged. -/
def recordBillingTokenAdjustmentFailure (env : Env) (requestId : String) (cause : ModelError) : Command Unit := do
  let _ ← attempt (updateWhere
    (fun a : BillingTokenAdjustment => a.requestId == trimSpace requestId && a.status == .pending)
    (BillingTokenAdjustment.recordFailure env.now cause))
  pure ()

def processBillingTokenAdjustment (env : Env) (requestId : String) : Command BillingTokenAdjustment := do
  failIf (trimSpace requestId = "") (.text "billing token adjustment requestId is empty")
  let result ← attempt (transaction (processBillingTokenAdjustmentTx env (trimSpace requestId)))
  match result with
  | .ok completed => pure completed
  | .error cause => do
    recordBillingTokenAdjustmentFailure env (trimSpace requestId) cause
    fail cause

end LLMHub
