import LLMHub.Billing.Adjustment
import LLMHub.Billing.PreConsume

namespace LLMHub

open Store Action Go

structure BillingTaskSettlementParams where
  taskId : Int
  requestId : String
  userId : Int
  tokenId : Int
  fundingSource : String
  subscriptionId : Int
  preQuota : Int
  actualQuota : Int
  reason : String

def validateBillingTaskSettlementParams (params : BillingTaskSettlementParams) : Except ModelError Unit :=
  if params.taskId ≤ 0 ∨ params.userId ≤ 0 ∨ params.preQuota < 0 ∨ params.actualQuota < 0 ∨ params.tokenId < 0 ∨
      params.subscriptionId < 0 then
    .error (.text "invalid billing task settlement")
  else match FundingSource.ofText (trimSpace params.fundingSource) with
    | .wallet =>
      if params.subscriptionId ≠ 0 then
        .error (.text "wallet billing task settlement cannot contain subscription id")
      else .ok ()
    | .subscription =>
      if params.subscriptionId ≤ 0 then
        .error (.text "subscription billing task settlement requires subscription id")
      else .ok ()
    | .other _ =>
      .error (.text ("unsupported billing task settlement funding source: " ++ params.fundingSource))

/-- The pending record of `createBillingTaskSettlementTx`. -/
def BillingTaskSettlementParams.record (params : BillingTaskSettlementParams) (now : Int) : BillingTaskSettlement :=
  { taskId := params.taskId
    requestId :=
      if trimSpace params.requestId = "" then "task-settlement:" ++ toString params.taskId
      else trimSpace params.requestId
    status := .pending
    userId := params.userId
    tokenId := params.tokenId
    fundingSource := .ofText (trimSpace params.fundingSource)
    subscriptionId := params.subscriptionId
    preQuota := params.preQuota
    actualQuota := params.actualQuota
    deltaQuota := params.actualQuota - params.preQuota
    reason := params.reason
    createdAt := now
    updatedAt := now }

def billingTaskSettlementMatches (existing expected : BillingTaskSettlement) : Bool :=
  existing.taskId = expected.taskId && existing.requestId = expected.requestId &&
    existing.userId = expected.userId && existing.tokenId = expected.tokenId &&
    existing.fundingSource = expected.fundingSource && existing.subscriptionId = expected.subscriptionId &&
    existing.preQuota = expected.preQuota && existing.actualQuota = expected.actualQuota &&
    existing.deltaQuota = expected.deltaQuota

def settlementIs (taskId : Int) (s : BillingTaskSettlement) : Bool := s.taskId == taskId

def createBillingTaskSettlementTx (env : Env) (params : BillingTaskSettlementParams) : Command BillingTaskSettlement := do
  let inserted ← insertRow (params.record env.now)
  match inserted with
  | some settlement => pure settlement
  | none => do
    let existing ← findOr (settlementIs params.taskId) .recordNotFound
    failIf (billingTaskSettlementMatches existing (params.record env.now) = false) .billingTaskSettlementReferenceConflict
    pure existing

def createBillingTaskSettlement (env : Env) (params : BillingTaskSettlementParams) : Command BillingTaskSettlement := do
  ofExcept (validateBillingTaskSettlementParams params)
  createBillingTaskSettlementTx env params

/-- `Select("*").Updates(t)`: every column is written from the copy in memory. -/
def Task.overwrite (t : Task) : Table.Assignment Task where
  set row := { t with id := row.id }

/-- `WHERE id = ? AND status = ?`. -/
def taskStatusIs (id : Int) (status : TaskStatus) (t : Task) : Bool := t.id == id && t.status == status

/-- Whether this caller moved the task out of `fromStatus`. -/
def Task.updateWithStatus (t : Task) (fromStatus : TaskStatus) : Command Bool := do
  let affected ← updateWhere (taskStatusIs t.id fromStatus) t.overwrite
  pure (affected != 0)

def Task.updateWithStatusAndBillingSettlement (t : Task) (env : Env) (fromStatus : TaskStatus)
    (params : BillingTaskSettlementParams) : Command (Option BillingTaskSettlement) := do
  failIf (t.id ≤ 0) (.text "billing task is empty")
  failIf (params.taskId ≠ t.id ∨ params.userId ≠ t.userId ∨ params.preQuota ≠ t.quota)
    .billingTaskSettlementReferenceConflict
  ofExcept (validateBillingTaskSettlementParams params)
  transaction do
    let won ← t.updateWithStatus fromStatus
    if won then do
      let created ← createBillingTaskSettlementTx env params
      pure (some created)
    else pure none

def Task.updateWithStatusAndBillingRefund (t : Task) (env : Env) (fromStatus : TaskStatus) (params : BillingRefundParams) :
    Command (Option BillingRefund) := do
  failIf (t.id ≤ 0 ∨ t.status ≠ .failure) (.text "billing refund task is invalid")
  failIf (params.taskId ≠ t.id ∨ params.userId ≠ t.userId) .billingRefundReferenceConflict
  ofExcept (validateBillingRefundParams params.normalize)
  transaction do
    let won ← t.updateWithStatus fromStatus
    if won then do
      let created ← createBillingRefundTx env params.normalize
      pure (some created)
    else pure none

def User.addUsed (delta : Int) : Table.Assignment User where
  set u := { u with usedQuota := u.usedQuota + delta }

def Channel.addUsed (delta : Int) : Table.Assignment Channel where
  set c := { c with usedQuota := c.usedQuota + delta }

def Task.setQuota (quota : Int) : Table.Assignment Task where
  set t := { t with quota := quota }

def BillingTaskSettlement.complete (now attemptCount : Int) : Table.Assignment BillingTaskSettlement where
  set s := { s with
    status := .complete
    attemptCount := attemptCount + 1
    lastAttemptAt := now
    nextAttemptAt := 0
    completedAt := now
    lastError := ""
    updatedAt := now }

def settlementWallet (settlement : BillingTaskSettlement) : Command Unit :=
  chargeUserTx settlement.userId settlement.deltaQuota .billingTaskSettlementUserNotFound
    .billingTaskSettlementUserQuotaInsufficient

/-- The funding switch of `ProcessBillingTaskSettlement`. A subscription that
cannot cover the rest may pass it on to the wallet. -/
def settlementFunding (env : Env) (settlement : BillingTaskSettlement) : Command Unit :=
  match settlement.fundingSource with
  | .wallet => settlementWallet settlement
  | .subscription => do
    let posted ← attempt (postConsumeUserSubscriptionDeltaTx env settlement.subscriptionId settlement.deltaQuota)
    match posted with
    | .ok _ => pure ()
    | .error e =>
      if settlement.deltaQuota < 0 ∨ e.is .subscriptionQuotaInsufficient = false then fail e
      else do
        let allowOverflow ← userSubscriptionAllowsWalletOverflow settlement.subscriptionId settlement.userId
        failIf (allowOverflow = false) e
        settlementWallet settlement
  | .other value => fail (.text ("unsupported billing task settlement funding source: " ++ value))

def settlementToken (env : Env) (settlement : BillingTaskSettlement) : Command Unit :=
  onlyIf (settlement.tokenId > 0) <|
    if settlement.deltaQuota > 0 then do
      let _ ← mapError (fun _ => .billingTaskSettlementTokenNotFound)
        (findOr (tokenOf settlement.tokenId settlement.userId) .recordNotFound)
      mapError (orNotFound .billingTaskSettlementTokenNotFound)
        (decreaseTokenQuotaTx env settlement.tokenId settlement.deltaQuota)
    else do
      let affected ← updateWhere (tokenOf settlement.tokenId settlement.userId)
        (Token.giveBack env.now (-settlement.deltaQuota))
      failIf (affected = 0) .billingTaskSettlementTokenNotFound

def settlementUsage (settlement : BillingTaskSettlement) (task : Task) : Command Unit := do
  let affected ← updateWhere (userIs settlement.userId) (User.addUsed settlement.deltaQuota)
  failIf (affected = 0) .billingTaskSettlementUserNotFound
  onlyIf (task.channelId > 0) do
    let _ ← updateWhere (fun c : Channel => c.id == task.channelId) (Channel.addUsed settlement.deltaQuota)
    pure ()

def settlementTask (settlement : BillingTaskSettlement) : Command Unit :=
  onlyIf (settlement.actualQuota ≠ settlement.preQuota) do
    let affected ← updateWhere
      (fun t : Task => t.id == settlement.taskId && t.userId == settlement.userId && t.quota == settlement.preQuota)
      (Task.setQuota settlement.actualQuota)
    failIf (affected = 0) .billingTaskSettlementTaskNotFound

def settlementMoves (env : Env) (settlement : BillingTaskSettlement) (task : Task) : Command Unit := do
  settlementFunding env settlement
  settlementToken env settlement
  settlementUsage settlement task

/-- The transaction of `ProcessBillingTaskSettlement`. -/
def processBillingTaskSettlementTx (env : Env) (taskId : Int) : Command BillingTaskSettlement := do
  let settlement ← findOr (settlementIs taskId) .recordNotFound
  match settlement.status with
  | .complete => pure settlement
  | .other value => fail (.text ("unsupported billing task settlement status: " ++ value))
  | .pending => do
    let task ← mapError (fun _ => .billingTaskSettlementTaskNotFound)
      (findOr (fun t : Task => t.id == settlement.taskId && t.userId == settlement.userId) .recordNotFound)
    failIf (task.quota ≠ settlement.preQuota) .billingTaskSettlementReferenceConflict
    onlyIf (settlement.deltaQuota ≠ 0) (settlementMoves env settlement task)
    settlementTask settlement
    let affected ← updateWhere (fun s : BillingTaskSettlement => s.id == settlement.id && s.status == .pending)
      (BillingTaskSettlement.complete env.now settlement.attemptCount)
    failIf (affected ≠ 1) .billingTaskSettlementReferenceConflict
    pure ((BillingTaskSettlement.complete env.now settlement.attemptCount).set settlement)

/-- Doubles a waiting time below an hour, at most `n` times. -/
def doubled : Nat → Int → Int
  | 0, seconds => seconds
  | n + 1, seconds => if seconds < 3600 then doubled n (seconds * 2) else seconds

def backoffSeconds (attemptCount : Int) : Int :=
  let seconds := doubled (attemptCount - 1).toNat 15
  if seconds > 3600 then 3600 else seconds

def BillingTaskSettlement.recordFailure (now backoff : Int) (cause : ModelError) :
    Table.Assignment BillingTaskSettlement where
  set s := { s with
    attemptCount := s.attemptCount + 1
    lastAttemptAt := now
    nextAttemptAt := now + backoff
    lastError := cause.error
    updatedAt := now }

/-- Its own failures are only logged. -/
def recordBillingTaskSettlementFailure (env : Env) (taskId : Int) (cause : ModelError) : Command Unit := do
  let found ← attempt (findOr (settlementIs taskId) .recordNotFound)
  match found with
  | .error _ => pure ()
  | .ok settlement =>
    if settlement.status = .complete ∧ settlement.earningReleasedAt > 0 then pure ()
    else do
      let _ ← attempt (updateWhere (fun s : BillingTaskSettlement => settlementIs taskId s &&
          (s.status == .pending || (s.status == .complete && s.earningReleasedAt == 0)))
        (BillingTaskSettlement.recordFailure env.now (backoffSeconds (settlement.attemptCount + 1)) cause))
      pure ()

def processBillingTaskSettlement (env : Env) (taskId : Int) : Command BillingTaskSettlement := do
  failIf (taskId ≤ 0) (.text "billing task settlement taskId is empty")
  let result ← attempt (transaction (processBillingTaskSettlementTx env taskId))
  match result with
  | .ok completed => pure completed
  | .error cause => do
    recordBillingTaskSettlementFailure env taskId cause
    fail cause

end LLMHub
