import LLMHub.Settlement.ProviderFinance

namespace LLMHub

open Store Action Go

def lockHubTenantFinanceTx (tenantId : Int) : Command Unit := do
  failIf (tenantId ≤ 0) .tenantNotFound
  let _ ← findOr (fun t : Tenant => t.id == tenantId && t.status == .active) .tenantNotFound
  pure ()

/-- The join of an owner membership with an enabled, undeleted user row. -/
def activeTenantOwner (tenantId : Int) (db : DB) (m : TenantMember) : Bool :=
  m.tenantId == tenantId && m.role == .owner && m.status == .active &&
    db.users.rows.any fun u => u.id == m.userId && u.status == userStatusEnabled && !u.deleted

def requireActiveTenantOwnerTx (tenantId ownerUserId : Int) : Command Unit := do
  let _ ← require (fun db : DB => db.tenantMembers.first fun m => activeTenantOwner tenantId db m && m.userId == ownerUserId)
    .hubTenantFinanceOwnerRequired
  pure ()

/-- `tenant_id = ? AND status = 'settled' AND entry_type = 'usage' AND settlement_version >= 2`. -/
def tenantUsage (tenantId : Int) (status : HubProviderEarningStatus) (e : HubProviderEarning) : Bool :=
  e.tenantId == tenantId && e.status == status && e.entryType == .usage && e.settlementVersion ≥ 2

/-- `tenant_id = ? AND status = 'settled' AND entry_type = 'balance_transfer'`. -/
def tenantTransfers (tenantId : Int) (e : HubProviderEarning) : Bool :=
  e.tenantId == tenantId && e.status == .settled && e.entryType == .balanceTransfer

/-- Settled income, transferred amount and unavailable withdrawals of a tenant. -/
structure TenantIncome where
  settled : Int
  transferred : Int
  unavailable : Int

def tenantSettlementIncomeTx (tenantId : Int) : Command TenantIncome := do
  let settled ← sumWhere (tenantUsage tenantId .settled) HubProviderEarning.resellerNetIncomeQuota
  let transferred ← sumWhere (tenantTransfers tenantId) fun e => -e.resellerNetIncomeQuota
  let unavailable ← unavailableQuota .tenant tenantId
  pure ⟨settled, transferred, unavailable⟩

/-- The funds check of tenant transfers and withdrawals. -/
def checkTenantFunds (tenantId amountQuota : Int) (insufficient : ModelError) : Command Unit := do
  let income ← tenantSettlementIncomeTx tenantId
  failIf (amountQuota > income.settled - income.transferred - income.unavailable) insufficient

def autoApproveHubTenantWithdrawal (now : Int) (w : HubTenantWithdrawal) : HubTenantWithdrawal :=
  { w with status := .approved, reviewedAt := now, adminUserId := 0, adminRemark := "", updatedAt := now }

def createHubTenantWithdrawalRecord (env : Env) (tenantId ownerUserId amountQuota payoutAccountId : Int) :
    Command HubTenantWithdrawal := do
  lockHubTenantFinanceTx tenantId
  requireActiveTenantOwnerTx tenantId ownerUserId
  failIf (amountQuota < env.setting.minimumWithdrawal) .hubTenantWithdrawalBelowMinimum
  let openCount ← openWithdrawals .tenant tenantId
  failIf (openCount > 0) .hubTenantWithdrawalPending
  checkTenantFunds tenantId amountQuota .hubTenantWithdrawalInsufficient
  let account ← getHubPayoutAccountTx .tenant env tenantId payoutAccountId
  let snapshot ← ofExcept (snapshotHubPayoutAccount env account.2)
  let withdrawal : HubTenantWithdrawal :=
    { holderId := tenantId
      ownerUserId := ownerUserId
      amountQuota := amountQuota
      status := .pending
      payoutAccountId := account.1.id
      payoutMethod := account.1.method
      payoutAccountSnapshot := snapshot
      applicantNote := account.2.maskedSummary }
  create ((autoApproveHubTenantWithdrawal env.now withdrawal).beforeCreate env.now) .duplicatedKey

def createHubTenantWithdrawal (env : Env) (tenantId ownerUserId amountQuota payoutAccountId : Int) :
    Command (HubTenantWithdrawal × Option HubPayoutAccountSnapshot) := do
  failIf (tenantId ≤ 0 ∨ ownerUserId ≤ 0 ∨ amountQuota ≤ 0 ∨ payoutAccountId ≤ 0)
    (.text "invalid hub tenant withdrawal")
  let created ← transaction (createHubTenantWithdrawalRecord env tenantId ownerUserId amountQuota payoutAccountId)
  ofExcept (hydrateHubWithdrawal env created)

/-- The row a tenant's transfer to its owner's account balance writes. -/
def tenantTransferRow (now tenantId ownerUserId amountQuota : Int) (requestId : String) : HubProviderEarning :=
  { requestId := requestId
    entryType := .balanceTransfer
    status := .settled
    providerId := 0
    tenantId := tenantId
    ownerUserId := ownerUserId
    billingSource := "tenant_earnings"
    resellerNetIncomeQuota := -amountQuota
    operatorUserId := ownerUserId
    remark := "Transferred tenant earnings to account balance"
    settledAt := now }

def createHubTenantBalanceTransfer (env : Env) (tenantId ownerUserId amountQuota : Int) (idempotencyKey : String) :
    Command HubProviderEarning := do
  let key := trimSpace idempotencyKey
  failIf (tenantId ≤ 0 ∨ ownerUserId ≤ 0 ∨ amountQuota ≤ 0 ∨ key = "" ∨ key.utf8ByteSize > 48)
    (.text "invalid hub tenant balance transfer")
  let requestId := "tenant-balance-transfer:" ++ toString tenantId ++ ":" ++ toString ownerUserId ++ ":" ++ key
  transaction do
    lockHubTenantFinanceTx tenantId
    requireActiveTenantOwnerTx tenantId ownerUserId
    let existing ← find (requestIdIs requestId)
    match existing with
    | some existing => do
      failIf (existing.tenantId ≠ tenantId ∨ existing.ownerUserId ≠ ownerUserId ∨
        existing.entryType ≠ .balanceTransfer ∨ existing.status ≠ .settled ∨
        existing.resellerNetIncomeQuota ≠ -amountQuota) .hubProviderEarningReferenceConflict
      pure existing
    | none => do
      checkTenantFunds tenantId amountQuota .hubTenantBalanceTransferInsufficient
      let transfer ← create
        ((tenantTransferRow env.now tenantId ownerUserId amountQuota requestId).beforeCreate env.now) .duplicatedKey
      let affected ← updateWhere (userIs ownerUserId) (User.credit amountQuota)
      failIf (affected ≠ 1) (.text "tenant owner user not found")
      pure transfer

/-- As `providerPayment`, with every refusal reported as the tenant error. -/
def tenantPayment (status : HubWithdrawalStatus) (payment : Option HubWithdrawalPayment) :
    Except ModelError HubWithdrawalPayment :=
  if status = .paid then
    match payment with
    | none => .error .hubTenantWithdrawalPaymentInvalid
    | some payment => (normalizeHubProviderWithdrawalPayment payment).mapError fun _ => .hubTenantWithdrawalPaymentInvalid
  else .ok {}

/-- Unlike the provider's version, a repeated `paid` must repeat the payment
details, and the answer says whether the status changed. -/
def updateHubTenantWithdrawalStatus (env : Env) (id : Int) (status : HubWithdrawalStatus) (adminUserId : Int)
    (adminRemark : String) (payment : Option HubWithdrawalPayment) :
    Command ((HubTenantWithdrawal × Option HubPayoutAccountSnapshot) × Bool) := do
  failIf (id ≤ 0 ∨ adminUserId ≤ 0 ∨ isValidHubWithdrawalStatus status = false ∨ status = .pending)
    (.text "invalid hub tenant withdrawal update")
  let payment ← ofExcept (tenantPayment status payment)
  let updated ← mapError (.wrapped "update hub tenant withdrawal") <| transaction do
    let current ← findOr (fun w : HubTenantWithdrawal => w.id == id) .hubTenantWithdrawalNotFound
    if current.status = status then do
      failIf (status = .paid ∧ (current.payoutCurrency ≠ payment.currency ∨
        current.payoutAmountMinor ≠ payment.amountMinor ∨ current.exchangeRate ≠ payment.exchangeRate))
        .hubTenantWithdrawalPaymentInvalid
      pure (current, false)
    else do
      failIf ((status = .paid ∨ status = .rejected) ∧ trimSpace adminRemark = "") .hubTenantWithdrawalRemarkRequired
      failIf (validHubWithdrawalTransition current.status status = false) .hubTenantWithdrawalTransition
      let _ ← updateWhere (fun w : HubTenantWithdrawal => w.id == id)
        (current.review status adminUserId (trimSpace adminRemark) payment env.now)
      let updated ← findOr (fun w : HubTenantWithdrawal => w.id == id) .recordNotFound
      pure (updated, true)
  let hydrated ← ofExcept (hydrateHubWithdrawal env updated.1)
  pure (hydrated, updated.2)

structure HubTenantSettlementSummary where
  tenantId : Int
  grossQuota : Int := 0
  platformFeeQuota : Int := 0
  resellerGrossQuota : Int := 0
  resellerNetIncomeQuota : Int := 0
  settledIncomeQuota : Int := 0
  pendingIncomeQuota : Int := 0
  reservedWithdrawalQuota : Int := 0
  paidWithdrawalQuota : Int := 0
  transferredBalanceQuota : Int := 0
  withdrawableQuota : Int := 0
  platformFeeBasisPoints : Int := 0
  minimumWithdrawalQuota : Int

def tenantEarningSums (tenantId : Int) (summary : HubTenantSettlementSummary) (t : Table HubProviderEarning) :
    HubTenantSettlementSummary :=
  { summary with
    grossQuota := t.sum (tenantUsage tenantId .settled) HubProviderEarning.grossQuota
    platformFeeQuota := t.sum (tenantUsage tenantId .settled) HubProviderEarning.platformFeeQuota
    resellerGrossQuota := t.sum (tenantUsage tenantId .settled) HubProviderEarning.resellerGrossQuota
    resellerNetIncomeQuota := t.sum (tenantUsage tenantId .settled) HubProviderEarning.resellerNetIncomeQuota
    pendingIncomeQuota := t.sum (tenantUsage tenantId .pending) HubProviderEarning.resellerNetIncomeQuota }

def getHubTenantSettlementSummaryTx (env : Env) (tenantId : Int) : Command HubTenantSettlementSummary := do
  failIf (tenantId ≤ 0) .tenantNotFound
  let platformFee ← resolveHubTenantPlatformFeeBasisPoints env tenantId
  let summary : HubTenantSettlementSummary :=
    { tenantId := tenantId
      minimumWithdrawalQuota := env.setting.minimumWithdrawal
      platformFeeBasisPoints := platformFee }
  let summary ← query fun db => tenantEarningSums tenantId summary db.hubProviderEarnings
  let income ← tenantSettlementIncomeTx tenantId
  let paid ← sumWhere (fun w : HubTenantWithdrawal => w.holderId == tenantId && w.status == .paid)
    HubWithdrawal.amountQuota
  let reserved := income.unavailable - paid
  let withdrawable := income.settled - income.transferred - income.unavailable
  pure { summary with
    settledIncomeQuota := income.settled
    transferredBalanceQuota := income.transferred
    paidWithdrawalQuota := paid
    reservedWithdrawalQuota := if reserved < 0 then 0 else reserved
    withdrawableQuota := if withdrawable < 0 then 0 else withdrawable }

inductive HubTenantReconciliationIssue
  | activeOwnerMissing
  | multipleActiveOwners
  | invalidBalanceTransfer
  | invalidWithdrawalStatus
  | invalidWithdrawalAmount
  | missingPayoutSnapshot
  | paidWithdrawalIncomplete
  | multipleOpenWithdrawals
  | debitsExceedIncome
  deriving DecidableEq, Repr

structure HubTenantSettlementReconciliation where
  usageEntryCount : Nat
  settledUsageEntryCount : Nat
  pendingUsageEntryCount : Nat
  balanceTransferCount : Nat
  withdrawalCount : Nat
  openWithdrawalCount : Nat
  paidWithdrawalCount : Nat
  reconciled : Bool
  issues : List HubTenantReconciliationIssue

/-- `addIssue`: each issue is reported once. -/
def addIssue (condition : Bool) (issue : HubTenantReconciliationIssue)
    (issues : List HubTenantReconciliationIssue) : List HubTenantReconciliationIssue :=
  if condition ∧ issue ∉ issues then issues ++ [issue] else issues

def getHubTenantSettlementReconciliationTx (tenantId : Int) (tenantStatus : TenantStatus)
    (summary : HubTenantSettlementSummary) : Command HubTenantSettlementReconciliation := do
  failIf (tenantId ≤ 0) .tenantNotFound
  let usage (e : HubProviderEarning) : Bool := e.tenantId == tenantId && e.entryType == .usage
  let usageCount ← countWhere usage
  let settledUsageCount ← countWhere fun e => usage e && e.status == .settled && e.settlementVersion ≥ 2
  let pendingUsageCount ← countWhere fun e => usage e && e.status == .pending
  let transfers (e : HubProviderEarning) : Bool := e.tenantId == tenantId && e.entryType == .balanceTransfer
  let transferCount ← countWhere transfers
  let invalidTransferCount ← countWhere fun e =>
    transfers e && (e.status != .settled || e.resellerNetIncomeQuota ≥ 0)
  let withdrawals (w : HubTenantWithdrawal) : Bool := w.holderId == tenantId
  let withdrawalCount ← countWhere withdrawals
  let openWithdrawalCount ← openWithdrawals .tenant tenantId
  let paidWithdrawalCount ← countWhere fun w => withdrawals w && w.status == .paid
  let ownerCount ← query fun db : DB => db.tenantMembers.count (activeTenantOwner tenantId db)
  let invalidWithdrawalStatusCount ← countWhere fun w => withdrawals w && !isValidHubWithdrawalStatus w.status
  let invalidWithdrawalAmountCount ← countWhere fun w => withdrawals w && w.amountQuota ≤ 0
  let missingPayoutSnapshotCount ← countWhere fun w =>
    withdrawals w && (w.isOpen || w.status == .paid) && w.payoutAccountSnapshot == ""
  let incompletePaidCount ← countWhere fun w =>
    withdrawals w && w.status == .paid && (w.paidAt ≤ 0 || w.payoutCurrency == "" || w.payoutAmountMinor ≤ 0)
  let debits := summary.transferredBalanceQuota + summary.reservedWithdrawalQuota + summary.paidWithdrawalQuota
  let issues := []
    |> addIssue (tenantStatus == .active && ownerCount == 0) .activeOwnerMissing
    |> addIssue (ownerCount > 1) .multipleActiveOwners
    |> addIssue (invalidTransferCount > 0) .invalidBalanceTransfer
    |> addIssue (invalidWithdrawalStatusCount > 0) .invalidWithdrawalStatus
    |> addIssue (invalidWithdrawalAmountCount > 0) .invalidWithdrawalAmount
    |> addIssue (missingPayoutSnapshotCount > 0) .missingPayoutSnapshot
    |> addIssue (incompletePaidCount > 0) .paidWithdrawalIncomplete
    |> addIssue (openWithdrawalCount > 1) .multipleOpenWithdrawals
    |> addIssue (debits > summary.settledIncomeQuota) .debitsExceedIncome
  pure ⟨usageCount, settledUsageCount, pendingUsageCount, transferCount, withdrawalCount, openWithdrawalCount,
    paidWithdrawalCount, issues.isEmpty, issues⟩

end LLMHub
