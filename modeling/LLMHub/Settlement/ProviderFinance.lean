import LLMHub.Settlement.Earning
import LLMHub.Settlement.Payout

namespace LLMHub

open Store Action Go

/-- `CASE WHEN provider_id = ? THEN provider_income_quota ELSE 0 END +
CASE WHEN referral_provider_id = ? THEN referral_income_quota ELSE 0 END`. -/
def HubProviderEarning.incomeOf (providerId : Int) (e : HubProviderEarning) : Int :=
  (if e.providerId = providerId then e.providerIncomeQuota else 0) +
    if e.referralProviderId = providerId then e.referralIncomeQuota else 0

/-- `provider_id = ? OR referral_provider_id = ?`. -/
def HubProviderEarning.concerns (providerId : Int) (e : HubProviderEarning) : Bool :=
  e.providerId == providerId || e.referralProviderId == providerId

def earnedQuota (providerId : Int) : Command Int :=
  sumWhere (fun e : HubProviderEarning => e.status == .settled && e.concerns providerId)
    (HubProviderEarning.incomeOf providerId)

/-- The funds check of provider transfers and withdrawals, with the error of
the caller. -/
def checkProviderFunds (providerId amountQuota : Int) (insufficient : ModelError) : Command Unit := do
  let earned ← earnedQuota providerId
  let unavailable ← unavailableQuota .provider providerId
  failIf (amountQuota > earned - unavailable) insufficient

/-- `Where("id = ?")` on the soft-deletable user table. -/
def userIs (id : Int) (u : User) : Bool := u.id == id && !u.deleted

/-- `quota = quota + ?`. -/
def User.credit (amount : Int) : Table.Assignment User where
  set u := { u with quota := u.quota + amount }

def createHubProviderManualAdjustment (env : Env) (providerId amountQuota operatorUserId : Int)
    (remark uuid : String) : Command HubProviderEarning := do
  failIf (providerId ≤ 0 ∨ amountQuota = 0 ∨ operatorUserId ≤ 0 ∨ trimSpace remark = "")
    (.text "invalid hub provider earning adjustment")
  let provider ← findOr (fun p : HubProvider => p.id == providerId) .recordNotFound
  let earning : HubProviderEarning :=
    { requestId := "adjustment:" ++ uuid
      entryType := .adjustment
      status := .settled
      providerId := provider.id
      ownerUserId := provider.ownerUserId
      providerIncomeQuota := amountQuota
      operatorUserId := operatorUserId
      remark := trimSpace remark
      settledAt := env.now }
  create (earning.beforeCreate env.now) .duplicatedKey

/-- The row a provider's transfer to its account balance writes. -/
def providerTransferRow (now providerId ownerUserId amountQuota : Int) (requestId : String) : HubProviderEarning :=
  { requestId := requestId
    entryType := .balanceTransfer
    status := .settled
    providerId := providerId
    ownerUserId := ownerUserId
    billingSource := "provider_earnings"
    providerIncomeQuota := -amountQuota
    operatorUserId := ownerUserId
    remark := "Transferred provider earnings to account balance"
    settledAt := now }

def createHubProviderBalanceTransfer (env : Env) (providerId ownerUserId amountQuota : Int)
    (idempotencyKey : String) : Command HubProviderEarning := do
  let key := trimSpace idempotencyKey
  failIf (providerId ≤ 0 ∨ ownerUserId ≤ 0 ∨ amountQuota ≤ 0 ∨ key = "" ∨ key.utf8ByteSize > 48)
    (.text "invalid hub provider balance transfer")
  let requestId := "balance-transfer:" ++ toString providerId ++ ":" ++ toString ownerUserId ++ ":" ++ key
  transaction do
    let provider ← findOr (fun p : HubProvider => p.id == providerId && p.ownerUserId == ownerUserId) .recordNotFound
    let existing ← find (requestIdIs requestId)
    match existing with
    | some existing => do
      failIf (existing.providerId ≠ provider.id ∨ existing.ownerUserId ≠ ownerUserId ∨
        existing.entryType ≠ .balanceTransfer ∨ existing.status ≠ .settled ∨
        existing.providerIncomeQuota ≠ -amountQuota) .hubProviderEarningReferenceConflict
      pure existing
    | none => do
      checkProviderFunds provider.id amountQuota .hubProviderBalanceTransferInsufficient
      let transfer ← create
        ((providerTransferRow env.now provider.id ownerUserId amountQuota requestId).beforeCreate env.now)
        .duplicatedKey
      let affected ← updateWhere (userIs ownerUserId) (User.credit amountQuota)
      failIf (affected ≠ 1) (.text "hub provider owner user not found")
      pure transfer

def createHubProviderWithdrawal (env : Env) (providerId ownerUserId amountQuota payoutAccountId : Int) :
    Command (HubProviderWithdrawal × Option HubPayoutAccountSnapshot) := do
  failIf (providerId ≤ 0 ∨ ownerUserId ≤ 0 ∨ amountQuota ≤ 0 ∨ payoutAccountId ≤ 0)
    (.text "invalid hub provider withdrawal")
  let created ← transaction do
    let provider ← findOr (fun p : HubProvider => p.id == providerId && p.ownerUserId == ownerUserId) .recordNotFound
    failIf (amountQuota < env.setting.minimumWithdrawal) .hubProviderWithdrawalBelowMinimum
    let openCount ← openWithdrawals .provider provider.id
    failIf (openCount > 0) .hubProviderWithdrawalPending
    checkProviderFunds provider.id amountQuota .hubProviderWithdrawalInsufficient
    let account ← getHubPayoutAccountTx .provider env provider.id payoutAccountId
    let snapshot ← ofExcept (snapshotHubPayoutAccount env account.2)
    let withdrawal : HubProviderWithdrawal :=
      { holderId := provider.id
        ownerUserId := provider.ownerUserId
        amountQuota := amountQuota
        status := .pending
        payoutAccountId := account.1.id
        payoutMethod := account.1.method
        payoutAccountSnapshot := snapshot
        applicantNote := account.2.maskedSummary }
    create (withdrawal.beforeCreate env.now) .duplicatedKey
  ofExcept (hydrateHubWithdrawal env created)

/-- The payment recorded with a status change: required and normalised for
`paid`, empty otherwise. -/
def providerPayment (status : HubWithdrawalStatus) (payment : Option HubWithdrawalPayment) :
    Except ModelError HubWithdrawalPayment :=
  if status = .paid then
    match payment with
    | none => .error .hubProviderWithdrawalPaymentInvalid
    | some payment => normalizeHubProviderWithdrawalPayment payment
  else .ok {}

def updateHubProviderWithdrawalStatus (env : Env) (id : Int) (status : HubWithdrawalStatus) (adminUserId : Int)
    (adminRemark : String) (payment : Option HubWithdrawalPayment) :
    Command (HubProviderWithdrawal × Option HubPayoutAccountSnapshot) := do
  failIf (id ≤ 0 ∨ adminUserId ≤ 0 ∨ isValidHubWithdrawalStatus status = false ∨ status = .pending)
    (.text "invalid hub provider withdrawal update")
  let payment ← ofExcept (providerPayment status payment)
  let updated ← mapError (.wrapped "update hub provider withdrawal") <| transaction do
    let current ← findOr (fun w : HubProviderWithdrawal => w.id == id) .recordNotFound
    if current.status = status then pure current
    else do
      failIf ((status = .paid ∨ status = .rejected) ∧ trimSpace adminRemark = "") .hubProviderWithdrawalRemarkRequired
      failIf (validHubWithdrawalTransition current.status status = false) .hubProviderWithdrawalTransition
      let _ ← updateWhere (fun w : HubProviderWithdrawal => w.id == id)
        (current.review status adminUserId (trimSpace adminRemark) payment env.now)
      findOr (fun w : HubProviderWithdrawal => w.id == id) .recordNotFound
  ofExcept (hydrateHubWithdrawal env updated)

structure HubProviderSettlementSummary where
  providerId : Int
  grossQuota : Int := 0
  platformFeeQuota : Int := 0
  resellerGrossQuota : Int := 0
  resellerNetIncomeQuota : Int := 0
  providerServiceFeeBasisPoints : Int := 0
  settledIncomeQuota : Int := 0
  pendingIncomeQuota : Int := 0
  reservedWithdrawalQuota : Int := 0
  paidWithdrawalQuota : Int := 0
  transferredBalanceQuota : Int := 0
  withdrawableQuota : Int := 0
  platformFeeBasisPoints : Int := 0
  minimumWithdrawalQuota : Int
  referralIncomeQuota : Int := 0

/-- The conditional sums of the summary query, over the rows that concern the
provider. -/
def providerEarningSums (providerId : Int) (summary : HubProviderSettlementSummary) (t : Table HubProviderEarning) :
    HubProviderSettlementSummary :=
  let served (v : HubProviderEarning → Int) (e : HubProviderEarning) : Int :=
    if e.providerId = providerId ∧ e.status = .settled then v e else 0
  let income (status : HubProviderEarningStatus) (e : HubProviderEarning) : Int :=
    if e.status = status ∧ e.entryType ≠ .balanceTransfer then e.incomeOf providerId else 0
  let total (v : HubProviderEarning → Int) : Int := t.sum (HubProviderEarning.concerns providerId) v
  { summary with
    grossQuota := total (served HubProviderEarning.grossQuota)
    platformFeeQuota := total (served HubProviderEarning.platformFeeQuota)
    resellerGrossQuota := total (served HubProviderEarning.resellerGrossQuota)
    resellerNetIncomeQuota := total (served HubProviderEarning.resellerNetIncomeQuota)
    settledIncomeQuota := total (income .settled)
    pendingIncomeQuota := total (income .pending)
    transferredBalanceQuota := total fun e =>
      if e.providerId = providerId ∧ e.status = .settled ∧ e.entryType = .balanceTransfer then
        -e.providerIncomeQuota
      else 0
    referralIncomeQuota := total fun e =>
      if e.referralProviderId = providerId ∧ e.status = .settled then e.referralIncomeQuota else 0 }

def getHubProviderSettlementSummary (env : Env) (providerId : Int) : Command HubProviderSettlementSummary := do
  failIf (providerId ≤ 0) (.text "invalid hub provider")
  let platformFee ← resolveHubProviderPlatformFeeBasisPoints env providerId
  let serviceFee ← resolveHubProviderServiceFeeBasisPoints env providerId
  let summary : HubProviderSettlementSummary :=
    { providerId := providerId
      minimumWithdrawalQuota := env.setting.minimumWithdrawal
      platformFeeBasisPoints := platformFee
      providerServiceFeeBasisPoints := serviceFee }
  let summary ← query fun db => providerEarningSums providerId summary db.hubProviderEarnings
  let (reserved, paid) ← query fun db =>
    (db.hubProviderWithdrawals.sum (·.holderId == providerId) fun w => if w.isOpen then w.amountQuota else 0,
      db.hubProviderWithdrawals.sum (·.holderId == providerId) fun w => if w.status = .paid then w.amountQuota else 0)
  let withdrawable := summary.settledIncomeQuota - reserved - paid - summary.transferredBalanceQuota
  pure { summary with
    reservedWithdrawalQuota := reserved
    paidWithdrawalQuota := paid
    withdrawableQuota := if withdrawable < 0 then 0 else withdrawable }

end LLMHub
