import LLMHub.Billing.Quota

namespace LLMHub

open Store Action Go

/-- `common.QuotaPerUnit` and the float arithmetic around it. Floats that the
code hands to `decimal.NewFromFloat` stand for the decimals they print as. -/
structure TopUpSetting where
  quotaPerUnit : ℚ
  /-- What rounding to float64 adds to `money * QuotaPerUnit`, for the money that
  prints so. -/
  rounding : ℚ → ℚ
  /-- Whether the integer column `quota` takes the float64 up, not down. -/
  roundsUp : ℚ → Bool
  whole : ∀ n : ℤ, roundsUp n = false

def TopUpSetting.product (setting : TopUpSetting) (money : ℚ) : ℚ := money * setting.quotaPerUnit + setting.rounding money

/-- What the statement `quota + money * QuotaPerUnit` adds. -/
def TopUpSetting.stored (setting : TopUpSetting) (money : ℚ) : Int :=
  ⌊setting.product money⌋ + if setting.roundsUp (setting.product money) then 1 else 0

/-- `WHERE trade_no = ?`. -/
def topUpIs (tradeNo : String) (t : TopUp) : Bool := t.tradeNo == tradeNo

/-- Every column of a loaded order; its key is the row's own. -/
def TopUp.overwrite (topUp : TopUp) : Table.Assignment TopUp where
  set x := { topUp with id := x.id, tradeNo := x.tradeNo }

def TopUp.update (topUp : TopUp) : Command Unit := do
  let _ ← updateWhere (fun t : TopUp => t.id == topUp.id) topUp.overwrite
  pure ()

def updatePendingTopUpStatus (tradeNo : String) (expectedPaymentProvider : Option PaymentProvider)
    (targetStatus : TopUpStatus) : Command Unit := do
  failIf (tradeNo = "") (.text "未提供支付单号")
  transaction do
    let topUp ← mapError (fun _ => .topUpNotFound) (findOr (topUpIs tradeNo) .recordNotFound)
    failIf (expectedPaymentProvider.any (· ≠ topUp.paymentProvider)) .paymentMethodMismatch
    failIf (topUp.status ≠ .pending) .topUpStatusInvalid
    TopUp.update { topUp with status := targetStatus }

/-- An amount of dollars in quota, by exact decimal arithmetic. -/
def TopUpSetting.quotaOf (setting : TopUpSetting) (dollars : ℚ) : Int := truncate (dollars * setting.quotaPerUnit)

def User.creditStripe (customerId : String) (quota : Int) : Table.Assignment User where
  set u := { u with stripeCustomer := customerId, quota := u.quota + quota }

def User.creditCreem (email : Option String) (quota : Int) : Table.Assignment User where
  set u := { u with quota := u.quota + quota, email := email.getD u.email }

/-- Where the operations that complete an order differ. -/
structure TopUpCompletion where
  /-- The gateway whose orders it takes, if it looks. -/
  provider : Option PaymentProvider
  /-- Whether an order that is already complete is left alone without an error. -/
  idempotent : Bool
  statusMessage : String
  quota : TopUp → Int
  /-- Whether a quota that is not positive is refused. -/
  positive : Bool
  credit : TopUp → Command Unit

def completeTopUpTx (now : Int) (tradeNo : String) (completion : TopUpCompletion) : Command Unit := do
  let topUp ← mapError (fun _ => .text "充值订单不存在") (findOr (topUpIs tradeNo) .recordNotFound)
  failIf (completion.provider.any (· ≠ topUp.paymentProvider)) .paymentMethodMismatch
  if completion.idempotent = true ∧ topUp.status = .success then pure ()
  else do
    failIf (topUp.status ≠ .pending) (.text completion.statusMessage)
    failIf (completion.positive = true ∧ completion.quota topUp ≤ 0) (.text "无效的充值额度")
    TopUp.update { topUp with completeTime := now, status := .success }
    completion.credit topUp

/-- `UPDATE users SET … WHERE id = ?`, which does not look whether there is
such a user. -/
def creditUser (userId : Int) (credit : Table.Assignment User) : Command Unit := do
  let _ ← updateWhere (userIs userId) credit
  pure ()

def stripeCompletion (setting : TopUpSetting) (customerId : String) : TopUpCompletion where
  provider := some .stripe
  idempotent := false
  statusMessage := "充值订单状态错误"
  quota topUp := setting.stored topUp.money
  positive := false
  credit topUp := creditUser topUp.userId (User.creditStripe customerId (setting.stored topUp.money))

/-- The customer's address is kept if the user has none. -/
def creemCompletion (customerEmail : String) : TopUpCompletion where
  provider := some .creem
  idempotent := false
  statusMessage := "充值订单状态错误"
  quota topUp := topUp.amount
  positive := false
  credit topUp := do
    if customerEmail ≠ "" then do
      let user ← findOr (userIs topUp.userId) .recordNotFound
      creditUser topUp.userId (User.creditCreem (if user.email = "" then some customerEmail else none) topUp.amount)
    else creditUser topUp.userId (User.creditCreem none topUp.amount)

/-- `RechargeWaffo` and `RechargeWaffoPancake`. -/
def waffoCompletion (setting : TopUpSetting) (provider : PaymentProvider) : TopUpCompletion where
  provider := some provider
  idempotent := true
  statusMessage := "充值订单状态错误"
  quota topUp := setting.quotaOf topUp.amount
  positive := true
  credit topUp := creditUser topUp.userId (User.credit (setting.quotaOf topUp.amount))

/-- What an administrator's completion adds: a Stripe order holds dollars in
`money`, every other one in `amount`. -/
def manualQuota (setting : TopUpSetting) (topUp : TopUp) : Int :=
  if topUp.paymentProvider = .stripe then setting.quotaOf topUp.money else setting.quotaOf topUp.amount

def manualCompletion (setting : TopUpSetting) : TopUpCompletion where
  provider := none
  idempotent := true
  statusMessage := "订单状态不是待支付，无法补单"
  quota := manualQuota setting
  positive := true
  credit topUp := creditUser topUp.userId (User.credit (manualQuota setting topUp))

/-- The gateways' operations hide the cause of a failure. -/
def rechargeWith (now : Int) (referenceId : String) (completion : TopUpCompletion) : Command Unit := do
  failIf (referenceId = "") (.text "未提供支付单号")
  mapError (fun _ => .text "充值失败，请稍后重试") (transaction (completeTopUpTx now referenceId completion))

def recharge (setting : TopUpSetting) (now : Int) (referenceId customerId : String) : Command Unit :=
  rechargeWith now referenceId (stripeCompletion setting customerId)

def rechargeCreem (now : Int) (referenceId customerEmail : String) : Command Unit :=
  rechargeWith now referenceId (creemCompletion customerEmail)

def rechargeWaffo (setting : TopUpSetting) (now : Int) (tradeNo : String) : Command Unit :=
  rechargeWith now tradeNo (waffoCompletion setting .waffo)

def rechargeWaffoPancake (setting : TopUpSetting) (now : Int) (tradeNo : String) : Command Unit :=
  rechargeWith now tradeNo (waffoCompletion setting .waffoPancake)

def manualCompleteTopUp (setting : TopUpSetting) (now : Int) (tradeNo : String) : Command Unit := do
  failIf (tradeNo = "") (.text "未提供订单号")
  transaction (completeTopUpTx now tradeNo (manualCompletion setting))

end LLMHub
