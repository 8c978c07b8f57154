import LLMHub.Store.Serial
import LLMHub.Subscription.Accounting
import LLMHub.TopUp.Recharge

namespace LLMHub

open Store Program Go

/-- What a sale reads besides the database: the plan cache, which holds stored
plans, and the worth of a unit of money. -/
structure PurchaseEnv (plans : Table SubscriptionPlan) extends SubscriptionEnv where
  planCache : Int → Option SubscriptionPlan := fun _ => none
  quotaPerUnit : ℚ := 500000
  cached : ∀ id plan, planCache id = some plan → plans.first (planIs id) = some plan := by intro _ _ hit; cases hit

def calcSubscriptionBalanceQuota (quotaPerUnit priceAmount : ℚ) : Except ModelError Int :=
  if priceAmount ≤ 0 then .ok 0
  else if quotaPerUnit ≤ 0 then .error (.text "额度单位配置错误")
  else .ok ⌈priceAmount * quotaPerUnit⌉

def User.key (u : User) : RowKey := .user u.id

def SubscriptionOrder.key (order : SubscriptionOrder) : RowKey := .subscriptionOrder order.tradeNo

def subscriptionOrderIs (tradeNo : String) (order : SubscriptionOrder) : Bool := order.tradeNo == tradeNo

/-- The order as `CompleteSubscriptionOrder` saves it. -/
def SubscriptionOrder.complete (now : Int) (providerPayload actualPaymentMethod : String) (order : SubscriptionOrder) :
    SubscriptionOrder :=
  { order with
    status := .success
    completeTime := now
    providerPayload := if providerPayload ≠ "" then providerPayload else order.providerPayload
    paymentMethod := if actualPaymentMethod ≠ "" then actualPaymentMethod else order.paymentMethod }

/-- `Save` of an order that was read before. -/
def SubscriptionOrder.save (order : SubscriptionOrder) : Table.Assignment SubscriptionOrder where
  set o := { order with id := o.id, tradeNo := o.tradeNo }

def SubscriptionOrder.topUp (now : Int) (order : SubscriptionOrder) : TopUp where
  id := 0
  userId := order.userId
  amount := 0
  money := order.money
  tradeNo := order.tradeNo
  paymentMethod := order.paymentMethod
  paymentProvider := .other ""
  createTime := order.createTime
  completeTime := now
  status := .success

/-- `Save` of a top-up that was read before. -/
def TopUp.settle (now : Int) (order : SubscriptionOrder) (topup : TopUp) : Table.Assignment TopUp where
  set t := { topup with
    id := t.id
    tradeNo := t.tradeNo
    money := order.money
    paymentMethod := if topup.paymentMethod = "" then order.paymentMethod else topup.paymentMethod
    createTime := if topup.createTime = 0 then order.createTime else topup.createTime
    completeTime := now
    status := .success }

namespace Statements
variable {plans : Table SubscriptionPlan} (env : PurchaseEnv plans)

/-- The user's row is locked; a missing user reads as the empty group. -/
def getUserGroupByIdTx (userId : Int) : Statements String := do
  failIf (userId ≤ 0) (.text "invalid userId")
  let users ← lockAll User.key (userIs userId)
  pure ((users.head?.map User.group).getD "")

def upgradeUserGroupTx (userId : Int) (upgradeGroup : String) : Statements String :=
  if upgradeGroup = "" then pure ""
  else do
    let currentGroup ← getUserGroupByIdTx userId
    if currentGroup ≠ upgradeGroup then do
      updateWhere User.key (userIs userId) (User.setGroup upgradeGroup)
      pure currentGroup
    else pure ""

/-- The purchases the limit of a plan counts. -/
def bought (userId planId : Int) (s : UserSubscription) : Bool := s.userId == userId && s.planId == planId

def checkPurchaseLimitTx (userId : Int) (plan : SubscriptionPlan) : Statements Unit :=
  onlyIf (plan.maxPurchasePerUser > 0) do
    let count ← countWhere (bought userId plan.id)
    failIf ((count : Int) ≥ plan.maxPurchasePerUser) (.text "已达到该套餐购买上限")

def createUserSubscriptionFromPlanTx (userId : Int) (plan : SubscriptionPlan) (source : String) :
    Statements UserSubscription := do
  failIf (plan.id = 0) (.text "invalid plan")
  failIf (userId ≤ 0) (.text "invalid user id")
  checkPurchaseLimitTx userId plan
  let endUnix ← ofExcept (calcPlanEndTime env.toSubscriptionEnv env.now plan)
  let prevGroup ← upgradeUserGroupTx userId (trimSpace plan.upgradeGroup)
  create [] (newSubscription env.toSubscriptionEnv userId plan source endUnix prevGroup) .duplicatedKey

def upsertSubscriptionTopUpTx (order : SubscriptionOrder) : Statements Unit := do
  let existing ← find (topUpIs order.tradeNo)
  match existing with
  | none => do
    let _ ← create [.topUp order.tradeNo] (order.topUp env.now) .duplicatedKey
    pure ()
  | some topup => do
    failIf (topup.paymentMethod ≠ "" ∧ topup.paymentMethod ≠ order.paymentMethod) .paymentMethodMismatch
    updateWhere (fun t : TopUp => RowKey.topUp t.tradeNo) (fun t => t.id == topup.id) (topup.settle env.now order)

def completeSubscriptionOrder (tradeNo providerPayload : String) (expectedPaymentProvider : Option PaymentProvider)
    (actualPaymentMethod : String) : Statements Unit := do
  failIf (tradeNo = "") (.text "tradeNo is empty")
  let order ← lockFirst SubscriptionOrder.key (subscriptionOrderIs tradeNo) .subscriptionOrderNotFound
  failIf (∃ expected ∈ expectedPaymentProvider, order.paymentProvider ≠ expected) .paymentMethodMismatch
  onlyIf (order.status ≠ .success) do
    failIf (order.status ≠ .pending) .subscriptionOrderStatusInvalid
    let plan ← getSubscriptionPlanByIdTx env.planCache order.planId
    let _ ← createUserSubscriptionFromPlanTx env order.userId plan "order"
    upsertSubscriptionTopUpTx env order
    updateWhere SubscriptionOrder.key (fun o => o.id == order.id)
      (order.complete env.now providerPayload actualPaymentMethod).save

def adminBindSubscription (userId planId : Int) : Statements Unit := do
  failIf (userId ≤ 0 ∨ planId ≤ 0) (.text "invalid userId or planId")
  let plan ← getSubscriptionPlanByIdTx env.planCache planId
  let _ ← createUserSubscriptionFromPlanTx env userId plan "admin"
  pure ()

/-- The trade number is drawn at random. -/
def purchaseSubscriptionWithBalance (userId planId : Int) (tradeNo : String) : Statements Unit := do
  failIf (userId ≤ 0 ∨ planId ≤ 0) (.text "invalid userId or planId")
  let plan ← getSubscriptionPlanByIdTx env.planCache planId
  failIf (plan.enabled = false) (.text "套餐未启用")
  failIf (plan.priceAmount < 0) (.text "套餐价格不能为负数")
  failIf (plan.allowBalancePay = some false) (.text "该套餐不允许使用余额兑换")
  let requiredQuota ← ofExcept (calcSubscriptionBalanceQuota env.quotaPerUnit plan.priceAmount)
  let user ← lockFirst User.key (userIs userId) .recordNotFound
  failIf (requiredQuota > 0 ∧ user.quota < requiredQuota) (.text "余额不足")
  onlyIf (requiredQuota > 0) (updateWhere User.key (userIs userId) (User.debit requiredQuota))
  let _ ← createUserSubscriptionFromPlanTx env userId plan "balance"
  let _ ← create [.subscriptionOrder tradeNo]
    { id := 0, userId, planId := plan.id, money := plan.priceAmount, tradeNo, paymentMethod := "balance",
      paymentProvider := .balance, status := .success, createTime := env.now, completeTime := env.now,
      providerPayload := "charged_quota=" ++ toString requiredQuota : SubscriptionOrder } .duplicatedKey
  pure ()

end Statements

/-- A call that sells a plan to a user. -/
inductive PurchaseCall (plans : Table SubscriptionPlan)
  | complete (env : PurchaseEnv plans) (tradeNo providerPayload : String) (expectedPaymentProvider : Option PaymentProvider)
      (actualPaymentMethod : String)
  | bind (env : PurchaseEnv plans)
  | balance (env : PurchaseEnv plans) (tradeNo : String)

/-- The calls for one user and one plan. -/
def PurchaseCall.statements {plans : Table SubscriptionPlan} (userId planId : Int) : PurchaseCall plans → Statements Unit
  | complete env tradeNo providerPayload expectedPaymentProvider actualPaymentMethod =>
    Statements.completeSubscriptionOrder env tradeNo providerPayload expectedPaymentProvider actualPaymentMethod
  | bind env => Statements.adminBindSubscription env userId planId
  | balance env tradeNo => Statements.purchaseSubscriptionWithBalance env userId planId tradeNo

end LLMHub
