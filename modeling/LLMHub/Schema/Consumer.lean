import Mathlib.Data.Rat.Defs
import LLMHub.Store.Table

namespace LLMHub

open Store

/-- The columns of `users` that billing and subscriptions read or write. `deleted` is a
non-null `deleted_at`: every statement not issued `Unscoped` skips such rows. -/
structure User where
  id : Int
  status : Int := 1
  quota : Int := 0
  usedQuota : Int := 0
  email : String := ""
  stripeCustomer : String := ""
  group : String := "default"
  deleted : Bool := false
  deriving DecidableEq, Repr

def userStatusEnabled : Int := 1

instance : Record User := ⟨User.id, fun n x => { x with id := n }, fun _ => none, fun _ _ => rfl, fun _ _ => rfl⟩

structure Token where
  id : Int
  userId : Int
  key : String
  remainQuota : Int := 0
  unlimitedQuota : Bool := false
  usedQuota : Int := 0
  accessedTime : Int := 0
  deleted : Bool := false
  deriving DecidableEq, Repr

instance : Record Token := ⟨Token.id, fun n x => { x with id := n }, fun x => some (.text x.key), fun _ _ => rfl,
  fun _ _ => rfl⟩

inductive UserSubscriptionStatus
  | active
  | expired
  | cancelled
  deriving DecidableEq, Repr

structure UserSubscription where
  id : Int
  userId : Int
  planId : Int
  amountTotal : Int := 0
  amountUsed : Int := 0
  startTime : Int := 0
  endTime : Int := 0
  status : UserSubscriptionStatus := .active
  source : String := "order"
  lastResetTime : Int := 0
  nextResetTime : Int := 0
  upgradeGroup : String := ""
  prevUserGroup : String := ""
  downgradeGroup : String := ""
  allowWalletOverflow : Bool := true
  createdAt : Int := 0
  updatedAt : Int := 0
  deriving DecidableEq, Repr

instance : Record UserSubscription := ⟨UserSubscription.id, fun n x => { x with id := n }, fun _ => none,
  fun _ _ => rfl, fun _ _ => rfl⟩

/-- The unit of a plan's duration; `other` is a text no plan is sold with. -/
inductive SubscriptionDuration
  | year
  | month
  | day
  | hour
  | custom
  | other (value : String)
  deriving DecidableEq, Repr

/-- The columns of `subscription_plans` that a purchase takes over and that decide
when usage is reset. -/
structure SubscriptionPlan where
  id : Int
  durationUnit : SubscriptionDuration := .month
  durationValue : Int := 1
  customSeconds : Int := 0
  allowWalletOverflow : Option Bool := none
  maxPurchasePerUser : Int := 0
  upgradeGroup : String := ""
  downgradeGroup : String := ""
  totalAmount : Int := 0
  quotaResetPeriod : String := "never"
  quotaResetCustomSeconds : Int := 0
  enabled : Bool := true
  priceAmount : ℚ := 0
  allowBalancePay : Option Bool := none
  deriving DecidableEq, Repr

instance : Record SubscriptionPlan := ⟨SubscriptionPlan.id, fun n x => { x with id := n }, fun _ => none,
  fun _ _ => rfl, fun _ _ => rfl⟩

inductive SubscriptionPreConsumeStatus
  | consumed
  | refunded
  deriving DecidableEq, Repr

structure SubscriptionPreConsumeRecord where
  id : Int := 0
  requestId : String
  userId : Int
  userSubscriptionId : Int
  preConsumed : Int
  status : SubscriptionPreConsumeStatus
  createdAt : Int := 0
  updatedAt : Int := 0
  deriving DecidableEq, Repr

instance : Record SubscriptionPreConsumeRecord := ⟨SubscriptionPreConsumeRecord.id, fun n x => { x with id := n },
  fun x => some (.text x.requestId), fun _ _ => rfl, fun _ _ => rfl⟩

/-- Where a charge comes from. The column and the parameters are text, compared
with the two names. -/
inductive FundingSource
  | wallet
  | subscription
  | other (value : String)
  deriving DecidableEq, Repr

def FundingSource.ofText (s : String) : FundingSource :=
  if s = "wallet" then .wallet else if s = "subscription" then .subscription else .other s

def FundingSource.text : FundingSource → String
  | .wallet => "wallet"
  | .subscription => "subscription"
  | .other value => value

/-- State of a durable intent; `other` is a value no operation writes. -/
inductive IntentStatus
  | pending
  | complete
  | other (value : String)
  deriving DecidableEq, Repr

structure BillingRefund where
  id : Int := 0
  requestId : String
  status : IntentStatus
  userId : Int
  tokenId : Int := 0
  taskId : Int := 0
  fundingSource : FundingSource
  fundingQuota : Int := 0
  subscriptionId : Int := 0
  subscriptionExtraQuota : Int := 0
  tokenQuota : Int := 0
  attemptCount : Int := 0
  lastAttemptAt : Int := 0
  completedAt : Int := 0
  lastError : String := ""
  createdAt : Int := 0
  updatedAt : Int := 0
  deriving DecidableEq, Repr

instance : Record BillingRefund := ⟨BillingRefund.id, fun n x => { x with id := n },
  fun x => some (.text x.requestId), fun _ _ => rfl, fun _ _ => rfl⟩

structure BillingTokenAdjustment where
  id : Int := 0
  requestId : String
  status : IntentStatus
  tokenId : Int
  deltaQuota : Int
  attemptCount : Int := 0
  lastAttemptAt : Int := 0
  completedAt : Int := 0
  lastError : String := ""
  createdAt : Int := 0
  updatedAt : Int := 0
  deriving DecidableEq, Repr

instance : Record BillingTokenAdjustment := ⟨BillingTokenAdjustment.id, fun n x => { x with id := n },
  fun x => some (.text x.requestId), fun _ _ => rfl, fun _ _ => rfl⟩

/-- The final quota adjustment of a successful task. -/
structure BillingTaskSettlement where
  id : Int := 0
  taskId : Int
  requestId : String
  status : IntentStatus
  userId : Int
  tokenId : Int := 0
  fundingSource : FundingSource
  subscriptionId : Int := 0
  preQuota : Int := 0
  actualQuota : Int := 0
  deltaQuota : Int := 0
  reason : String := ""
  attemptCount : Int := 0
  lastAttemptAt : Int := 0
  nextAttemptAt : Int := 0
  completedAt : Int := 0
  earningReleasedAt : Int := 0
  lastError : String := ""
  createdAt : Int := 0
  updatedAt : Int := 0
  deriving DecidableEq, Repr

instance : Record BillingTaskSettlement := ⟨BillingTaskSettlement.id, fun n x => { x with id := n },
  fun x => some (.number x.taskId), fun _ _ => rfl, fun _ _ => rfl⟩

/-- Status of an asynchronous task. Some pollers store what the upstream
reports, so the column can hold any text. -/
inductive TaskStatus
  | notStart
  | submitted
  | queued
  | inProgress
  | failure
  | success
  | unknown
  | other (value : String)
  deriving DecidableEq, Repr

/-- What billing and polling keep in a task's private data. -/
structure TaskPrivateData where
  resultURL : String := ""
  billingSource : String := ""
  subscriptionId : Int := 0
  tokenId : Int := 0
  requestId : String := ""
  perCallBilling : Bool := false
  deriving DecidableEq, Repr

/-- The columns of `tasks` that billing and polling depend on. -/
structure Task where
  id : Int
  taskID : String := ""
  userId : Int
  channelId : Int := 0
  quota : Int
  status : TaskStatus
  failReason : String := ""
  submitTime : Int := 0
  startTime : Int := 0
  finishTime : Int := 0
  progress : String := ""
  privateData : TaskPrivateData := {}
  data : String := ""
  deriving DecidableEq, Repr

instance : Record Task := ⟨Task.id, fun n x => { x with id := n }, fun _ => none, fun _ _ => rfl, fun _ _ => rfl⟩

/-- The column of `channels` that settlement writes. -/
structure Channel where
  id : Int
  usedQuota : Int := 0
  deriving DecidableEq, Repr

instance : Record Channel := ⟨Channel.id, fun n x => { x with id := n }, fun _ => none, fun _ _ => rfl, fun _ _ => rfl⟩

inductive TopUpStatus
  | pending
  | success
  | failed
  | expired
  | other (value : String)
  deriving DecidableEq, Repr

/-- The gateway an order is paid through. -/
inductive PaymentProvider
  | epay
  | stripe
  | creem
  | waffo
  | waffoPancake
  | balance
  | other (value : String)
  deriving DecidableEq, Repr

/-- A row of `top_ups`. `money` is the decimal that the float64 prints as. -/
structure TopUp where
  id : Int
  userId : Int
  amount : Int
  money : ℚ := 0
  tradeNo : String
  paymentMethod : String := ""
  paymentProvider : PaymentProvider
  createTime : Int := 0
  completeTime : Int := 0
  status : TopUpStatus
  deriving DecidableEq, Repr

instance : Record TopUp := ⟨TopUp.id, fun n x => { x with id := n }, fun x => some (.text x.tradeNo), fun _ _ => rfl,
  fun _ _ => rfl⟩

/-- A row of `subscription_orders`, whose status is one of those of a top-up. -/
structure SubscriptionOrder where
  id : Int
  userId : Int
  planId : Int
  money : ℚ := 0
  tradeNo : String
  paymentMethod : String := ""
  paymentProvider : PaymentProvider
  status : TopUpStatus
  createTime : Int := 0
  completeTime : Int := 0
  providerPayload : String := ""
  deriving DecidableEq, Repr

instance : Record SubscriptionOrder := ⟨SubscriptionOrder.id, fun n x => { x with id := n },
  fun x => some (.text x.tradeNo), fun _ _ => rfl, fun _ _ => rfl⟩

end LLMHub
