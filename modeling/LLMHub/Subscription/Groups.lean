import LLMHub.Billing.PreConsume
import LLMHub.Go.Int64
import LLMHub.Go.Map
import Mathlib.Data.List.Dedup

namespace LLMHub

open Store Action Go

/-- What the sale of a plan reads besides the database: the server's calendar. -/
structure SubscriptionEnv extends Env where
  calendar : Calendar
  addYears : Int → Int → Int
  addMonths : Int → Int → Int

/-- A Unix time after a duration in nanoseconds, which is kept in 64 bits. -/
def addDuration (start nanoseconds : Int) : Int := start + int64 nanoseconds / 10 ^ 9

def calcPlanEndTime (env : SubscriptionEnv) (start : Int) (plan : SubscriptionPlan) : Except ModelError Int :=
  if plan.durationValue ≤ 0 ∧ plan.durationUnit ≠ .custom then .error (.text "duration_value must be > 0")
  else match plan.durationUnit with
    | .year => .ok (env.addYears start plan.durationValue)
    | .month => .ok (env.addMonths start plan.durationValue)
    | .day => .ok (addDuration start (plan.durationValue * 24 * 3600 * 10 ^ 9))
    | .hour => .ok (addDuration start (plan.durationValue * 3600 * 10 ^ 9))
    | .custom =>
      if plan.customSeconds ≤ 0 then .error (.text "custom_seconds must be > 0")
      else .ok (addDuration start (plan.customSeconds * 10 ^ 9))
    | .other value => .error (.text ("invalid duration_unit: " ++ value))

def groupIn (t : Table User) (userId : Int) : Option String := (t.first (userIs userId)).map User.group

/-- A missing user reads as the empty group. -/
def getUserGroupByIdTx (userId : Int) : Command String := do
  failIf (userId ≤ 0) (.text "invalid userId")
  query fun db => (groupIn db.users userId).getD ""

def User.setGroup (group : String) : Table.Assignment User where
  set u := { u with group := group }

/-- Enters the group of a plan, and answers the group that was left. -/
def upgradeUserGroupTx (userId : Int) (upgradeGroup : String) : Command String :=
  if upgradeGroup = "" then pure ""
  else do
    let currentGroup ← getUserGroupByIdTx userId
    if currentGroup ≠ upgradeGroup then do
      let _ ← updateWhere (userIs userId) (User.setGroup upgradeGroup)
      pure currentGroup
    else pure ""

def newSubscription (env : SubscriptionEnv) (userId : Int) (plan : SubscriptionPlan) (source : String) (endUnix : Int)
    (prevGroup : String) : UserSubscription where
  id := 0
  userId := userId
  planId := plan.id
  amountTotal := plan.totalAmount
  startTime := env.now
  endTime := endUnix
  status := .active
  source := source
  lastResetTime := if calcNextResetTime env.calendar env.now plan endUnix > 0 then env.now else 0
  nextResetTime := calcNextResetTime env.calendar env.now plan endUnix
  upgradeGroup := trimSpace plan.upgradeGroup
  prevUserGroup := prevGroup
  downgradeGroup := trimSpace plan.downgradeGroup
  allowWalletOverflow := plan.allowWalletOverflow.getD true
  createdAt := env.now
  updatedAt := env.now

def createUserSubscriptionFromPlanTx (env : SubscriptionEnv) (userId : Int) (plan : SubscriptionPlan) (source : String) :
    Command UserSubscription := do
  failIf (plan.id = 0) (.text "invalid plan")
  failIf (userId ≤ 0) (.text "invalid user id")
  onlyIf (plan.maxPurchasePerUser > 0) do
    let count ← countWhere fun s : UserSubscription => s.userId == userId && s.planId == plan.id
    failIf ((count : Int) ≥ plan.maxPurchasePerUser) (.text "已达到该套餐购买上限")
  let endUnix ← ofExcept (calcPlanEndTime env env.now plan)
  let prevGroup ← upgradeUserGroupTx userId (trimSpace plan.upgradeGroup)
  create (newSubscription env userId plan source endUnix prevGroup) .duplicatedKey

/-- The group a user goes to when a subscription ends: the explicit one of the
plan, or the one left at the purchase if the user is still in the one it
granted. Nothing when that changes nothing. -/
def UserSubscription.revertTarget (sub : UserSubscription) (currentGroup : String) : Option String :=
  let downgradeGroup := trimSpace sub.downgradeGroup
  let upgradeGroup := trimSpace sub.upgradeGroup
  let change (target : String) : Option String := if target = "" ∨ target = currentGroup then none else some target
  if downgradeGroup = "" then
    if upgradeGroup = "" ∨ currentGroup ≠ upgradeGroup then none else change (trimSpace sub.prevUserGroup)
  else change downgradeGroup

/-- `status = 'active' AND end_time > now AND upgrade_group <> ''`. -/
def upgradedSubscriptionOf (userId now : Int) (s : UserSubscription) : Bool :=
  activeSubscriptionOf userId now s && s.upgradeGroup != ""

/-- A query whose failure counts as an empty answer. -/
def rowsOrNone {α : Type} (result : Except ModelError (List α)) : List α :=
  match result with
  | .ok rows => rows
  | .error _ => []

/-- The group the user was put into, empty for none. -/
def downgradeUserGroupForSubscriptionTx (sub : UserSubscription) (now : Int) : Command String :=
  if trimSpace sub.downgradeGroup = "" ∧ trimSpace sub.upgradeGroup = "" then pure ""
  else do
    let currentGroup ← getUserGroupByIdTx sub.userId
    let active ← attempt (findAll fun s => upgradedSubscriptionOf sub.userId now s && s.id != sub.id)
    if rowsOrNone active ≠ [] then pure ""
    else match sub.revertTarget currentGroup with
      | none => pure ""
      | some target => do
        let _ ← updateWhere (userIs sub.userId) (User.setGroup target)
        pure target

def UserSubscription.cancel (now : Int) : Table.Assignment UserSubscription where
  set s := { s with status := .cancelled, endTime := now, updatedAt := now }

/-- The message for the administrator. -/
def adminInvalidateUserSubscription (env : Env) (userSubscriptionId : Int) : Command String := do
  failIf (userSubscriptionId ≤ 0) (.text "invalid userSubscriptionId")
  let target ← transaction do
    let sub ← findOr (subscriptionIs userSubscriptionId) .recordNotFound
    let _ ← updateWhere (subscriptionIs sub.id) (UserSubscription.cancel env.now)
    downgradeUserGroupForSubscriptionTx sub env.now
  pure (if target ≠ "" then "用户分组将回退到 " ++ target else "")

/-- `status = 'active' AND end_time > 0 AND end_time <= now`. -/
def dueSubscription (now : Int) (s : UserSubscription) : Bool :=
  s.status == .active && decide (0 < s.endTime ∧ s.endTime ≤ now)

def UserSubscription.expire (now : Int) : Table.Assignment UserSubscription where
  set s := { s with status := .expired, updatedAt := now }

/-- `ORDER BY end_time DESC, id DESC LIMIT 1`. -/
def latestEnding (subs : List UserSubscription) : Option UserSubscription :=
  (subs.insertionSort fun s t => endsBefore t s).head?

/-- `status = 'expired' AND (downgrade_group <> '' OR upgrade_group <> '')`. -/
def expiredTransitionOf (userId : Int) (s : UserSubscription) : Bool :=
  s.userId == userId && s.status == .expired && (s.downgradeGroup != "" || s.upgradeGroup != "")

/-- The transaction of `ExpireDueSubscriptions` for one user. -/
def expireUserSubscriptionsTx (env : Env) (userId : Int) : Command Nat := do
  let affected ← updateWhere (fun s => s.userId == userId && dueSubscription env.now s) (UserSubscription.expire env.now)
  let active ← attempt (findAll (upgradedSubscriptionOf userId env.now))
  if rowsOrNone active ≠ [] then pure affected
  else do
    let expired ← attempt (findAll (expiredTransitionOf userId))
    match latestEnding (rowsOrNone expired) with
    | none => pure affected
    | some lastExpired => do
      let currentGroup ← getUserGroupByIdTx userId
      match lastExpired.revertTarget currentGroup with
      | none => pure affected
      | some target => do
        let _ ← updateWhere (userIs userId) (User.setGroup target)
        pure affected

def expireUsers (env : Env) : List Int → Command Nat
  | [] => pure 0
  | userId :: rest => do
    let affected ← transaction (expireUserSubscriptionsTx env userId)
    let more ← expireUsers env rest
    pure (affected + more)

/-- The users of one batch are visited in the order of a map. -/
def expireDueSubscriptions (env : Env) (limit : Int) (draws : List Nat) : Command Nat := do
  let due ← findAll (dueSubscription env.now)
  let batch := (due.insertionSort endsBefore).take (if limit ≤ 0 then 200 else limit.toNat)
  expireUsers env (iterate draws ((batch.map UserSubscription.userId).filter (0 < ·)).dedup)

end LLMHub
