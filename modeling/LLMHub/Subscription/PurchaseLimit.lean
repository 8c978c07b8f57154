import LLMHub.Subscription.Purchase
import LLMHub.Subscription.GroupRestored

namespace LLMHub

open Store Program Gives

/-- The plan is on sale with its limit, which the user has not exceeded. -/
structure WithinLimit (plans : Table SubscriptionPlan) (userId planId limit : Int) (db : DB) : Prop where
  plans : db.subscriptionPlans = plans
  bought : (db.userSubscriptions.count (Statements.bought userId planId) : Int) ≤ limit

namespace Statements
variable {plans : Table SubscriptionPlan} {env : PurchaseEnv plans} {userId planId limit : Int} {view after : DB}

theorem getSubscriptionPlanByIdTx_gives {id : Int} {plan : SubscriptionPlan} (stored : view.subscriptionPlans = plans)
    (run : (getSubscriptionPlanByIdTx env.planCache id).Gives view plan after) : plans.first (planIs id) = some plan ∧ after = view := by
  obtain ⟨_, -, run⟩ := run.read fun _ _ => failIf
  cases hit : env.planCache id with
  | some cached =>
    rw [hit] at run
    obtain ⟨rfl, same⟩ := run.pure
    exact ⟨env.cached id plan hit, same⟩
  | none =>
    rw [hit] at run
    obtain ⟨found, same⟩ := run.findOr
    exact ⟨stored ▸ found, same⟩

theorem getUserGroupByIdTx_gives {group : String} (run : (getUserGroupByIdTx userId).Gives view group after) :
    True ∧ after = view := by
  obtain ⟨_, -, run⟩ := run.read fun _ _ => failIf
  obtain ⟨_, -, run⟩ := run.read fun _ _ => lockAll
  exact ⟨trivial, run.pure.2⟩

/-- A purchase writes nothing but the user's group before it inserts the row. -/
theorem upgradeUserGroupTx_gives {upgradeGroup prevGroup : String}
    (run : (upgradeUserGroupTx userId upgradeGroup).Gives view prevGroup after) : ∃ users, after = { view with users } := by
  unfold upgradeUserGroupTx at run
  split at run
  · exact ⟨view.users, run.pure.2⟩
  · obtain ⟨currentGroup, -, run⟩ := run.read fun _ _ => getUserGroupByIdTx_gives
    split at run
    · obtain ⟨_, mid, written, run⟩ := run.bind
      exact ⟨_, run.pure.2.trans written.updateWhere⟩
    · exact ⟨view.users, run.pure.2⟩

theorem checkPurchaseLimitTx_gives {plan : SubscriptionPlan} {u : Unit}
    (run : (checkPurchaseLimitTx userId plan).Gives view u after) :
    (plan.maxPurchasePerUser > 0 →
      (view.userSubscriptions.count (bought userId plan.id) : Int) < plan.maxPurchasePerUser) ∧ after = view := by
  rcases onlyIf run with ⟨limited, run⟩ | ⟨unlimited, same⟩
  · obtain ⟨count, rfl, run⟩ := run.read fun _ _ => countWhere
    obtain ⟨below, same⟩ := run.failIf
    exact ⟨fun _ => not_le.mp below, same⟩
  · exact ⟨fun limited => absurd limited unlimited, same⟩

/-- A sale that has seen the count keeps the limit. -/
theorem createUserSubscriptionFromPlanTx_within {buyer : Int} {plan : SubscriptionPlan} {source : String}
    {sub : UserSubscription} (limited : plan.id = planId → plan.maxPurchasePerUser = limit) (positive : 0 < limit)
    (within : WithinLimit plans userId planId limit view)
    (run : (createUserSubscriptionFromPlanTx env buyer plan source).Gives view sub after) :
    WithinLimit plans userId planId limit after := by
  obtain ⟨_, -, run⟩ := run.read fun _ _ => failIf
  obtain ⟨_, -, run⟩ := run.read fun _ _ => failIf
  obtain ⟨_, below, run⟩ := run.read fun _ _ => checkPurchaseLimitTx_gives
  obtain ⟨endUnix, -, run⟩ := run.read fun _ _ => ofExcept
  obtain ⟨prevGroup, mid, upgraded, run⟩ := run.bind
  obtain ⟨users, rfl⟩ := upgradeUserGroupTx_gives upgraded
  obtain ⟨t, inserted, rfl⟩ := run.create
  refine ⟨within.plans, ?_⟩
  have counted := Table.count_insert inserted (bought userId planId)
  have fresh := (Table.insert_cases inserted).2.1
  change ((t.count (bought userId planId) : Nat) : Int) ≤ limit
  change t.count (bought userId planId) = view.userSubscriptions.count (bought userId planId) + _ at counted
  have old := within.bought
  by_cases mine : bought userId planId sub = true
  · rw [fresh] at mine
    change (buyer == userId && plan.id == planId) = true at mine
    obtain ⟨rfl, same⟩ : buyer = userId ∧ plan.id = planId := by simpa using mine
    have room := below (by rw [limited same]; exact positive)
    rw [same, limited same] at room
    split at counted <;> omega
  · rw [if_neg mine] at counted
    omega

theorem upsertSubscriptionTopUpTx_gives {order : SubscriptionOrder} {u : Unit}
    (run : (upsertSubscriptionTopUpTx env order).Gives view u after) : ∃ topUps, after = { view with topUps } := by
  obtain ⟨existing, -, run⟩ := run.read fun _ _ => find
  cases existing with
  | none =>
    obtain ⟨_, mid, stored, run⟩ := run.bind
    obtain ⟨t, -, written⟩ := stored.create
    exact ⟨t, run.pure.2.trans written⟩
  | some topup =>
    obtain ⟨_, -, run⟩ := run.read fun _ _ => failIf
    exact ⟨_, run.updateWhere⟩

/-- A sale by the plan's id. -/
theorem sale_within {buyer id : Int} {plan offered : SubscriptionPlan} {source : String} {sub : UserSubscription}
    (offer : plans.first (planIs planId) = some offered) (positive : 0 < offered.maxPurchasePerUser)
    (chosen : plans.first (planIs id) = some plan)
    (within : WithinLimit plans userId planId offered.maxPurchasePerUser view)
    (run : (createUserSubscriptionFromPlanTx env buyer plan source).Gives view sub after) :
    WithinLimit plans userId planId offered.maxPurchasePerUser after := by
  refine createUserSubscriptionFromPlanTx_within (fun same => ?_) positive within run
  have hit := Table.holds_of_first chosen
  have named : plan.id = id := beq_iff_eq.mp hit
  rw [← named, same, offer] at chosen
  rw [Option.some.inj chosen]

variable {offered : SubscriptionPlan} (offer : plans.first (planIs planId) = some offered)
  (positive : 0 < offered.maxPurchasePerUser)
include offer positive

theorem adminBindSubscription_keeps (within : WithinLimit plans userId planId offered.maxPurchasePerUser view) :
    (adminBindSubscription env userId planId).Keeps (WithinLimit plans userId planId offered.maxPurchasePerUser) view := by
  intro u after run
  obtain ⟨_, -, run⟩ := run.read fun _ _ => failIf
  obtain ⟨plan, chosen, run⟩ := run.read fun _ _ => getSubscriptionPlanByIdTx_gives within.plans
  obtain ⟨sub, mid, sold, run⟩ := run.bind
  obtain ⟨-, rfl⟩ := run.pure
  exact sale_within offer positive chosen within sold

/-- The order is locked first. -/
theorem completeSubscriptionOrder_enters {tradeNo providerPayload actualPaymentMethod : String}
    {expectedPaymentProvider : Option PaymentProvider} :
    (completeSubscriptionOrder env tradeNo providerPayload expectedPaymentProvider actualPaymentMethod).Enters
      (WithinLimit plans userId planId offered.maxPurchasePerUser) (.subscriptionOrder tradeNo) := by
  refine .failIf fun _ => .lockFirst (fun order hit => ?_) fun view order within _ u after run => ?_
  · rw [SubscriptionOrder.key, beq_iff_eq.mp hit]
  · obtain ⟨_, -, run⟩ := run.read fun _ _ => failIf
    rcases run.onlyIf with ⟨-, run⟩ | ⟨-, rfl⟩
    · obtain ⟨_, -, run⟩ := run.read fun _ _ => failIf
      obtain ⟨plan, chosen, run⟩ := run.read fun _ _ => getSubscriptionPlanByIdTx_gives within.plans
      obtain ⟨sub, mid, sold, run⟩ := run.bind
      have within := sale_within offer positive chosen within sold
      obtain ⟨_, settled, upserted, run⟩ := run.bind
      obtain ⟨topUps, rfl⟩ := upsertSubscriptionTopUpTx_gives upserted
      rw [run.updateWhere]
      exact ⟨within.plans, within.bought⟩
    · exact within

/-- The buyer is locked before the wallet is charged and the purchases are counted. -/
theorem purchaseSubscriptionWithBalance_enters {tradeNo : String} :
    (purchaseSubscriptionWithBalance env userId planId tradeNo).Enters
      (WithinLimit plans userId planId offered.maxPurchasePerUser) (.user userId) := by
  have chosen {g : SubscriptionPlan → Statements Unit}
      (rest : ∀ plan, plans.first (planIs planId) = some plan →
        Enters (WithinLimit plans userId planId offered.maxPurchasePerUser) (.user userId) (g plan)) :
      Enters (WithinLimit plans userId planId offered.maxPurchasePerUser) (.user userId)
        (getSubscriptionPlanByIdTx env.planCache planId >>= g) := by
    unfold getSubscriptionPlanByIdTx
    rw [Program.bind_assoc]
    refine .failIf fun _ => ?_
    cases hit : env.planCache planId with
    | some plan => exact rest plan (env.cached planId plan hit)
    | none => exact .require fun view plan within found => rest plan (within.plans ▸ found)
  refine .failIf fun _ => chosen fun plan chosen => .failIf fun _ => .failIf fun _ => .failIf fun _ =>
    .ofExcept fun requiredQuota _ => .lockFirst (fun user hit => ?_) fun view user within _ u after run => ?_
  · rw [User.key, beq_iff_eq.mp (Bool.and_eq_true_iff.mp hit).1]
  · obtain ⟨_, -, run⟩ := run.read fun _ _ => failIf
    obtain ⟨_, paid, payment, run⟩ := run.bind
    have within : WithinLimit plans userId planId offered.maxPurchasePerUser paid := by
      rcases payment.onlyIf with ⟨-, payment⟩ | ⟨-, rfl⟩
      · rw [payment.updateWhere]
        exact ⟨within.plans, within.bought⟩
      · exact within
    obtain ⟨sub, mid, sold, run⟩ := run.bind
    have within := sale_within offer positive chosen within sold
    obtain ⟨order, _, stored, run⟩ := run.bind
    obtain ⟨t, -, rfl⟩ := stored.create
    obtain ⟨-, rfl⟩ := run.pure
    exact ⟨within.plans, within.bought⟩

end Statements
namespace PurchaseCall
variable {plans : Table SubscriptionPlan}

/-- The row a call locks before it counts the purchases. An administrator's call
locks none. -/
def firstLock (userId : Int) : PurchaseCall plans → Option RowKey
  | complete _ tradeNo _ _ _ => some (.subscriptionOrder tradeNo)
  | bind _ => none
  | balance _ _ => some (.user userId)

/-- Two calls are in progress together only if both pay from the wallet, or both
complete the same order. -/
def Serialised (userId : Int) (s : Interleaved DB RowKey ModelError Unit (PurchaseCall plans)) :
    Schedule (PurchaseCall plans) → Prop
  | .start call => ∀ other ∈ s.active, ∃ key, call.firstLock userId = some key ∧ other.request.firstLock userId = some key
  | _ => True

end PurchaseCall

/-- In every state of a run whose overlapping calls lock the same row first, the
user's subscriptions to the plan are within its limit. -/
theorem purchase_limit_kept (db : DB) (userId planId : Int) (plan : SubscriptionPlan)
    (offer : db.subscriptionPlans.first (planIs planId) = some plan) (positive : 0 < plan.maxPurchasePerUser)
    (below : (db.userSubscriptions.count (Statements.bought userId planId) : Int) ≤ plan.maxPurchasePerUser)
    (choices : List (Schedule (PurchaseCall db.subscriptionPlans)))
    (permits : (interleaving (PurchaseCall.statements userId planId)).Permits (PurchaseCall.Serialised userId) ⟨db, [], []⟩
      choices) :
    (((interleaving (PurchaseCall.statements userId planId)).run ⟨db, [], []⟩ choices).committed.userSubscriptions.count
      (Statements.bought userId planId) : Int) ≤ plan.maxPurchasePerUser := by
  have start : WithinLimit db.subscriptionPlans userId planId plan.maxPurchasePerUser db := ⟨rfl, below⟩
  refine (keeps_of_guarded (PurchaseCall.firstLock userId) (fun call key same => ?_) (fun call unlocked view within => ?_)
    (fun _ _ shared => shared) permits start).bought
  · cases call with
    | complete env tradeNo providerPayload expected actual =>
      cases same
      exact Statements.completeSubscriptionOrder_enters offer positive
    | bind env => cases same
    | balance env tradeNo =>
      cases same
      exact Statements.purchaseSubscriptionWithBalance_enters offer positive
  · cases call with
    | complete | balance => cases unlocked
    | bind env => exact Statements.adminBindSubscription_keeps offer positive within

def oncePlan : SubscriptionPlan where
  id := 3
  maxPurchasePerUser := 1

def onceDB : DB where
  users := .single { id := 7 }
  subscriptionPlans := .single oncePlan

def onceEnv : PurchaseEnv onceDB.subscriptionPlans where
  toSubscriptionEnv := saleEnv 1000 plainEnv.now_pos

/-- Two purchases from the wallet at the same time: the second one waits for the
user's row. -/
def walletTwice : List (Schedule (PurchaseCall onceDB.subscriptionPlans)) :=
  [.start (.balance onceEnv "a"), .start (.balance onceEnv "b")] ++ List.replicate 2 (.proceed 0) ++
    List.replicate 2 (.proceed 1) ++ List.replicate 8 (.proceed 0)

theorem wallet_twice_once :
    (((interleaving (PurchaseCall.statements 7 3)).run ⟨onceDB, [], []⟩ walletTwice).committed.userSubscriptions.count
      (Statements.bought 7 3) : Int) ≤ oncePlan.maxPurchasePerUser ∧
    ((interleaving (PurchaseCall.statements 7 3)).run ⟨onceDB, [], []⟩ walletTwice).finished.map Prod.snd =
      [.ok (), .error (.text "已达到该套餐购买上限")] := by
  refine ⟨purchase_limit_kept onceDB 7 3 oncePlan rfl (by decide) (by decide) walletTwice ?_, by decide +kernel⟩
  refine ⟨fun _ none => absurd none List.not_mem_nil, fun other member => ?_, ?_⟩
  · rw [List.mem_singleton.mp member]
    exact ⟨.user 7, rfl, rfl⟩
  · repeat' constructor

/-- Two administrators bind the plan: both count before either commits. -/
def boundTwice : List (Schedule (PurchaseCall onceDB.subscriptionPlans)) :=
  [.start (.bind onceEnv), .start (.bind onceEnv)] ++ List.replicate 3 (.proceed 0) ++ List.replicate 3 (.proceed 1) ++
    [.proceed 0, .proceed 0]

theorem bound_twice_exceeds :
    onceDB.subscriptionPlans.first (planIs 3) = some oncePlan ∧ 0 < oncePlan.maxPurchasePerUser ∧
      onceDB.userSubscriptions.count (Statements.bought 7 3) = 0 ∧
      oncePlan.maxPurchasePerUser <
        (((interleaving (PurchaseCall.statements 7 3)).run ⟨onceDB, [], []⟩ boundTwice).committed.userSubscriptions.count
          (Statements.bought 7 3) : Int) :=
  ⟨rfl, by decide, rfl, by decide +kernel⟩

end LLMHub
