import LLMHub.Subscription.GroupRun
import LLMHub.Settlement.ProviderLedger

namespace LLMHub

open Store Action Go

inductive SubscriptionEvent
  | purchase (env : SubscriptionEnv) (userId : Int) (plan : SubscriptionPlan) (source : String)
  | expireDue (env : Env) (limit : Int) (draws : List Nat)
  | invalidate (env : Env) (userSubscriptionId : Int)

def SubscriptionEvent.now : SubscriptionEvent → Int
  | .purchase env _ _ _ => env.now
  | .expireDue env _ _ => env.now
  | .invalidate env _ => env.now

structure SubscriptionSystem where
  db : DB
  clock : Int

/-- Purchases, runs of the expiry and invalidations, for all users. -/
def subscriptions : Machine SubscriptionSystem SubscriptionEvent where
  step s event :=
    let db := match event with
      | .purchase env userId plan source =>
        (transaction (createUserSubscriptionFromPlanTx env userId plan source) ⟨s.db, []⟩).2.db
      | .expireDue env limit draws => (expireDueSubscriptions env limit draws ⟨s.db, []⟩).2.db
      | .invalidate env userSubscriptionId => (adminInvalidateUserSubscription env userSubscriptionId ⟨s.db, []⟩).2.db
    ⟨db, event.now⟩

/-- Time does not run backwards, and the user buys a plan only when the
subscription of the one before has been processed. -/
def OneByOne (userId : Int) (s : SubscriptionSystem) (event : SubscriptionEvent) : Prop :=
  s.clock ≤ event.now ∧
    match event with
    | .purchase env buyer plan _ => buyer = userId → SinglePurchase env plan userId s.db
    | _ => True

section Run
variable {userId : Int} {home : String} {s : SubscriptionSystem} {event : SubscriptionEvent}

theorem GroupInvariant.step (inv : GroupInvariant userId home s.clock s.db) (named : home ≠ "") (blank : trimSpace home = home)
    (allowed : OneByOne userId s event) :
    GroupInvariant userId home (subscriptions.step s event).clock (subscriptions.step s event).db := by
  have moved := inv.clock allowed.1
  cases event with
  | purchase env buyer plan source =>
    rcases (leaves_run _ ⟨s.db, []⟩ : (transaction (createUserSubscriptionFromPlanTx env buyer plan source)).Leaves s.db _).transaction
      with ⟨sub, bought⟩ | same
    · by_cases own : buyer = userId
      · subst own
        exact moved.purchaseOwn (allowed.2 rfl) bought
      · exact moved.purchaseOther (Ne.symm own) bought
    · have kept : (subscriptions.step s (.purchase env buyer plan source)).db = s.db := same
      rw [kept]
      exact moved
  | expireDue env limit draws =>
    refine expireDueSubscriptions_maintains (GroupInvariant userId home env.now) (fun other db _ holds => ?_)
      limit draws s.db moved
    by_cases own : userId = other
    · subst own
      exact holds.expireOwn named blank
    · exact holds.expireOther own
  | invalidate env id =>
    rcases (adminInvalidateUserSubscription_atomic env id).leaves (leaves_run _ ⟨s.db, []⟩) with same | ⟨message, done⟩
    · have kept : (subscriptions.step s (.invalidate env id)).db = s.db := same
      rw [kept]
      exact moved
    · exact moved.invalidate named blank done

/-- A paid group ends with the subscription that granted it, in every run in
which the user buys one plan after the other: whenever no subscription is
active and no due one is left to process, the user is in the group held before
the first purchase. -/
theorem group_restored_one_by_one {start : SubscriptionSystem} {userId : Int} {home : String} {events : List SubscriptionEvent}
    (fresh : ∀ sub ∈ start.db.userSubscriptions.rows, sub.userId ≠ userId)
    (before : groupIn start.db.users userId = some home) (named : home ≠ "") (blank : trimSpace home = home)
    (permitted : subscriptions.Permits (OneByOne userId) start events)
    (lapsed : ∀ sub ∈ (subscriptions.run start events).db.userSubscriptions.rows, sub.userId = userId →
      activeSubscriptionOf userId (subscriptions.run start events).clock sub = false)
    (processed : ∀ sub ∈ (subscriptions.run start events).db.userSubscriptions.rows, sub.userId = userId →
      dueSubscription (subscriptions.run start events).clock sub = false) :
    groupIn (subscriptions.run start events).db.users userId = some home := by
  have initial : GroupInvariant userId home start.clock start.db :=
    ⟨⟨fun sub member own => absurd own (fresh sub member), fun sub member _ _ own => absurd own (fresh sub member),
      fun sub member _ _ own => absurd own (fresh sub member), fun sub member own => absurd own (fresh sub member),
      fun sub member own => absurd own (fresh sub member)⟩, Or.inl before⟩
  have inv := permitted.keeps (fun s => GroupInvariant userId home s.clock s.db)
    (fun s event allowed inv => inv.step named blank allowed) initial
  rcases inv.placed with atHome | ⟨sub, member, own, active, -⟩
  · exact atHome
  · have positive := inv.subs.positive sub member own active
    have past := lapsed sub member own
    have done := processed sub member own
    simp only [activeSubscriptionOf, dueSubscription, own, active, beq_self_eq_true, Bool.true_and,
      decide_eq_false_iff_not] at past done
    omega

end Run

def saleEnv (now : Int) (now_pos : 0 < now) : SubscriptionEnv where
  toEnv := { plainEnv with now, now_pos }
  calendar := ⟨(· + 1), (· + 1), (· + 1), Int.lt_succ, Int.lt_succ, Int.lt_succ⟩
  addYears start years := start + years * 31536000
  addMonths start months := start + months * 2592000

def vipPlan : SubscriptionPlan := { id := 1, durationUnit := .custom, customSeconds := 100, upgradeGroup := "vip" }

def oneBuyer : SubscriptionSystem where
  db := { users := .single { id := 7 } }
  clock := 1000

def buyVip (now : Int) (now_pos : 0 < now) : SubscriptionEvent := .purchase (saleEnv now now_pos) 7 vipPlan "order"

def expireAll (now : Int) (now_pos : 0 < now) : SubscriptionEvent := .expireDue (saleEnv now now_pos).toEnv 0 []

/-- One subscription after the other: the user is back after the second. -/
def vipTwice : List SubscriptionEvent :=
  [buyVip 1000 plainEnv.now_pos, expireAll 1100 (by decide), buyVip 1200 (by decide), expireAll 1300 (by decide)]

theorem vipTwice_restored : groupIn (subscriptions.run oneBuyer vipTwice).db.users 7 = some "default" := by
  have fresh : ∀ sub ∈ oneBuyer.db.userSubscriptions.rows, sub.userId ≠ 7 := fun _ member => nomatch member
  refine group_restored_one_by_one fresh rfl (by decide) (by decide +kernel) ?_ (by decide +kernel) (by decide +kernel)
  have single (now : Int) (now_pos : 0 < now) (s : SubscriptionSystem) (idle : ∀ sub ∈ s.db.userSubscriptions.rows,
      sub.userId = 7 → sub.status ≠ .active) (passed : s.clock ≤ now) : OneByOne 7 s (buyVip now now_pos) := by
    refine ⟨passed, fun _ => ⟨by decide +kernel, by decide +kernel, idle, ?_⟩⟩
    rintro _ ⟨⟩
    have length : int64 (100 * 10 ^ 9) / 10 ^ 9 = 100 := by decide +kernel
    change now < now + int64 (100 * 10 ^ 9) / 10 ^ 9
    omega
  exact ⟨single _ _ _ (fun _ member => nomatch member) (by decide), ⟨by decide, trivial⟩,
    single _ _ _ (by decide +kernel) (by decide), ⟨by decide, trivial⟩, trivial⟩

/-- The same plan is bought again while the first is active. The second
remembers no group, and the user stays in the paid one after both have
expired. -/
theorem vipOverlap_kept :
    let final := subscriptions.run oneBuyer [buyVip 1000 (by decide), buyVip 1010 (by decide), expireAll 2000 (by decide)]
    groupIn oneBuyer.db.users 7 = some "default" ∧ oneBuyer.db.userSubscriptions.rows = [] ∧
      final.db.userSubscriptions.rows.map (fun sub => (sub.status, sub.prevUserGroup)) =
        [(.expired, "default"), (.expired, "")] ∧
      groupIn final.db.users 7 = some "vip" := by
  decide +kernel

end LLMHub
