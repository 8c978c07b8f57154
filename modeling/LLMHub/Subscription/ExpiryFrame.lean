import LLMHub.Subscription.GroupRun
import LLMHub.Settlement.ProviderLedger

namespace LLMHub

open Store Action Go UserSubscription

def UserSubscription.DefinesTransition (sub : UserSubscription) : Prop := sub.downgradeGroup ≠ "" ∨ sub.upgradeGroup ≠ ""

/-- The groups a user may go to when the subscription ends. -/
def UserSubscription.EndsIn (sub : UserSubscription) (group : String) : Prop :=
  group = trimSpace sub.downgradeGroup ∨ group = trimSpace sub.prevUserGroup

def UserSubscription.MovedBetween (db db' : DB) (sub : UserSubscription) : Prop :=
  sub ∈ db.userSubscriptions.rows ∧ sub.status = .active ∧
    ∃ after ∈ db'.userSubscriptions.rows, after.id = sub.id ∧ after.status = .expired

/-- Groups change only to where a subscription that has just expired sends its
user. -/
def ChangesOnlyExpired (db db' : DB) : Prop :=
  ∀ userId, groupIn db'.users userId ≠ groupIn db.users userId →
    ∃ (sub : UserSubscription) (group : String), sub.MovedBetween db db' ∧ sub.userId = userId ∧ sub.DefinesTransition ∧
      groupIn db'.users userId = some group ∧ sub.EndsIn group

def UserSubscription.Due (now : Int) (sub : UserSubscription) : Prop :=
  sub.status = .active ∧ 0 < sub.endTime ∧ sub.endTime ≤ now

instance (now : Int) (sub : UserSubscription) : Decidable (sub.Due now) := inferInstanceAs (Decidable (_ ∧ _ ∧ _))

/-- The user is in `current` and the subscription, at its end, sends them on:
to its explicit group, or from the granted group back to the one before. -/
def UserSubscription.Sends (sub : UserSubscription) (current target : String) : Prop :=
  target ≠ "" ∧ target ≠ current ∧ (target = trimSpace sub.downgradeGroup ∨
    (trimSpace sub.downgradeGroup = "" ∧ current ≠ "" ∧ current = trimSpace sub.upgradeGroup ∧
      target = trimSpace sub.prevUserGroup))

/-- Among the user's subscriptions with a transition that are due or have
expired, the last to end; no upgrade of the user is still running. -/
structure DB.Decides (db : DB) (now userId : Int) (last : UserSubscription) : Prop where
  stored : last ∈ db.userSubscriptions.rows
  own : last.userId = userId
  ended : last.status = .expired ∨ last.Due now
  transition : last.DefinesTransition
  latest : ∀ sub ∈ db.userSubscriptions.rows, sub.userId = userId → sub.status = .expired ∨ sub.Due now →
    sub.DefinesTransition → sub.endTime < last.endTime ∨ (sub.endTime = last.endTime ∧ sub.id ≤ last.id)
  unopposed : ∀ sub ∈ db.userSubscriptions.rows, sub.userId = userId → sub.upgradeGroup ≠ "" →
    sub.status = .active → sub.endTime ≤ now

/-- A subscription that expired before decides only if it sends the user to
where one that is due now does. -/
def DB.OnlyDueDecide (db : DB) (now userId : Int) : Prop :=
  ∀ last current target, db.Decides now userId last → last.status = .expired →
    groupIn db.users userId = some current → last.Sends current target →
      ∃ sub ∈ db.userSubscriptions.rows, sub.userId = userId ∧ sub.Due now ∧ sub.DefinesTransition ∧ sub.EndsIn target

/-- The users one call visits, in the order of their first due subscription. -/
def DB.dueUsers (env : Env) (limit : Int) (db : DB) : List Int :=
  let due := db.userSubscriptions.rows.filter (dueSubscription env.now)
  let batch := (due.insertionSort endsBefore).take (if limit ≤ 0 then 200 else limit.toNat)
  ((batch.map UserSubscription.userId).filter (0 < ·)).dedup

/-- The group a user's transaction moves the user to, if it does. -/
def DB.expiryTarget (env : Env) (userId : Int) (db : DB) : Option String :=
  let subs := (markExpired env userId db.userSubscriptions).rows
  if subs.filter (upgradedSubscriptionOf userId env.now) ≠ [] then none
  else (latestEnding (subs.filter (expiredTransitionOf userId))).bind fun last =>
    last.revertTarget ((groupIn db.users userId).getD "")

def DB.expireEach (env : Env) (users : List Int) (db : DB) : DB := users.foldl (fun db userId => db.expireUser env userId) db

variable {sub : UserSubscription} {current : String}

theorem dueSubscription_iff {now : Int} : dueSubscription now sub = true ↔ sub.Due now := by
  simp [dueSubscription, UserSubscription.Due]

theorem UserSubscription.Sends.endsIn {target : String} (sends : sub.Sends current target) : sub.EndsIn target :=
  sends.2.2.imp_right fun back => back.2.2.2

theorem revertTarget_iff {target : String} : sub.revertTarget current = some target ↔ sub.Sends current target := by
  unfold revertTarget UserSubscription.Sends
  simp only
  by_cases explicit : trimSpace sub.downgradeGroup = ""
  · have nowhere : target ≠ "" → target ≠ trimSpace sub.downgradeGroup := fun named => explicit ▸ named
    rw [if_pos explicit]
    split_ifs <;> grind
  · rw [if_neg explicit]
    split_ifs <;> grind

section Target
variable {env : Env} {userId : Int} {db : DB}

/-- A row as the transaction of its user finds it after the marking. -/
def UserSubscription.marked (env : Env) (userId : Int) (sub : UserSubscription) : UserSubscription :=
  Table.rewrite (fun s => s.userId == userId && dueSubscription env.now s) (expire env.now) sub

theorem marked_endsBefore {last : UserSubscription} :
    endsBefore (sub.marked env userId) (last.marked env userId) ↔ endsBefore sub last := by
  unfold marked Table.rewrite
  split <;> split <;> exact Iff.rfl

theorem marked_revertTarget (sub : UserSubscription) (current : String) :
    (sub.marked env userId).revertTarget current = sub.revertTarget current := by
  unfold marked Table.rewrite
  split <;> rfl

theorem expiredTransitionOf_marked : expiredTransitionOf userId (sub.marked env userId) = true ↔
    sub.userId = userId ∧ (sub.status = .expired ∨ sub.Due env.now) ∧ sub.DefinesTransition := by
  by_cases own : sub.userId = userId
  · by_cases due : sub.Due env.now
    · have hit : dueSubscription env.now sub = true := dueSubscription_iff.mpr due
      simp [marked, Table.rewrite, own, hit, expiredTransitionOf, expire, due, UserSubscription.DefinesTransition]
    · have miss : dueSubscription env.now sub = false := by simpa using fun hit => due (dueSubscription_iff.mp hit)
      simp [marked, Table.rewrite, own, miss, expiredTransitionOf, due, UserSubscription.DefinesTransition]
  · simp [marked, Table.rewrite, own, expiredTransitionOf]

theorem upgradedSubscriptionOf_marked :
    upgradedSubscriptionOf userId env.now (sub.marked env userId) = true ↔
      sub.userId = userId ∧ sub.status = .active ∧ env.now < sub.endTime ∧ sub.upgradeGroup ≠ "" := by
  by_cases due : sub.userId = userId ∧ sub.Due env.now
  · have hit : dueSubscription env.now sub = true := dueSubscription_iff.mpr due.2
    have late : ¬env.now < sub.endTime := by
      have := due.2.2.2
      omega
    simp [marked, Table.rewrite, due.1, hit, upgradedSubscriptionOf, activeSubscriptionOf, expire, late]
  · have miss : (sub.userId == userId && dueSubscription env.now sub) = false := by
      simpa using fun own hit => due ⟨own, dueSubscription_iff.mp hit⟩
    have kept : sub.marked env userId = sub := Table.rewrite_neg miss
    rw [kept]
    simp [upgradedSubscriptionOf, activeSubscriptionOf, and_assoc]

theorem unopposed_iff : (db.userSubscriptions.rows.map (marked env userId)).filter (upgradedSubscriptionOf userId env.now) = [] ↔
    ∀ sub ∈ db.userSubscriptions.rows, sub.userId = userId → sub.upgradeGroup ≠ "" → sub.status = .active →
      sub.endTime ≤ env.now := by
  simp only [List.filter_eq_nil_iff, List.forall_mem_map, upgradedSubscriptionOf_marked]
  refine forall₂_congr fun sub _ => ?_
  rw [← Int.not_lt]
  tauto

/-- The lookup chooses the subscription that decides. -/
theorem decides_iff {last : UserSubscription}
    (unopposed : (db.userSubscriptions.rows.map (marked env userId)).filter (upgradedSubscriptionOf userId env.now) = []) :
    db.Decides env.now userId last ↔ last ∈ db.userSubscriptions.rows ∧ latestEnding
      ((db.userSubscriptions.rows.map (marked env userId)).filter (expiredTransitionOf userId)) =
        some (last.marked env userId) := by
  have listed : ∀ {sub}, sub ∈ db.userSubscriptions.rows → sub.userId = userId →
      sub.status = .expired ∨ sub.Due env.now → sub.DefinesTransition → sub.marked env userId ∈
        (db.userSubscriptions.rows.map (marked env userId)).filter (expiredTransitionOf userId) := by
    intro sub stored own ended transition
    exact List.mem_filter.mpr ⟨List.mem_map_of_mem stored, expiredTransitionOf_marked.mpr ⟨own, ended, transition⟩⟩
  constructor
  · intro decides
    have inside := listed decides.stored decides.own decides.ended decides.transition
    refine ⟨decides.stored, ?_⟩
    cases found : latestEnding ((db.userSubscriptions.rows.map (marked env userId)).filter
        (expiredTransitionOf userId)) with
    | none => exact absurd inside (latestEnding_none found ▸ List.not_mem_nil)
    | some image =>
      obtain ⟨chosen, bound⟩ := latestEnding_spec found
      obtain ⟨member, hit⟩ := List.mem_filter.mp chosen
      obtain ⟨other, stored, rfl⟩ := List.mem_map.mp member
      obtain ⟨own, ended, transition⟩ := expiredTransitionOf_marked.mp hit
      -- Each of the two ends no later than the other, so they are one row.
      have before : endsBefore last other := marked_endsBefore.mp (bound _ inside)
      have after := decides.latest other stored own ended transition
      have same : other = last := by
        unfold endsBefore at before
        exact Table.eq_of_id stored decides.stored (by change other.id = last.id; omega)
      rw [same]
  · rintro ⟨stored, found⟩
    obtain ⟨chosen, bound⟩ := latestEnding_spec found
    obtain ⟨own, ended, transition⟩ := expiredTransitionOf_marked.mp (List.mem_filter.mp chosen).2
    refine ⟨stored, own, ended, transition, ?_, unopposed_iff.mp unopposed⟩
    exact fun sub there mine past defined => marked_endsBefore.mp (bound _ (listed there mine past defined))

/-- The group is looked up in the subscription that decides. -/
theorem expiryTarget_iff {target : String} (here : groupIn db.users userId = some current) :
    db.expiryTarget env userId = some target ↔ ∃ last, db.Decides env.now userId last ∧ last.Sends current target := by
  have rows : (markExpired env userId db.userSubscriptions).rows =
      db.userSubscriptions.rows.map (marked env userId) := rfl
  unfold DB.expiryTarget
  simp only [rows, here, Option.getD_some]
  by_cases unopposed : (db.userSubscriptions.rows.map (marked env userId)).filter
      (upgradedSubscriptionOf userId env.now) = []
  · rw [if_neg (not_not_intro unopposed), Option.bind_eq_some_iff]
    constructor
    · rintro ⟨image, found, sends⟩
      obtain ⟨last, stored, rfl⟩ := List.mem_map.mp (List.mem_filter.mp (latestEnding_spec found).1).1
      rw [marked_revertTarget] at sends
      exact ⟨last, (decides_iff unopposed).mpr ⟨stored, found⟩, revertTarget_iff.mp sends⟩
    · rintro ⟨last, decides, sends⟩
      refine ⟨_, ((decides_iff unopposed).mp decides).2, ?_⟩
      rw [marked_revertTarget]
      exact revertTarget_iff.mpr sends
  · rw [if_pos unopposed]
    simp only [reduceCtorEq, false_iff]
    rintro ⟨last, decides, -⟩
    exact unopposed (unopposed_iff.mpr decides.unopposed)

end Target

section Visits
variable {env : Env} {userId other : Int} {users : List Int} {db : DB}

theorem expireUsers_db (positive : ∀ userId ∈ users, 0 < userId) (db : DB) :
    (expireUsers env users ⟨db, []⟩).2.db = db.expireEach env users := by
  induction users generalizing db with
  | nil => rfl
  | cons userId rest ih =>
    have head : (transaction (expireUserSubscriptionsTx env userId)).Completes db _ _ :=
      (expireUserSubscriptionsTx_completes db (positive userId List.mem_cons_self)).transaction
    have tail := ih (fun other inside => positive other (List.mem_cons_of_mem _ inside)) (db.expireUser env userId)
    unfold expireUsers
    rw [bind_ok head, bind_apply]
    split <;> rename_i result <;> rw [result] at tail <;> exact tail

theorem expireDueSubscriptions_db (limit : Int) (draws : List Nat) (db : DB) :
    (expireDueSubscriptions env limit draws ⟨db, []⟩).2.db =
      db.expireEach env (iterate draws (db.dueUsers env limit)) := by
  unfold expireDueSubscriptions
  rw [bind_ok (Completes.findAll _ db)]
  refine expireUsers_db (fun userId member => ?_) db
  have inside := (iterate_perm draws _).subset member
  exact of_decide_eq_true (List.mem_filter.mp (List.mem_dedup.mp inside)).2

theorem groupIn_expireUser (db : DB) :
    groupIn (db.expireUser env userId).users userId =
      (groupIn db.users userId).map fun current => (db.expiryTarget env userId).getD current := by
  have kept : groupIn db.users userId = (groupIn db.users userId).map fun current => (none : Option String).getD current := by
    simp
  unfold DB.expireUser DB.expiryTarget
  simp only
  split
  · exact kept
  · split
    · rename_i missing
      rw [missing]
      exact kept
    · rename_i last found
      rw [found, Option.bind_some, revertGroup]
      cases last.revertTarget ((groupIn db.users userId).getD "") with
      | none => exact kept
      | some target => simp [groupIn_setGroup]

/-- What the expiry does to a user depends on the user's rows and group only. -/
structure SameFor (userId : Int) (db db' : DB) : Prop where
  rows : ∀ sub : UserSubscription, sub.userId = userId →
    (sub ∈ db'.userSubscriptions.rows ↔ sub ∈ db.userSubscriptions.rows)
  group : groupIn db'.users userId = groupIn db.users userId

theorem SameFor.trans {db' db'' : DB} (first : SameFor userId db db') (second : SameFor userId db' db'') :
    SameFor userId db db'' :=
  ⟨fun sub own => (second.rows sub own).trans (first.rows sub own), second.group.trans first.group⟩

theorem SameFor.symm {db' : DB} (same : SameFor userId db db') : SameFor userId db' db :=
  ⟨fun sub own => (same.rows sub own).symm, same.group.symm⟩

theorem SameFor.decides {db' : DB} {now : Int} {last : UserSubscription} (same : SameFor userId db db')
    (decides : db.Decides now userId last) : db'.Decides now userId last :=
  { decides with
    stored := (same.rows last decides.own).mpr decides.stored
    latest := fun sub inside own => decides.latest sub ((same.rows sub own).mp inside) own
    unopposed := fun sub inside own => decides.unopposed sub ((same.rows sub own).mp inside) own }

theorem SameFor.expiryTarget {db' : DB} (same : SameFor userId db db')
    (here : groupIn db.users userId = some current) : db'.expiryTarget env userId = db.expiryTarget env userId := by
  refine Option.ext fun target => ?_
  rw [expiryTarget_iff (same.group.trans here), expiryTarget_iff here]
  exact exists_congr fun last => and_congr_left' ⟨same.symm.decides, same.decides⟩

theorem expireUser_sameFor (db : DB) (apart : other ≠ userId) : SameFor other db (db.expireUser env userId) where
  rows sub own := by
    rw [expireUser_subscriptions]
    exact mem_update_other (fun s named => by rw [named, beq_false_of_ne apart, Bool.false_and]) (fun _ => rfl) sub own
  group := expireUser_users_other env db apart

theorem expireEach_sameFor (apart : other ∉ users) (db : DB) : SameFor other db (db.expireEach env users) := by
  induction users generalizing db with
  | nil => exact ⟨fun _ _ => Iff.rfl, rfl⟩
  | cons userId rest ih =>
    have here : other ≠ userId := fun same => apart (same ▸ List.mem_cons_self)
    exact (expireUser_sameFor db here).trans (ih (fun inside => apart (List.mem_cons_of_mem _ inside)) _)

/-- Each visited user is moved as the user's transaction alone would. -/
theorem groupIn_expireEach (distinct : users.Nodup) (db : DB) (userId : Int) :
    groupIn (db.expireEach env users).users userId =
      if userId ∈ users then (groupIn db.users userId).map fun current => (db.expiryTarget env userId).getD current
      else groupIn db.users userId := by
  split
  · rename_i visited
    obtain ⟨before, after, rfl⟩ := List.append_of_mem visited
    rw [List.nodup_middle, List.nodup_cons, List.mem_append, not_or] at distinct
    have early : SameFor userId db (db.expireEach env before) := expireEach_sameFor distinct.1.1 db
    have late : SameFor userId _ (((db.expireEach env before).expireUser env userId).expireEach env after) :=
      expireEach_sameFor distinct.1.2 _
    have whole : db.expireEach env (before ++ userId :: after) =
        ((db.expireEach env before).expireUser env userId).expireEach env after := by
      simp [DB.expireEach]
    rw [whole, late.group, groupIn_expireUser, early.group]
    cases here : groupIn db.users userId with
    | none => rfl
    | some current => rw [early.expiryTarget here]
  · rename_i missed
    exact (expireEach_sameFor missed db).group

/-- The call marks what is due of the visited users, and nothing else. -/
theorem rows_expireEach (db : DB) : (db.expireEach env users).userSubscriptions.rows =
    db.userSubscriptions.rows.map fun sub =>
      if sub.userId ∈ users ∧ sub.Due env.now then (expire env.now).set sub else sub := by
  induction users generalizing db with
  | nil => simp [DB.expireEach]
  | cons userId rest ih =>
    have step : (db.expireUser env userId).userSubscriptions.rows =
        db.userSubscriptions.rows.map (marked env userId) := by
      rw [expireUser_subscriptions]
      rfl
    refine (ih (db.expireUser env userId)).trans ?_
    rw [step, List.map_map]
    refine List.map_congr_left fun sub _ => ?_
    simp only [Function.comp_apply, marked, Table.rewrite, Bool.and_eq_true, beq_iff_eq, dueSubscription_iff]
    by_cases due : sub.Due env.now
    · have done : ¬((expire env.now).set sub).Due env.now := by
        rintro ⟨active, -⟩
        cases active
      by_cases own : sub.userId = userId <;> simp [own, due, done]
    · simp [due]

end Visits

theorem movedBetween_iff {env : Env} {users : List Int} {db : DB} :
    sub.MovedBetween db (db.expireEach env users) ↔
      sub ∈ db.userSubscriptions.rows ∧ sub.userId ∈ users ∧ sub.Due env.now := by
  unfold UserSubscription.MovedBetween
  rw [rows_expireEach]
  constructor
  · rintro ⟨member, active, after, inside, sameId, expired⟩
    obtain ⟨old, stored, rfl⟩ := List.mem_map.mp inside
    by_cases visited : old.userId ∈ users ∧ old.Due env.now
    · rw [if_pos visited] at sameId
      rw [← Table.eq_of_id stored member sameId]
      exact ⟨stored, visited⟩
    · rw [if_neg visited] at sameId expired
      rw [Table.eq_of_id stored member sameId, active] at expired
      cases expired
  · rintro ⟨member, visited⟩
    exact ⟨member, visited.2.1, _, List.mem_map_of_mem member, by rw [if_pos visited]; exact ⟨rfl, rfl⟩⟩

/-- A run of the expiry changes groups only on behalf of what it expires,
exactly if for no user it visits an older subscription decides otherwise. -/
theorem expireDueSubscriptions_frame_iff (env : Env) (limit : Int) (draws : List Nat) (db : DB) :
    ChangesOnlyExpired db (expireDueSubscriptions env limit draws ⟨db, []⟩).2.db ↔
      ∀ userId ∈ db.dueUsers env limit, db.OnlyDueDecide env.now userId := by
  have perm := iterate_perm draws (db.dueUsers env limit)
  have distinct : (iterate draws (db.dueUsers env limit)).Nodup := perm.nodup_iff.mpr (List.nodup_dedup _)
  rw [expireDueSubscriptions_db]
  unfold ChangesOnlyExpired
  simp only [groupIn_expireEach distinct, movedBetween_iff, perm.mem_iff]
  constructor
  · intro frame userId visited last current target decides _ here sends
    have moves : db.expiryTarget env userId = some target := (expiryTarget_iff here).mpr ⟨last, decides, sends⟩
    have changed : target ≠ current := sends.2.1
    obtain ⟨sub, group, ⟨member, -, due⟩, own, transition, after, ends⟩ :=
      frame userId (by simp [visited, here, moves, changed])
    rw [if_pos visited, here, moves] at after
    cases after
    exact ⟨sub, member, own, due, transition, ends⟩
  · intro justified userId changed
    by_cases visited : userId ∈ db.dueUsers env limit
    · rw [if_pos visited] at changed ⊢
      cases here : groupIn db.users userId with
      | none => simp [here] at changed
      | some current =>
        cases moves : db.expiryTarget env userId with
        | none => simp [here, moves] at changed
        | some target =>
          obtain ⟨last, decides, sends⟩ := (expiryTarget_iff here).mp moves
          rcases decides.ended with expired | due
          · obtain ⟨sub, member, own, due, transition, ends⟩ :=
              justified userId visited last current target decides expired here sends
            exact ⟨sub, target, ⟨member, own ▸ visited, due⟩, own, transition, rfl, ends⟩
          · exact ⟨last, target, ⟨decides.stored, decides.own ▸ visited, due⟩, decides.own, decides.transition, rfl,
              sends.endsIn⟩
    · rw [if_neg visited] at changed
      exact absurd rfl changed

/-- The user left the group "free" after the first subscription had expired;
the second one defines no transition. -/
def movedOnDB : DB :=
  { users := .single { id := 7, group := "partner" }
    userSubscriptions := ⟨[
      { id := 1, userId := 7, planId := 1, endTime := 50, status := .expired, upgradeGroup := "vip", downgradeGroup := "free" },
      { id := 2, userId := 7, planId := 2, endTime := 90 }], by decide, by decide⟩ }

def expiryEnv : Env := { plainEnv with now := 100, now_pos := by decide }

/-- The expiry of the second subscription sends the user back to where the
first one had sent them. -/
theorem movedOn_sentBack :
    groupIn (expireDueSubscriptions expiryEnv 200 [] ⟨movedOnDB, []⟩).2.db.users 7 = some "free" ∧
      ¬ChangesOnlyExpired movedOnDB (expireDueSubscriptions expiryEnv 200 [] ⟨movedOnDB, []⟩).2.db := by
  refine ⟨by decide +kernel, fun frame => ?_⟩
  obtain ⟨sub, -, ⟨member, active, -⟩, -, transition, -⟩ := frame 7 (by decide +kernel)
  have plain : ∀ sub ∈ movedOnDB.userSubscriptions.rows, sub.status = .active →
      sub.downgradeGroup = "" ∧ sub.upgradeGroup = "" := by decide
  rcases transition with named | named
  · exact named (plain sub member active).1
  · exact named (plain sub member active).2

end LLMHub
