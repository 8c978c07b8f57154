import LLMHub.Subscription.Groups
import LLMHub.Store.Machine

namespace LLMHub

open Store Action Go UserSubscription

/-- The users after the end of a subscription has been considered. -/
def revertGroup (users : Table User) (userId : Int) (sub : UserSubscription) : Table User :=
  match sub.revertTarget ((groupIn users userId).getD "") with
  | none => users
  | some target => users.update (userIs userId) (User.setGroup target)

section Reading
variable {env : Env} {db db' : DB} {userId : Int}

theorem groupIn_setGroup (users : Table User) (userId other : Int) (group : String) :
    groupIn (users.update (userIs userId) (User.setGroup group)) other =
      (groupIn users other).map fun before => if other = userId then group else before := by
  unfold groupIn
  rw [Table.first_update fun _ => rfl, Option.map_map, Option.map_map]
  refine Option.map_congr fun user found => ?_
  have named := Table.holds_of_first found
  simp only [userIs, Bool.and_eq_true, beq_iff_eq] at named
  by_cases same : other = userId
  · rw [Function.comp_apply, Function.comp_apply, if_pos same, Table.rewrite_pos]
    · rfl
    · rw [userIs, ← same, named.1, named.2, beq_self_eq_true, Bool.true_and]
  · rw [Function.comp_apply, Function.comp_apply, if_neg same, Table.rewrite_neg]
    rw [userIs, named.1, beq_false_of_ne same, Bool.false_and]

theorem groupIn_revertGroup_other (users : Table User) (sub : UserSubscription) {other : Int} (apart : other ≠ userId) :
    groupIn (revertGroup users userId sub) other = groupIn users other := by
  unfold revertGroup
  split
  · rfl
  · rw [groupIn_setGroup]
    simp [apart]

theorem getUserGroupByIdTx_returns {group : String} (run : (getUserGroupByIdTx userId).Returns db group db') :
    group = (groupIn db.users userId).getD "" ∧ db' = db := by
  obtain ⟨-, rest⟩ := run.failIf_bind
  exact rest.query

/-- A user keeps the group while another subscription grants one. -/
theorem downgradeUserGroupForSubscriptionTx_returns {sub : UserSubscription} {now : Int} {target : String}
    (run : (downgradeUserGroupForSubscriptionTx sub now).Returns db target db') :
    (db' = db ∧ ∃ s ∈ db.userSubscriptions.rows, upgradedSubscriptionOf sub.userId now s = true ∧ s.id ≠ sub.id) ∨
      db' = { db with users := revertGroup db.users sub.userId sub } := by
  unfold downgradeUserGroupForSubscriptionTx at run
  split at run
  · rename_i empty
    refine Or.inr (run.pure.2.trans ?_)
    unfold revertGroup revertTarget
    simp [empty.1, empty.2]
  · obtain ⟨current, _, read, rest⟩ := run.bind
    obtain ⟨rfl, same⟩ := getUserGroupByIdTx_returns read
    rw [same] at rest
    obtain ⟨active, mid, queried, rest⟩ := rest.bind
    have kept : mid = db := ReadOnly.returns (.attempt (.query _)) queried
    rw [kept] at rest
    split at rest
    · rename_i others
      refine Or.inl ⟨rest.pure.2, ?_⟩
      rcases queried.attempt with ⟨rows, rfl, found⟩ | ⟨_, rfl, -⟩
      · obtain ⟨rfl, -⟩ := found.query
        obtain ⟨s, member⟩ := List.exists_mem_of_ne_nil _ others
        obtain ⟨inside, hit⟩ := List.mem_filter.mp member
        simp only [Bool.and_eq_true, bne_iff_ne] at hit
        exact ⟨s, inside, hit.1, hit.2⟩
      · exact absurd rfl others
    · refine Or.inr ?_
      unfold revertGroup
      cases chosen : sub.revertTarget ((groupIn db.users sub.userId).getD "") with
      | none =>
        rw [chosen] at rest
        exact rest.pure.2
      | some target =>
        rw [chosen] at rest
        exact rest.updateWhere_bind.pure.2

end Reading

section Latest
variable {subs : List UserSubscription} {last : UserSubscription}

instance : Std.Total fun s t : UserSubscription => endsBefore t s := ⟨fun s t => by unfold endsBefore; omega⟩

instance : IsTrans UserSubscription fun s t => endsBefore t s := ⟨fun s t r => by unfold endsBefore; omega⟩

/-- The last subscription to end is one of them, and none ends after it. -/
theorem latestEnding_spec (found : latestEnding subs = some last) :
    last ∈ subs ∧ ∀ sub ∈ subs, endsBefore sub last := by
  obtain ⟨rest, sorted⟩ := List.head?_eq_some_iff.mp found
  have same := List.perm_insertionSort (fun s t : UserSubscription => endsBefore t s) subs
  have ordered := List.pairwise_insertionSort (fun s t : UserSubscription => endsBefore t s) subs
  rw [sorted] at same ordered
  refine ⟨same.subset List.mem_cons_self, fun sub member => ?_⟩
  rcases List.mem_cons.mp (same.symm.subset member) with rfl | inside
  · exact Or.inr ⟨rfl, le_refl _⟩
  · exact List.rel_of_pairwise_cons ordered inside

theorem latestEnding_none (missing : latestEnding subs = none) : subs = [] := by
  have empty := List.head?_eq_none_iff.mp missing
  exact List.perm_nil.mp (empty ▸ (List.perm_insertionSort _ subs).symm)

end Latest

/-- The subscriptions after the due ones of a user have been marked. -/
def markExpired (env : Env) (userId : Int) (subs : Table UserSubscription) : Table UserSubscription :=
  subs.update (fun s => s.userId == userId && dueSubscription env.now s) (expire env.now)

/-- The database after one user of a batch, when no statement fails. -/
def DB.expireUser (env : Env) (userId : Int) (db : DB) : DB :=
  let subs := markExpired env userId db.userSubscriptions
  if subs.rows.filter (upgradedSubscriptionOf userId env.now) ≠ [] then { db with userSubscriptions := subs }
  else match latestEnding (subs.rows.filter (expiredTransitionOf userId)) with
    | none => { db with userSubscriptions := subs }
    | some last => { db with userSubscriptions := subs, users := revertGroup db.users userId last }

section Expire
variable {env : Env} {userId : Int}

theorem getUserGroupByIdTx_completes (db : DB) (positive : 0 < userId) :
    (getUserGroupByIdTx userId).Completes db ((groupIn db.users userId).getD "") db :=
  .bind (.failIf (by omega) _ _) (query_run _ db)

theorem expireUserSubscriptionsTx_completes (db : DB) (positive : 0 < userId) :
    (expireUserSubscriptionsTx env userId).Completes db
      (db.userSubscriptions.count fun s => s.userId == userId && dueSubscription env.now s) (db.expireUser env userId) := by
  refine .bind (.updateWhere _ _ db) (.bind (.attempt (.findAll _ _)) ?_)
  change Completes (if (markExpired env userId db.userSubscriptions).rows.filter (upgradedSubscriptionOf userId env.now) ≠ []
    then _ else _) _ _ _
  unfold DB.expireUser
  simp only
  split
  · exact .pure _ _
  · refine .bind (.attempt (.findAll _ _)) ?_
    change Completes (match latestEnding ((markExpired env userId db.userSubscriptions).rows.filter
      (expiredTransitionOf userId)) with | none => _ | some last => _) _ _ _
    cases latest : latestEnding ((markExpired env userId db.userSubscriptions).rows.filter (expiredTransitionOf userId)) with
    | none => exact .pure _ _
    | some last =>
      refine .bind (getUserGroupByIdTx_completes _ positive) ?_
      unfold revertGroup
      simp only
      cases target : last.revertTarget ((groupIn db.users userId).getD "") with
      | none => exact .pure _ _
      | some group => exact .bind (.updateWhere _ _ _) (.pure _ _)

/-- What one user's transaction keeps, the visit of a list of users keeps. -/
theorem expireUsers_maintains {inv : DB → Prop} (step : ∀ userId db, 0 < userId → inv db → inv (db.expireUser env userId))
    (users : List Int) (positive : ∀ userId ∈ users, 0 < userId) (db : DB) (holds : inv db) :
    inv ((expireUsers env users) ⟨db, []⟩).2.db := by
  induction users generalizing db with
  | nil => exact holds
  | cons userId rest ih =>
    have here := positive userId List.mem_cons_self
    have head : (transaction (expireUserSubscriptionsTx env userId)).Completes db _ _ :=
      (expireUserSubscriptionsTx_completes db here).transaction
    unfold expireUsers
    rw [bind_ok head]
    have tail := ih (fun other inside => positive other (List.mem_cons_of_mem _ inside)) _ (step userId db here holds)
    rw [bind_apply]
    split <;> rename_i result <;> rw [result] at tail <;> exact tail

theorem expireDueSubscriptions_maintains (inv : DB → Prop)
    (step : ∀ userId db, 0 < userId → inv db → inv (db.expireUser env userId)) (limit : Int) (draws : List Nat) (db : DB)
    (holds : inv db) : inv ((expireDueSubscriptions env limit draws) ⟨db, []⟩).2.db := by
  unfold expireDueSubscriptions
  rw [bind_ok (Completes.findAll _ db)]
  refine expireUsers_maintains step _ (fun userId member => ?_) db holds
  have inside := (iterate_perm draws _).subset member
  exact of_decide_eq_true (List.mem_filter.mp (List.mem_dedup.mp inside)).2

end Expire

/-- What a subscription remembers that was bought from the group `home`. -/
structure Grants (home : String) (sub : UserSubscription) : Prop where
  downgrade : sub.downgradeGroup = ""
  upgrade : sub.upgradeGroup ≠ ""
  trimmed : trimSpace sub.upgradeGroup = sub.upgradeGroup
  prev : sub.prevUserGroup = home ∨ (sub.prevUserGroup = "" ∧ sub.upgradeGroup = home)

/-- The subscriptions of a user who buys one after the other. One at most is
active; it ends after every one that has expired. -/
structure Sequential (userId : Int) (home : String) (now : Int) (subs : Table UserSubscription) : Prop where
  grants : ∀ sub ∈ subs.rows, sub.userId = userId → Grants home sub
  alone : ∀ sub ∈ subs.rows, ∀ other ∈ subs.rows, sub.userId = userId → other.userId = userId →
    sub.status = .active → other.status = .active → sub = other
  later : ∀ sub ∈ subs.rows, ∀ other ∈ subs.rows, sub.userId = userId → other.userId = userId →
    sub.status = .active → other.status = .expired → other.endTime < sub.endTime
  ended : ∀ sub ∈ subs.rows, sub.userId = userId → sub.status = .expired → sub.endTime ≤ now
  positive : ∀ sub ∈ subs.rows, sub.userId = userId → sub.status = .active → 0 < sub.endTime

/-- The user is at home, or where the active subscription has put them. -/
def Placed (userId : Int) (home : String) (subs : Table UserSubscription) (users : Table User) : Prop :=
  groupIn users userId = some home ∨
    ∃ sub ∈ subs.rows, sub.userId = userId ∧ sub.status = .active ∧ sub.prevUserGroup = home ∧
      groupIn users userId = some sub.upgradeGroup

structure GroupInvariant (userId : Int) (home : String) (now : Int) (db : DB) : Prop where
  subs : Sequential userId home now db.userSubscriptions
  placed : Placed userId home db.userSubscriptions db.users

section Revert
variable {userId : Int} {home : String} {sub : UserSubscription} {users : Table User}

/-- A subscription sends the user home or nowhere. -/
theorem Grants.revertTarget_eq (grants : Grants home sub) (named : home ≠ "") (blank : trimSpace home = home)
    (current : String) :
    sub.revertTarget current =
      if current = sub.upgradeGroup ∧ sub.prevUserGroup = home ∧ home ≠ current then some home else none := by
  unfold revertTarget
  have empty : trimSpace "" = "" := by decide +kernel
  simp only [grants.downgrade, empty, if_true, grants.trimmed, grants.upgrade, false_or]
  rcases grants.prev with same | ⟨none, same⟩
  · by_cases here : current = sub.upgradeGroup <;> by_cases home_ : home = current <;>
      simp [here, same, blank, named, home_, grants.trimmed]
  · simp [none, empty, named.symm]

theorem groupIn_revertGroup (grants : Grants home sub) (named : home ≠ "") (blank : trimSpace home = home) {current : String}
    (here : groupIn users userId = some current) :
    groupIn (revertGroup users userId sub) userId =
      some (if current = sub.upgradeGroup ∧ sub.prevUserGroup = home then home else current) := by
  unfold revertGroup
  rw [here, Option.getD_some, grants.revertTarget_eq named blank]
  by_cases moves : current = sub.upgradeGroup ∧ sub.prevUserGroup = home ∧ home ≠ current
  · rw [if_pos moves, if_pos ⟨moves.1, moves.2.1⟩]
    simp only [groupIn_setGroup, here, Option.map_some, if_true]
  · rw [if_neg moves]
    simp only [here]
    by_cases left : current = sub.upgradeGroup ∧ sub.prevUserGroup = home
    · have same : home = current := by
        by_contra differs
        exact moves ⟨left.1, left.2, differs⟩
      rw [if_pos left, same]
    · rw [if_neg left]

/-- Considering the end of a subscription leaves a placed user placed, and takes
home the one it had put elsewhere. -/
theorem Placed.revert {subs : Table UserSubscription} (grants : Grants home sub) (named : home ≠ "")
    (blank : trimSpace home = home) (placed : Placed userId home subs users ∨
      (groupIn users userId = some sub.upgradeGroup ∧ sub.prevUserGroup = home)) :
    Placed userId home subs (revertGroup users userId sub) := by
  rcases placed with (atHome | ⟨active, member, own, status, prev, away⟩) | ⟨away, prev⟩
  · refine Or.inl ?_
    rw [groupIn_revertGroup grants named blank atHome]
    split <;> rfl
  · unfold Placed
    rw [groupIn_revertGroup grants named blank away]
    split
    · exact Or.inl rfl
    · exact Or.inr ⟨active, member, own, status, prev, rfl⟩
  · refine Or.inl ?_
    rw [groupIn_revertGroup grants named blank away, if_pos ⟨rfl, prev⟩]

end Revert

section Steps
variable {userId own : Int} {home : String} {now : Int} {db db' : DB}

theorem GroupInvariant.clock (inv : GroupInvariant own home now db) {later : Int} (passed : now ≤ later) :
    GroupInvariant own home later db :=
  ⟨{ inv.subs with ended := fun sub member named status => (inv.subs.ended sub member named status).trans passed },
    inv.placed⟩

/-- What concerns other users only. -/
theorem GroupInvariant.frame (inv : GroupInvariant own home now db)
    (rows : ∀ sub : UserSubscription, sub.userId = own →
      (sub ∈ db'.userSubscriptions.rows ↔ sub ∈ db.userSubscriptions.rows))
    (group : groupIn db'.users own = groupIn db.users own) : GroupInvariant own home now db' := by
  obtain ⟨⟨grants, alone, later, ended, positive⟩, placed⟩ := inv
  refine ⟨⟨fun sub member named => grants sub ((rows sub named).mp member) named,
    fun sub member other inside named same => alone sub ((rows sub named).mp member) other ((rows other same).mp inside) named same,
    fun sub member other inside named same => later sub ((rows sub named).mp member) other ((rows other same).mp inside) named same,
    fun sub member named => ended sub ((rows sub named).mp member) named,
    fun sub member named => positive sub ((rows sub named).mp member) named⟩, ?_⟩
  unfold Placed
  rw [group]
  rcases placed with atHome | ⟨sub, member, named, rest⟩
  · exact Or.inl atHome
  · exact Or.inr ⟨sub, (rows sub named).mpr member, named, rest⟩

variable {t : Table UserSubscription} {plan : SubscriptionPlan}

theorem mem_update_other {p : UserSubscription → Bool} {f : Table.Assignment UserSubscription}
    (apart : ∀ sub : UserSubscription, sub.userId = own → p sub = false)
    (owner : ∀ sub, (f.set sub).userId = sub.userId) (sub : UserSubscription) (named : sub.userId = own) :
    sub ∈ (t.update p f).rows ↔ sub ∈ t.rows := by
  constructor
  · intro member
    obtain ⟨old, inside, ⟨hit, rfl⟩ | ⟨-, rfl⟩⟩ := Table.mem_update_cases member
    · rw [apart old ((owner old).symm.trans named)] at hit
      cases hit
    · exact inside
  · exact fun member => Table.mem_update.mpr ⟨sub, member, Table.rewrite_neg (apart sub named)⟩

theorem expireUser_users_other (env : Env) (db : DB) (apart : own ≠ userId) :
    groupIn (db.expireUser env userId).users own = groupIn db.users own := by
  unfold DB.expireUser
  simp only
  split
  · rfl
  · split
    · rfl
    · exact groupIn_revertGroup_other _ _ apart

theorem expireUser_subscriptions (env : Env) (db : DB) :
    (db.expireUser env userId).userSubscriptions = markExpired env userId db.userSubscriptions := by
  unfold DB.expireUser
  simp only
  split
  · rfl
  · split <;> rfl

theorem GroupInvariant.expireOther {env : Env} (inv : GroupInvariant own home now db) (apart : own ≠ userId) :
    GroupInvariant own home now (db.expireUser env userId) := by
  refine inv.frame (fun sub named => ?_) (expireUser_users_other env db apart)
  rw [expireUser_subscriptions]
  refine mem_update_other (fun other same => ?_) (fun _ => rfl) sub named
  rw [same, beq_false_of_ne apart, Bool.false_and]

/-- Where a row of the marked table comes from. -/
theorem mem_markExpired {env : Env} {sub : UserSubscription} (member : sub ∈ (markExpired env own t).rows) :
    ∃ old ∈ t.rows, (old.userId = own ∧ dueSubscription env.now old = true ∧ sub = (expire env.now).set old) ∨
      (sub = old ∧ (old.userId = own → dueSubscription env.now old = false)) := by
  obtain ⟨old, inside, ⟨hit, rfl⟩ | ⟨miss, rfl⟩⟩ := Table.mem_update_cases member
  · simp only [Bool.and_eq_true, beq_iff_eq] at hit
    exact ⟨old, inside, Or.inl ⟨hit.1, hit.2, rfl⟩⟩
  · refine ⟨sub, inside, Or.inr ⟨rfl, fun named => ?_⟩⟩
    rwa [named, beq_self_eq_true, Bool.true_and] at miss

theorem due_active {env : Env} {sub : UserSubscription} (due : dueSubscription env.now sub = true) :
    sub.status = .active ∧ sub.endTime ≤ env.now := by
  simp only [dueSubscription, Bool.and_eq_true, beq_iff_eq, decide_eq_true_eq] at due
  exact ⟨due.1, due.2.2⟩

theorem Sequential.markExpired {env : Env} (subs : Sequential own home env.now t) :
    Sequential own home env.now (markExpired env own t) where
  grants sub member named := by
    obtain ⟨old, inside, ⟨-, -, rfl⟩ | ⟨rfl, -⟩⟩ := mem_markExpired member
    · exact { subs.grants old inside named with }
    · exact subs.grants sub inside named
  alone sub member other inside named same active active' := by
    obtain ⟨old, here, ⟨-, -, rfl⟩ | ⟨rfl, -⟩⟩ := mem_markExpired member
    · cases active
    obtain ⟨old', here', ⟨-, -, rfl⟩ | ⟨rfl, -⟩⟩ := mem_markExpired inside
    · cases active'
    exact subs.alone sub here other here' named same active active'
  later sub member other inside named same active expired := by
    obtain ⟨old, here, ⟨-, -, rfl⟩ | ⟨rfl, early⟩⟩ := mem_markExpired member
    · cases active
    obtain ⟨old', here', ⟨own', due, rfl⟩ | ⟨rfl, -⟩⟩ := mem_markExpired inside
    · have equal := subs.alone sub here old' here' named own' active (due_active due).1
      rw [← equal, early named] at due
      cases due
    · exact subs.later sub here other here' named same active expired
  ended sub member named expired := by
    obtain ⟨old, here, ⟨-, due, rfl⟩ | ⟨rfl, -⟩⟩ := mem_markExpired member
    · exact (due_active due).2
    · exact subs.ended sub here named expired
  positive sub member named active := by
    obtain ⟨old, here, ⟨-, -, rfl⟩ | ⟨rfl, -⟩⟩ := mem_markExpired member
    · cases active
    · exact subs.positive sub here named active

theorem mem_markExpired_due {env : Env} {sub : UserSubscription} (member : sub ∈ t.rows)
    (owner : sub.userId = own) (due : dueSubscription env.now sub = true) :
    (expire env.now).set sub ∈ (markExpired env own t).rows := by
  refine Table.mem_update.mpr ⟨sub, member, Table.rewrite_pos ?_⟩
  rw [owner, beq_self_eq_true, due, Bool.and_self]

/-- Either the user is placed over the marked rows, or the row that placed them
was due. -/
theorem GroupInvariant.placed_or_due (env : Env) (inv : GroupInvariant own home now db) :
    Placed own home (markExpired env own db.userSubscriptions) db.users ∨
      ∃ sub ∈ db.userSubscriptions.rows, sub.userId = own ∧ dueSubscription env.now sub = true ∧
        sub.prevUserGroup = home ∧ groupIn db.users own = some sub.upgradeGroup := by
  rcases inv.placed with atHome | ⟨sub, member, owner, active, prev, away⟩
  · exact Or.inl (Or.inl atHome)
  · cases due : dueSubscription env.now sub with
    | true => exact Or.inr ⟨sub, member, owner, due, prev, away⟩
    | false =>
      refine Or.inl (Or.inr ⟨sub, Table.mem_update.mpr ⟨sub, member, Table.rewrite_neg ?_⟩, owner, active, prev, away⟩)
      rw [due, Bool.and_false]

/-- A due subscription is the last one of its user to have ended. -/
theorem GroupInvariant.latest_due {env : Env} (inv : GroupInvariant own home now db) {sub : UserSubscription}
    (member : sub ∈ db.userSubscriptions.rows) (owner : sub.userId = own) (due : dueSubscription env.now sub = true) :
    latestEnding ((markExpired env own db.userSubscriptions).rows.filter (expiredTransitionOf own)) =
      some ((expire env.now).set sub) := by
  have inside : (expire env.now).set sub ∈
      (markExpired env own db.userSubscriptions).rows.filter (expiredTransitionOf own) := by
    refine List.mem_filter.mpr ⟨mem_markExpired_due member owner due, ?_⟩
    simp [expiredTransitionOf, expire, owner, (inv.subs.grants sub member owner).upgrade]
  cases latest : latestEnding ((markExpired env own db.userSubscriptions).rows.filter (expiredTransitionOf own)) with
  | none =>
    rw [latestEnding_none latest] at inside
    cases inside
  | some last =>
    obtain ⟨found, bound⟩ := latestEnding_spec latest
    obtain ⟨here, hit⟩ := List.mem_filter.mp found
    simp only [expiredTransitionOf, Bool.and_eq_true, beq_iff_eq] at hit
    obtain ⟨old, there, ⟨own', due', rfl⟩ | ⟨rfl, -⟩⟩ := mem_markExpired here
    · rw [inv.subs.alone old there sub member own' owner (due_active due').1 (due_active due).1]
    · have earlier := inv.subs.later sub member last there owner hit.1.1 (due_active due).1 hit.1.2
      have ends := bound _ inside
      simp only [endsBefore, expire] at ends
      omega

theorem GroupInvariant.expireOwn {env : Env} (inv : GroupInvariant own home env.now db) (named : home ≠ "")
    (blank : trimSpace home = home) : GroupInvariant own home env.now (db.expireUser env own) := by
  have marked := inv.subs.markExpired
  refine ⟨(expireUser_subscriptions env db).symm ▸ marked, ?_⟩
  rw [expireUser_subscriptions]
  unfold DB.expireUser
  simp only
  rcases inv.placed_or_due env with placed | ⟨sub, member, owner, due, prev, away⟩
  · split
    · exact placed
    · split
      · exact placed
      · rename_i last latest
        obtain ⟨inside, hit⟩ := List.mem_filter.mp (latestEnding_spec latest).1
        simp only [expiredTransitionOf, Bool.and_eq_true, beq_iff_eq] at hit
        exact Placed.revert (marked.grants last inside hit.1.1) named blank (Or.inl placed)
  · rw [if_neg, inv.latest_due member owner due]
    · exact Placed.revert (marked.grants _ (mem_markExpired_due member owner due) owner) named blank (Or.inr ⟨away, prev⟩)
    · -- A row that is still active would be a second active one.
      rw [not_not, List.filter_eq_nil_iff]
      intro other inside hit
      simp only [upgradedSubscriptionOf, activeSubscriptionOf, Bool.and_eq_true, beq_iff_eq] at hit
      obtain ⟨old, here, ⟨-, -, rfl⟩ | ⟨rfl, early⟩⟩ := mem_markExpired inside
      · cases hit.1.1.2
      · rw [inv.subs.alone other here sub member hit.1.1.1 owner hit.1.1.2 (due_active due).1, due] at early
        cases early owner

/-- The users after one of them has entered the group of a plan, and the group
that was left. -/
def enterGroup (users : Table User) (userId : Int) (upgradeGroup : String) : Table User × String :=
  if upgradeGroup = "" then (users, "")
  else if (groupIn users userId).getD "" ≠ upgradeGroup then
    (users.update (userIs userId) (User.setGroup upgradeGroup), (groupIn users userId).getD "")
  else (users, "")

theorem upgradeUserGroupTx_returns {upgradeGroup prevGroup : String}
    (run : (upgradeUserGroupTx userId upgradeGroup).Returns db prevGroup db') :
    db' = { db with users := (enterGroup db.users userId upgradeGroup).1 } ∧
      prevGroup = (enterGroup db.users userId upgradeGroup).2 := by
  unfold upgradeUserGroupTx at run
  unfold enterGroup
  split at run
  · rename_i empty
    rw [if_pos empty]
    exact run.pure.symm
  · rename_i names
    obtain ⟨current, _, read, rest⟩ := run.bind
    obtain ⟨rfl, same⟩ := getUserGroupByIdTx_returns read
    rw [same] at rest
    rw [if_neg names]
    split at rest
    · rename_i moves
      rw [if_pos moves]
      exact rest.updateWhere_bind.pure.symm
    · rename_i stays
      rw [if_neg stays]
      exact rest.pure.symm

/-- What a purchase writes. -/
theorem createUserSubscriptionFromPlanTx_returns {env : SubscriptionEnv} {source : String}
    {sub : UserSubscription} (run : (createUserSubscriptionFromPlanTx env userId plan source).Returns db sub db') :
    ∃ endUnix t, calcPlanEndTime env env.now plan = .ok endUnix ∧
      db.userSubscriptions.insert (newSubscription env userId plan source endUnix
        (enterGroup db.users userId (trimSpace plan.upgradeGroup)).2) = some (sub, t) ∧
      db' = { db with users := (enterGroup db.users userId (trimSpace plan.upgradeGroup)).1, userSubscriptions := t } := by
  obtain ⟨-, run⟩ := run.failIf_bind
  obtain ⟨-, run⟩ := run.failIf_bind
  obtain ⟨_, mid, counted, run⟩ := run.bind
  have kept : mid = db := ReadOnly.returns (.onlyIf (.bind (.query _) fun _ => .failIf _ _)) counted
  rw [kept] at run
  obtain ⟨endUnix, ends, run⟩ := run.ofExcept_bind
  obtain ⟨prevGroup, late, entered, run⟩ := run.bind
  obtain ⟨rfl, rfl⟩ := upgradeUserGroupTx_returns entered
  obtain ⟨t, stored, written⟩ := run.create
  exact ⟨endUnix, t, ends, stored, written⟩

theorem groupIn_enterGroup_other (users : Table User) (upgradeGroup : String) (apart : own ≠ userId) :
    groupIn (enterGroup users userId upgradeGroup).1 own = groupIn users own := by
  unfold enterGroup
  split
  · rfl
  · split
    · rw [groupIn_setGroup]
      simp [apart]
    · rfl

/-- The purchases a run may contain: the user has no active subscription left,
and the new one ends after it is bought. -/
structure SinglePurchase (env : SubscriptionEnv) (plan : SubscriptionPlan) (userId : Int) (db : DB) : Prop where
  upgrade : trimSpace plan.upgradeGroup ≠ ""
  downgrade : trimSpace plan.downgradeGroup = ""
  idle : ∀ sub ∈ db.userSubscriptions.rows, sub.userId = userId → sub.status ≠ .active
  lasting : ∀ endUnix, calcPlanEndTime env env.now plan = .ok endUnix → env.now < endUnix

theorem GroupInvariant.purchaseOwn {env : SubscriptionEnv} {source : String} {sub : UserSubscription}
    (inv : GroupInvariant own home env.now db) (single : SinglePurchase env plan own db)
    (run : (createUserSubscriptionFromPlanTx env own plan source).Returns db sub db') :
    GroupInvariant own home env.now db' := by
  obtain ⟨endUnix, t, ends, stored, rfl⟩ := createUserSubscriptionFromPlanTx_returns run
  have after := single.lasting endUnix ends
  have atHome : groupIn db.users own = some home := by
    rcases inv.placed with atHome | ⟨active, member, owner, status, -⟩
    · exact atHome
    · exact absurd status (single.idle active member owner)
  obtain ⟨-, made, -⟩ := Table.insert_cases stored
  have fields : sub.userId = own ∧ sub.endTime = endUnix ∧ sub.status = .active ∧
      sub.upgradeGroup = trimSpace plan.upgradeGroup ∧ sub.downgradeGroup = trimSpace plan.downgradeGroup ∧
      sub.prevUserGroup = (enterGroup db.users own (trimSpace plan.upgradeGroup)).2 := by
    rw [made]
    exact ⟨rfl, rfl, rfl, rfl, rfl, rfl⟩
  obtain ⟨owner, end_, active, upgrade, downgrade, prev⟩ := fields
  have entered : (enterGroup db.users own (trimSpace plan.upgradeGroup)).2 =
      (if home ≠ trimSpace plan.upgradeGroup then home else "") ∧
      groupIn (enterGroup db.users own (trimSpace plan.upgradeGroup)).1 own = some (trimSpace plan.upgradeGroup) := by
    unfold enterGroup
    rw [if_neg single.upgrade, atHome, Option.getD_some]
    split
    · rw [groupIn_setGroup, atHome]
      simp
    · rename_i same
      exact ⟨rfl, atHome.trans (congrArg some (not_not.mp same))⟩
  obtain ⟨left, group⟩ := entered
  have grants : Grants home sub := by
    refine ⟨downgrade.trans single.downgrade, upgrade ▸ single.upgrade, upgrade ▸ trimSpace_trimSpace _, ?_⟩
    rw [prev, left, upgrade]
    split
    · exact Or.inl rfl
    · rename_i same
      exact Or.inr ⟨rfl, (not_not.mp same).symm⟩
  have old (other : UserSubscription) (member : other ∈ t.rows) (owned : other.userId = own) (status : other.status = .active) :
      other = sub := by
    rcases (Table.mem_insert stored).mp member with before | rfl
    · exact absurd status (single.idle other before owned)
    · rfl
  refine ⟨⟨?_, ?_, ?_, ?_, ?_⟩, ?_⟩
  · intro other member owned
    rcases (Table.mem_insert stored).mp member with before | rfl
    · exact inv.subs.grants other before owned
    · exact grants
  · intro other member another inside owned owned' status status'
    rw [old other member owned status, old another inside owned' status']
  · intro other member another inside owned owned' status expired
    obtain rfl := old other member owned status
    rcases (Table.mem_insert stored).mp inside with before | rfl
    · have past := inv.subs.ended another before owned' expired
      omega
    · rw [active] at expired
      cases expired
  · intro other member owned expired
    rcases (Table.mem_insert stored).mp member with before | rfl
    · exact inv.subs.ended other before owned expired
    · rw [active] at expired
      cases expired
  · intro other member owned status
    obtain rfl := old other member owned status
    have started := env.now_pos
    omega
  · by_cases same : home = trimSpace plan.upgradeGroup
    · exact Or.inl (group.trans (congrArg some same.symm))
    · refine Or.inr ⟨sub, (Table.mem_insert stored).mpr (Or.inr rfl), owner, active, ?_,
        group.trans (congrArg some upgrade.symm)⟩
      rw [prev, left, if_pos same]

theorem GroupInvariant.purchaseOther {env : SubscriptionEnv} {source : String}
    {sub : UserSubscription} (inv : GroupInvariant own home now db) (apart : own ≠ userId)
    (run : (createUserSubscriptionFromPlanTx env userId plan source).Returns db sub db') :
    GroupInvariant own home now db' := by
  obtain ⟨endUnix, t, -, stored, rfl⟩ := createUserSubscriptionFromPlanTx_returns run
  refine inv.frame (fun other owned => ?_) (groupIn_enterGroup_other _ _ apart)
  rw [Table.mem_insert stored, or_iff_left]
  rintro rfl
  obtain ⟨-, rfl, -⟩ := Table.insert_cases stored
  exact apart owned.symm

theorem Sequential.cancel (subs : Sequential own home now t) (id : Int) :
    Sequential own home now (t.update (subscriptionIs id) (cancel now)) where
  grants sub member owned := by
    obtain ⟨old, inside, ⟨-, rfl⟩ | ⟨-, rfl⟩⟩ := Table.mem_update_cases member
    · exact { subs.grants old inside owned with }
    · exact subs.grants sub inside owned
  alone sub member other inside owned owned' active active' := by
    obtain ⟨old, here, ⟨-, rfl⟩ | ⟨-, rfl⟩⟩ := Table.mem_update_cases member
    · cases active
    obtain ⟨old', here', ⟨-, rfl⟩ | ⟨-, rfl⟩⟩ := Table.mem_update_cases inside
    · cases active'
    exact subs.alone sub here other here' owned owned' active active'
  later sub member other inside owned owned' active expired := by
    obtain ⟨old, here, ⟨-, rfl⟩ | ⟨-, rfl⟩⟩ := Table.mem_update_cases member
    · cases active
    obtain ⟨old', here', ⟨-, rfl⟩ | ⟨-, rfl⟩⟩ := Table.mem_update_cases inside
    · cases expired
    exact subs.later sub here other here' owned owned' active expired
  ended sub member owned expired := by
    obtain ⟨old, here, ⟨-, rfl⟩ | ⟨-, rfl⟩⟩ := Table.mem_update_cases member
    · cases expired
    · exact subs.ended sub here owned expired
  positive sub member owned active := by
    obtain ⟨old, here, ⟨-, rfl⟩ | ⟨-, rfl⟩⟩ := Table.mem_update_cases member
    · cases active
    · exact subs.positive sub here owned active

theorem adminInvalidateUserSubscription_atomic (env : Env) (id : Int) : (adminInvalidateUserSubscription env id).Atomic :=
  .read (.failIf _ _) fun _ => .map (.transaction _) _

/-- An invalidation takes the user home unless another subscription is active. -/
theorem GroupInvariant.invalidate {env : Env} {id : Int} {message : String} (inv : GroupInvariant own home env.now db)
    (named : home ≠ "") (blank : trimSpace home = home)
    (run : (adminInvalidateUserSubscription env id).Returns db message db') : GroupInvariant own home env.now db' := by
  obtain ⟨-, run⟩ := run.failIf_bind
  obtain ⟨target, late, changed, done⟩ := run.bind
  rw [done.pure.2]
  obtain ⟨sub, found, rest⟩ := changed.transaction.findOr_bind
  have member := Table.mem_of_first found
  have outcome := downgradeUserGroupForSubscriptionTx_returns rest.updateWhere_bind
  have marked := inv.subs.cancel sub.id
  by_cases owner : sub.userId = own
  · have grants := inv.subs.grants sub member owner
    -- The cancelled row placed the user, or the row that did is untouched.
    have before : Placed own home (db.userSubscriptions.update (subscriptionIs sub.id) (cancel env.now))
        db.users ∨ (sub.status = .active ∧ groupIn db.users own = some sub.upgradeGroup ∧ sub.prevUserGroup = home) := by
      rcases inv.placed with atHome | ⟨active, inside, owned, status, prev, away⟩
      · exact Or.inl (Or.inl atHome)
      · by_cases same : active.id = sub.id
        · obtain rfl := Table.eq_of_id inside member same
          exact Or.inr ⟨status, away, prev⟩
        · refine Or.inl (Or.inr ⟨active, Table.mem_update.mpr ⟨active, inside, Table.rewrite_neg ?_⟩, owned, status, prev, away⟩)
          exact beq_false_of_ne same
    rcases outcome with ⟨rfl, other, inside, hit, differs⟩ | rfl
    · refine ⟨marked, before.resolve_right ?_⟩
      rintro ⟨active, -⟩
      simp only [upgradedSubscriptionOf, activeSubscriptionOf, Bool.and_eq_true, beq_iff_eq] at hit
      obtain ⟨old, here, ⟨-, rfl⟩ | ⟨-, rfl⟩⟩ := Table.mem_update_cases inside
      · cases hit.1.1.2
      · have same := inv.subs.alone other here sub member (hit.1.1.1.trans owner) owner hit.1.1.2 active
        exact differs (congrArg UserSubscription.id same)
    · rw [owner]
      exact ⟨marked, Placed.revert grants named blank (before.imp_right And.right)⟩
  · refine inv.frame (fun other owned => ?_) ?_
    · have rows : late.userSubscriptions = db.userSubscriptions.update (subscriptionIs sub.id)
          (cancel env.now) := by
        rcases outcome with ⟨rfl, -⟩ | rfl <;> rfl
      rw [rows]
      constructor
      · intro inside
        obtain ⟨old, here, ⟨hit, rfl⟩ | ⟨-, rfl⟩⟩ := Table.mem_update_cases inside
        · obtain rfl := Table.eq_of_id here member (beq_iff_eq.mp hit)
          exact absurd owned owner
        · exact here
      · intro inside
        refine Table.mem_update.mpr ⟨other, inside, Table.rewrite_neg (beq_false_of_ne fun same => ?_)⟩
        obtain rfl := Table.eq_of_id inside member same
        exact owner owned
    · rcases outcome with ⟨rfl, -⟩ | rfl
      · rfl
      · exact groupIn_revertGroup_other _ _ fun same => owner same.symm

end Steps


end LLMHub
