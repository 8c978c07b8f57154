import LLMHub.Billing.Quota
import LLMHub.Billing.RefundSteps

namespace LLMHub

open Store

/-- The wallet quota of a user that is not deleted. -/
def walletIn (t : Table User) (userId : Int) : Option Int := (t.first (userIs userId)).map User.quota

def usedIn (t : Table UserSubscription) (id : Int) : Option Int :=
  (t.first (subscriptionIs id)).map UserSubscription.amountUsed

/-- What a limited token may still spend. -/
def Token.spendable (t : Token) : Option Int := if t.unlimitedQuota then none else some t.remainQuota

def tokenIn (t : Table Token) (id : Int) : Option (Int × Option Int) :=
  (t.first (tokenIs id)).map fun token => (token.usedQuota, token.spendable)

theorem walletIn_update {t : Table User} {f : Table.Assignment User} {userId other : Int}
    (name : ∀ u, userIs other (f.set u) = userIs other u) :
    walletIn (t.update (userIs userId) f) other =
      (t.first (userIs other)).map fun u => if other = userId then (f.set u).quota else u.quota := by
  unfold walletIn
  rw [Table.first_update name, Option.map_map]
  refine Option.map_congr fun u found => ?_
  have named := Table.holds_of_first found
  unfold userIs at named
  simp only [Bool.and_eq_true, beq_iff_eq] at named
  by_cases same : other = userId
  · rw [if_pos same, Function.comp_apply, Table.rewrite_pos]
    simp [userIs, named, same]
  · rw [if_neg same, Function.comp_apply, Table.rewrite_neg]
    simp [userIs, named, same]

theorem walletIn_credit (t : Table User) (userId other amount : Int) :
    walletIn (t.update (userIs userId) (User.credit amount)) other =
      (walletIn t other).map (· + if other = userId then amount else 0) := by
  rw [walletIn_update fun _ => rfl, walletIn, Option.map_map]
  refine Option.map_congr fun u _ => ?_
  by_cases same : other = userId <;> simp [same, User.credit]

theorem usedIn_setUsed {t : Table UserSubscription} {sub : UserSubscription} {id : Int} (now amount other : Int)
    (found : t.first (subscriptionIs id) = some sub) :
    usedIn (t.update (subscriptionIs id) (UserSubscription.setUsed now amount)) other =
      if other = id then some amount else usedIn t other := by
  unfold usedIn
  rw [Table.first_update fun _ => rfl]
  by_cases same : other = id
  · subst same
    rw [if_pos rfl, found, Option.map_some, Option.map_some, Table.rewrite_pos (Table.holds_of_first found)]
    rfl
  · rw [if_neg same, Option.map_map]
    refine Option.map_congr fun s hit => ?_
    have named := Table.holds_of_first hit
    unfold subscriptionIs at named
    rw [beq_iff_eq] at named
    rw [Function.comp_apply, Table.rewrite_neg]
    simp [subscriptionIs, named, same]

/-- A condition on a token that its id decides acts on that token alone. -/
theorem tokenIn_update {t : Table Token} {p : Token → Bool} {f : Table.Assignment Token} {id : Int} (other : Int)
    (hit : ∀ token ∈ t.rows, p token = true ↔ token.id = id) :
    tokenIn (t.update p f) other = (t.first (tokenIs other)).map fun token =>
      if other = id then ((f.set token).usedQuota, (f.set token).spendable) else (token.usedQuota, token.spendable) := by
  unfold tokenIn
  rw [Table.first_update fun x => congrArg (· == other) (f.id x), Option.map_map]
  refine Option.map_congr fun token found => ?_
  have named := Table.holds_of_first found
  unfold tokenIs at named
  rw [beq_iff_eq] at named
  have selected := hit token (Table.mem_of_first found)
  by_cases same : other = id
  · rw [if_pos same, Function.comp_apply, Table.rewrite_pos (selected.mpr (named.trans same))]
  · have miss : p token = false := by
      rw [← Bool.not_eq_true, selected, named]
      exact same
    rw [if_neg same, Function.comp_apply, Table.rewrite_neg miss]

/-- Usage after an amount was given back; it never goes below zero. -/
def giveBack (amount used : Int) : Int := if amount = 0 then used else max 0 (used - amount)

theorem map_giveBack_zero (used : Option Int) : used.map (giveBack 0) = used := by
  cases used <;> simp [giveBack]

theorem usedAfter_neg {amount : Int} (moves : amount ≠ 0) (used : Int) : usedAfter used (-amount) = giveBack amount used := by
  unfold usedAfter giveBack
  rw [if_neg moves]
  split <;> omega

/-- What the pre-consume record of a request still holds of a subscription. -/
def outstandingIn (t : Table SubscriptionPreConsumeRecord) (requestId : String) (subscriptionId : Int) : Int :=
  match t.first (preConsumeRecordIs requestId) with
  | some record =>
    if record.status = .consumed ∧ record.userSubscriptionId = subscriptionId then max 0 record.preConsumed else 0
  | none => 0

section Credit
variable {env : Env} {db db' : DB}

/-- Giving an amount back to a subscription changes nobody else's usage. -/
theorem postConsume_giveBack {id amount : Int} {u : Unit}
    (run : (postConsumeUserSubscriptionDeltaTx env id (-amount)).Returns db u db') (positive : 0 < amount) (other : Int) :
    usedIn db'.userSubscriptions other =
      (usedIn db.userSubscriptions other).map (giveBack (if other = id then amount else 0)) := by
  obtain ⟨sub, found, -, rfl⟩ := postConsumeUserSubscriptionDeltaTx_returns run (by omega)
  rw [usedAfter_neg positive.ne', usedIn_setUsed _ _ _ found]
  by_cases same : other = id
  · subst same
    simp [usedIn, found]
  · simp only [same, if_false, map_giveBack_zero]

/-- The pre-consumed amount goes back to the subscription it was taken from,
unless it went back before. -/
theorem refundSubscriptionPreConsumeTx_giveBack {requestId : String} {u : Unit}
    (run : (refundSubscriptionPreConsumeTx env requestId).Returns db u db') (other : Int) :
    usedIn db'.userSubscriptions other = (usedIn db.userSubscriptions other).map
      (giveBack (outstandingIn db.subscriptionPreConsumeRecords requestId other)) := by
  obtain ⟨record, found, ⟨refunded, rfl⟩ | ⟨open_, mid, given, rfl⟩⟩ := refundSubscriptionPreConsumeTx_returns run
  · simp [outstandingIn, found, refunded, map_giveBack_zero]
  · have consumed : record.status = .consumed := by
      cases status : record.status with
      | consumed => rfl
      | refunded => exact absurd status open_
    rcases given with ⟨positive, given⟩ | ⟨nothing, rfl⟩
    · rw [postConsume_giveBack given positive]
      simp only [outstandingIn, found, consumed, true_and, eq_comm (a := other), max_eq_right positive.le]
    · simp [outstandingIn, found, max_eq_left nothing, map_giveBack_zero]

/-- What a refund returns to the funding source. -/
structure FundingReturned (refund : BillingRefund) (db db' : DB) : Prop where
  wallet : ∀ userId, walletIn db'.users userId = (walletIn db.users userId).map
    (· + if refund.fundingSource = .wallet ∧ userId = refund.userId then refund.fundingQuota else 0)
  subscription : ∀ subscriptionId, usedIn db'.userSubscriptions subscriptionId =
    (usedIn db.userSubscriptions subscriptionId).map fun used =>
      giveBack (if refund.fundingSource = .subscription ∧ subscriptionId = refund.subscriptionId then
          refund.subscriptionExtraQuota else 0)
        (giveBack (if refund.fundingSource = .subscription ∧ 0 < refund.fundingQuota then
          outstandingIn db.subscriptionPreConsumeRecords refund.requestId subscriptionId else 0) used)

theorem refundFunding_returns {refund : BillingRefund} {u : Unit} (run : (refundFunding env refund).Returns db u db')
    (funding : 0 ≤ refund.fundingQuota) (extra : 0 ≤ refund.subscriptionExtraQuota) :
    FundingReturned refund db db' := by
  unfold refundFunding at run
  split at run
  · rename_i wallet
    rcases run.onlyIf with ⟨positive, run⟩ | ⟨nothing, rfl⟩
    · obtain ⟨-, written⟩ := run.updateWhere_bind.failIf
      have credited : db' = { db with users := db.users.update (userIs refund.userId) (User.credit refund.fundingQuota) } :=
        written
      refine ⟨fun userId => ?_, fun subscriptionId => ?_⟩
      · simpa [wallet, credited] using walletIn_credit db.users refund.userId userId refund.fundingQuota
      · simp [wallet, credited, giveBack]
    · have zero : refund.fundingQuota = 0 := by omega
      exact ⟨by simp [zero], by simp [wallet, giveBack]⟩
  · rename_i subscription
    obtain ⟨_, mid, pre, rest⟩ := run.bind
    have before : mid.users = db.users :=
      (Action.Keeps.onlyIf (refundSubscriptionPreConsumeTx_keeps _ (fun _ _ => rfl) fun _ _ => rfl)).returns pre
    have users : db'.users = db.users :=
      ((Action.Keeps.onlyIf (postConsumeUserSubscriptionDeltaTx_keeps _ _ fun _ _ => rfl)).returns rest).trans before
    refine ⟨fun userId => by simp [subscription, users], fun subscriptionId => ?_⟩
    have first : usedIn mid.userSubscriptions subscriptionId = (usedIn db.userSubscriptions subscriptionId).map
        (giveBack (if 0 < refund.fundingQuota then
          outstandingIn db.subscriptionPreConsumeRecords refund.requestId subscriptionId else 0)) := by
      rcases pre.onlyIf with ⟨positive, pre⟩ | ⟨nothing, rfl⟩
      · rw [if_pos positive]
        exact refundSubscriptionPreConsumeTx_giveBack pre subscriptionId
      · rw [if_neg nothing, map_giveBack_zero]
    have second : usedIn db'.userSubscriptions subscriptionId = (usedIn mid.userSubscriptions subscriptionId).map
        (giveBack (if subscriptionId = refund.subscriptionId then refund.subscriptionExtraQuota else 0)) := by
      rcases rest.onlyIf with ⟨positive, rest⟩ | ⟨nothing, rfl⟩
      · exact postConsume_giveBack rest positive subscriptionId
      · have zero : refund.subscriptionExtraQuota = 0 := by omega
        simp [zero, map_giveBack_zero]
    rw [second, first, Option.map_map]
    simp only [subscription, true_and]
    rfl
  · exact absurd run Action.Returns.fail

/-- Ids of tokens are unique, so an owner that was found owns the id. -/
theorem tokenOf_iff {t : Table Token} {id userId : Int} (found : t.count (tokenOf id userId) ≠ 0) :
    ∀ token ∈ t.rows, tokenOf id userId token = true ↔ token.id = id := by
  obtain ⟨owned, inside, selected⟩ := List.countP_pos_iff.mp (Nat.pos_of_ne_zero found)
  intro token member
  constructor
  · intro hit
    simp only [tokenOf, Bool.and_eq_true, beq_iff_eq] at hit
    exact hit.1
  · intro named
    have hit := selected
    simp only [tokenOf, Bool.and_eq_true, beq_iff_eq] at hit
    rw [Table.eq_of_id member inside (named.trans hit.1.symm)]
    exact selected

/-- What a refund returns to the tokens. -/
def TokenReturned (refund : BillingRefund) (db db' : DB) : Prop :=
  ∀ tokenId, tokenIn db'.tokens tokenId = (tokenIn db.tokens tokenId).map fun token =>
    let returned := if 0 < tokenId ∧ tokenId = refund.tokenId then refund.tokenQuota else 0
    (token.1 - returned, token.2.map (· + returned))

theorem refundToken_returns {refund : BillingRefund} {u : Unit} (run : (refundToken env refund).Returns db u db')
    (quota : 0 ≤ refund.tokenQuota) : TokenReturned refund db db' := by
  intro tokenId
  rcases run.onlyIf with ⟨⟨positive, named⟩, run⟩ | ⟨nothing, rfl⟩
  · obtain ⟨found, written⟩ := run.updateWhere_bind.failIf
    have returned : db'.tokens = db.tokens.update (tokenOf refund.tokenId refund.userId)
        (Token.giveBack env.now refund.tokenQuota) := congrArg DB.tokens written
    have owned : db.tokens.count (tokenOf refund.tokenId refund.userId) ≠ 0 := found
    rw [returned, tokenIn_update tokenId (tokenOf_iff owned), tokenIn, Option.map_map]
    refine Option.map_congr fun token _ => ?_
    by_cases same : tokenId = refund.tokenId
    · subst same
      cases unlimited : token.unlimitedQuota <;>
        simp [named, Token.giveBack, Token.spendable, unlimited]
    · simp [same]
  · have zero : (if 0 < tokenId ∧ tokenId = refund.tokenId then refund.tokenQuota else 0) = 0 := by
      split_ifs with named
      · rw [← named.2] at nothing
        omega
      · rfl
    simp [zero]

end Credit

end LLMHub
