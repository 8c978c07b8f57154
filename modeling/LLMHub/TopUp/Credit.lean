import LLMHub.TopUp.EpayNotify
import LLMHub.Billing.Charge

namespace LLMHub

open Store Action

/-- The columns of an order that nothing changes agree. -/
structure TopUp.Same (order t : TopUp) : Prop where
  id : t.id = order.id
  userId : t.userId = order.userId
  amount : t.amount = order.amount
  money : t.money = order.money
  paymentProvider : t.paymentProvider = order.paymentProvider

theorem TopUp.Same.refl (order : TopUp) : order.Same order := ⟨rfl, rfl, rfl, rfl, rfl⟩

/-- What the ways to complete an order add for it: its gateway's, and an
administrator's. -/
def TopUp.credits (setting : TopUpSetting) (order : TopUp) : List Int :=
  match order.paymentProvider with
  | .epay | .waffo | .waffoPancake => [setting.quotaOf order.amount, manualQuota setting order]
  | .stripe => [setting.stored order.money, manualQuota setting order]
  | .creem => [order.amount, manualQuota setting order]
  | _ => [manualQuota setting order]

theorem TopUp.Same.credits {order t : TopUp} (same : order.Same t) (setting : TopUpSetting) :
    t.credits setting = order.credits setting := by
  simp only [TopUp.credits, manualQuota, same.paymentProvider, same.amount, same.money]

/-- The amount is added to the user's wallet, if there is one, and to no other. -/
def WalletCredited (userId amount : Int) (users users' : Table User) : Prop :=
  ∀ k, walletIn users' k = (walletIn users k).map (· + if k = userId then amount else 0)

section Rows
variable {t : Table TopUp} {tradeNo : String} {row : TopUp}

/-- A save of a copy of the order replaces its row. -/
theorem first_overwrite (copy : TopUp) (found : t.first (topUpIs tradeNo) = some row) (same : row.Same copy) :
    ∃ kept, (t.update (fun x => x.id == copy.id) copy.overwrite).first (topUpIs tradeNo) = some kept ∧
      row.Same kept ∧ kept.status = copy.status := by
  have keeps : ∀ x, topUpIs tradeNo (copy.overwrite.set x) = topUpIs tradeNo x := fun _ => rfl
  have hit : (row.id == copy.id) = true := by simp [same.id]
  refine ⟨copy.overwrite.set row, ?_, ⟨rfl, same.userId, same.amount, same.money, same.paymentProvider⟩, rfl⟩
  rw [Table.first_update keeps, found, Option.map_some, Table.rewrite_pos (p := fun x : TopUp => x.id == copy.id) hit]

end Rows

section Commands
variable {db db' : DB} {u : Unit}

theorem TopUp.update_returns {topUp : TopUp} (run : topUp.update.Returns db u db') :
    db' = { db with topUps := db.topUps.update (fun t => t.id == topUp.id) topUp.overwrite } := by
  obtain ⟨n, mid, updated, rest⟩ := Returns.bind run
  obtain ⟨-, rfl⟩ := rest.pure
  exact updated.updateWhere.2

theorem creditUser_returns {userId amount : Int} {credit : Table.Assignment User}
    (adds : ∀ user, (credit.set user).quota = user.quota + amount)
    (kept : ∀ k user, userIs k (credit.set user) = userIs k user) (run : (creditUser userId credit).Returns db u db') :
    db'.topUps = db.topUps ∧ WalletCredited userId amount db.users db'.users := by
  obtain ⟨n, mid, updated, rest⟩ := Returns.bind run
  obtain ⟨-, rfl⟩ := rest.pure
  obtain ⟨-, rfl⟩ := updated.updateWhere
  refine ⟨rfl, fun k => (walletIn_update (kept k)).trans ?_⟩
  rw [walletIn, Option.map_map]
  refine congrArg (fun f => (db.users.first (userIs k)).map f) (funext fun user => ?_)
  split
  · simp only [Function.comp_apply, adds]
  · simp only [Function.comp_apply, Int.add_zero]

/-- The statement that credits the user adds the quota the operation computed. -/
def TopUpCompletion.Sound (completion : TopUpCompletion) : Prop :=
  ∀ (topUp : TopUp) (db db' : DB) (u : Unit), (completion.credit topUp).Returns db u db' →
    db'.topUps = db.topUps ∧ WalletCredited topUp.userId (completion.quota topUp) db.users db'.users

theorem stripeCompletion_sound (setting : TopUpSetting) (customerId : String) :
    (stripeCompletion setting customerId).Sound :=
  fun _ _ _ _ run => creditUser_returns (fun _ => rfl) (fun _ _ => rfl) run

theorem creemCompletion_sound (customerEmail : String) : (creemCompletion customerEmail).Sound := by
  intro topUp db db' u run
  simp only [creemCompletion] at run
  split at run
  · obtain ⟨user, -, rest⟩ := run.findOr_bind
    exact creditUser_returns (fun _ => rfl) (fun _ _ => rfl) rest
  · exact creditUser_returns (fun _ => rfl) (fun _ _ => rfl) run

theorem waffoCompletion_sound (setting : TopUpSetting) (provider : PaymentProvider) :
    (waffoCompletion setting provider).Sound :=
  fun _ _ _ _ run => creditUser_returns (fun _ => rfl) (fun _ _ => rfl) run

theorem manualCompletion_sound (setting : TopUpSetting) : (manualCompletion setting).Sound :=
  fun _ _ _ _ run => creditUser_returns (fun _ => rfl) (fun _ _ => rfl) run

/-- What a transaction makes of a pending order: it closes it without a
credit, or completes it with one of its credits. -/
inductive TopUpCall.Effect (setting : TopUpSetting) (op : TopUpCall) (row : TopUp) (db db' : DB) : Prop
  | closed (expected : Option PaymentProvider) (target : TopUpStatus) (call : op = .updatePending expected target)
      (after : db' = { db with topUps := db.topUps.update (fun t => t.id == row.id) { row with status := target }.overwrite })
  | completed (now amount : Int) (listed : amount ∈ row.credits setting)
      (topUps : db'.topUps =
        db.topUps.update (fun t => t.id == row.id) { row with completeTime := now, status := .success }.overwrite)
      (credited : WalletCredited row.userId amount db.users db'.users)

section Completion
variable {setting : TopUpSetting} {now : Int} {tradeNo : String} {completion : TopUpCompletion} {op : TopUpCall}

theorem completeTopUpTx_returns (sound : completion.Sound)
    (listed : ∀ row, (∀ p ∈ completion.provider, p = row.paymentProvider) → completion.quota row ∈ row.credits setting)
    (run : (completeTopUpTx now tradeNo completion).Returns db u db') :
    db' = db ∨ ∃ row, db.topUps.first (topUpIs tradeNo) = some row ∧ row.status = .pending ∧
      op.Effect setting row db db' := by
  obtain ⟨row, mid, read, rest⟩ := Returns.bind run
  obtain ⟨found, rfl⟩ := read.mapError.findOr
  obtain ⟨accepted, after⟩ := rest.failIf_bind
  split at after
  · exact Or.inl after.pure.2
  · obtain ⟨pending, after⟩ := after.failIf_bind
    obtain ⟨-, after⟩ := after.failIf_bind
    obtain ⟨_, saved, updated, credit⟩ := Returns.bind after
    obtain rfl := TopUp.update_returns updated
    obtain ⟨topUps, credited⟩ := sound _ _ _ _ credit
    refine Or.inr ⟨row, found, Classical.not_not.mp pending, .completed now (completion.quota row) ?_ topUps credited⟩
    refine listed row fun p given => ?_
    by_contra other
    exact accepted (by simp [Option.any, Option.mem_def.mp given, other])

theorem rechargeWith_leaves (sound : completion.Sound)
    (listed : ∀ row, (∀ p ∈ completion.provider, p = row.paymentProvider) → completion.quota row ∈ row.credits setting)
    (left : (rechargeWith now tradeNo completion).Leaves db db') :
    db' = db ∨ ∃ row, db.topUps.first (topUpIs tradeNo) = some row ∧ row.status = .pending ∧
      op.Effect setting row db db' := by
  rcases left.read (Keeps.failIf _ _) with same | ⟨_, -, rest⟩
  · exact Or.inl same
  · rcases rest.mapError.transaction with ⟨a, run⟩ | same
    · exact completeTopUpTx_returns sound listed run
    · exact Or.inl same

theorem updatePendingTopUpStatus_leaves {expected : Option PaymentProvider} {target : TopUpStatus}
    (left : (updatePendingTopUpStatus tradeNo expected target).Leaves db db') :
    db' = db ∨ ∃ row, db.topUps.first (topUpIs tradeNo) = some row ∧ row.status = .pending ∧
      (TopUpCall.updatePending expected target).Effect setting row db db' := by
  rcases left.read (Keeps.failIf _ _) with same | ⟨_, -, rest⟩
  · exact Or.inl same
  · rcases rest.transaction with ⟨a, run⟩ | same
    · obtain ⟨row, mid, read, checked⟩ := Returns.bind run
      obtain ⟨found, rfl⟩ := read.mapError.findOr
      obtain ⟨-, after⟩ := checked.failIf_bind
      obtain ⟨pending, after⟩ := after.failIf_bind
      exact Or.inr ⟨row, found, Classical.not_not.mp pending, .closed expected target rfl (TopUp.update_returns after)⟩
    · exact Or.inl same

/-- Each transaction does nothing or finds the order pending and settles it. -/
theorem TopUpCall.leaves (left : (op.command setting tradeNo).Leaves db db') :
    db' = db ∨ ∃ row, db.topUps.first (topUpIs tradeNo) = some row ∧ row.status = .pending ∧
      op.Effect setting row db db' := by
  cases op with
  | recharge now customerId =>
    refine rechargeWith_leaves (stripeCompletion_sound setting customerId) (fun row given => ?_) left
    simp [TopUp.credits, stripeCompletion, ← given _ rfl]
  | rechargeCreem now customerEmail =>
    refine rechargeWith_leaves (creemCompletion_sound customerEmail) (fun row given => ?_) left
    simp [TopUp.credits, creemCompletion, ← given _ rfl]
  | rechargeWaffo now =>
    refine rechargeWith_leaves (waffoCompletion_sound setting .waffo) (fun row given => ?_) left
    simp [TopUp.credits, waffoCompletion, ← given _ rfl]
  | rechargeWaffoPancake now =>
    refine rechargeWith_leaves (waffoCompletion_sound setting .waffoPancake) (fun row given => ?_) left
    simp [TopUp.credits, waffoCompletion, ← given _ rfl]
  | manualComplete now =>
    rcases Leaves.read left (Keeps.failIf _ _) with same | ⟨_, -, rest⟩
    · exact Or.inl same
    · rcases rest.transaction with ⟨a, run⟩ | same
      · refine completeTopUpTx_returns (manualCompletion_sound setting) (fun row _ => ?_) run
        simp only [TopUp.credits, manualCompletion]
        split <;> simp
      · exact Or.inl same
  | updatePending expected target => exact updatePendingTopUpStatus_leaves left

end Completion
end Commands
end LLMHub
