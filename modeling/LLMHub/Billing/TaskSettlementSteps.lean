import LLMHub.Billing.TaskSettlement
import LLMHub.Billing.RefundSteps
import LLMHub.Store.Within

namespace LLMHub

open Store Action Go HasTable

section Frames
variable {env : Env} {β : Type} {g : DB → β}

theorem chargeUserTx_keeps (userId quota : Int) (missing insufficient : ModelError)
    (users : ∀ db t, g (withTable db (t : Table User)) = g db) :
    (chargeUserTx userId quota missing insufficient).Keeps g :=
  .bind (.updateWhere _ _ users) fun _ => .ite (.bind (.mapError (.findOr _ _) _) fun _ => .fail _) (.pure _)

theorem decreaseTokenQuotaTx_keeps (id quota : Int)
    (tokens : ∀ db t, g (withTable db (t : Table Token)) = g db) : (decreaseTokenQuotaTx env id quota).Keeps g :=
  .ite (.failIf _ _) <| .bind (.updateWhere _ _ tokens) fun _ => .ite (.pure _) <| .bind (.findOr _ _) fun _ => .fail _

theorem adjustToken_keeps (adjustment : BillingTokenAdjustment)
    (tokens : ∀ db t, g (withTable db (t : Table Token)) = g db) : (adjustToken env adjustment).Keeps g :=
  .ite (.mapError (decreaseTokenQuotaTx_keeps _ _ tokens) _) <| .bind (.updateWhere _ _ tokens) fun _ => .failIf _ _

theorem userSubscriptionAllowsWalletOverflow_keeps (id userId : Int) :
    (userSubscriptionAllowsWalletOverflow id userId).Keeps g :=
  .bind (.failIf _ _) fun _ => .bind (.findOr _ _) fun _ => .pure _

variable (settlement : BillingTaskSettlement)

theorem settlementFunding_keeps
    (users : ∀ db t, g (withTable db (t : Table User)) = g db)
    (subscriptions : ∀ db t, g (withTable db (t : Table UserSubscription)) = g db) :
    (settlementFunding env settlement).Keeps g := by
  unfold settlementFunding
  split
  · exact chargeUserTx_keeps _ _ _ _ users
  · refine .bind (.attempt (postConsumeUserSubscriptionDeltaTx_keeps _ _ subscriptions)) fun posted => ?_
    split
    · exact .pure _
    · exact .ite (.fail _) <| .bind (userSubscriptionAllowsWalletOverflow_keeps _ _) fun _ =>
        .bind (.failIf _ _) fun _ => chargeUserTx_keeps _ _ _ _ users
  · exact .fail _

theorem settlementToken_keeps
    (tokens : ∀ db t, g (withTable db (t : Table Token)) = g db) : (settlementToken env settlement).Keeps g :=
  .onlyIf <| .ite
    (.bind (.mapError (.findOr _ _) _) fun _ => .mapError (decreaseTokenQuotaTx_keeps _ _ tokens) _)
    (.bind (.updateWhere _ _ tokens) fun _ => .failIf _ _)

theorem settlementUsage_keeps (task : Task)
    (users : ∀ db t, g (withTable db (t : Table User)) = g db)
    (channels : ∀ db t, g (withTable db (t : Table Channel)) = g db) : (settlementUsage settlement task).Keeps g :=
  .bind (.updateWhere _ _ users) fun _ => .bind (.failIf _ _) fun _ =>
    .onlyIf <| .bind (.updateWhere _ _ channels) fun _ => .pure _

theorem settlementMoves_keeps (task : Task)
    (users : ∀ db t, g (withTable db (t : Table User)) = g db)
    (subscriptions : ∀ db t, g (withTable db (t : Table UserSubscription)) = g db)
    (tokens : ∀ db t, g (withTable db (t : Table Token)) = g db)
    (channels : ∀ db t, g (withTable db (t : Table Channel)) = g db) :
    (settlementMoves env settlement task).Keeps g :=
  .bind (settlementFunding_keeps _ users subscriptions) fun _ => .bind (settlementToken_keeps _ tokens) fun _ =>
    settlementUsage_keeps _ _ users channels

theorem settlementTask_keeps
    (tasks : ∀ db t, g (withTable db (t : Table Task)) = g db) : (settlementTask settlement).Keeps g :=
  .onlyIf <| .bind (.updateWhere _ _ tasks) fun _ => .failIf _ _

end Frames

section Adjustment
variable {env : Env} {db db' : DB}

/-- The transaction of an adjustment finds it complete, or applies a pending one
and completes it. -/
theorem processBillingTokenAdjustmentTx_returns {requestId : String} {r : BillingTokenAdjustment}
    (run : (processBillingTokenAdjustmentTx env requestId).Returns db r db') :
    ∃ adjustment, db.billingTokenAdjustments.first (adjustmentIs requestId) = some adjustment ∧
      ((adjustment.status = .complete ∧ db' = db) ∨
        (adjustment.status = .pending ∧ ∃ mid, (adjustToken env adjustment).Returns db () mid ∧
          db' = { mid with
            billingTokenAdjustments := db.billingTokenAdjustments.update
              (fun a => a.id == adjustment.id && a.status == .pending)
              (BillingTokenAdjustment.complete env.now adjustment.attemptCount) })) := by
  obtain ⟨adjustment, found, rest⟩ := run.findOr_bind
  refine ⟨adjustment, found, ?_⟩
  split at rest
  · rename_i complete
    exact Or.inl ⟨complete, rest.pure.2⟩
  · exact absurd rest Returns.fail
  · rename_i pending
    obtain ⟨_, mid, moved, rest⟩ := rest.bind
    obtain ⟨-, rfl⟩ := rest.updateWhere_bind.pure
    have same : mid.billingTokenAdjustments = db.billingTokenAdjustments :=
      (adjustToken_keeps adjustment fun _ _ => rfl).returns moved
    refine Or.inr ⟨pending, mid, moved, ?_⟩
    rw [← same]
    rfl

theorem processBillingTokenAdjustment_leaves {requestId : String}
    (left : (processBillingTokenAdjustment env requestId).Leaves db db') :
    (∃ r, (processBillingTokenAdjustmentTx env (trimSpace requestId)).Returns db r db') ∨ db' = db ∨
      ∃ cause, db' = { db with
        billingTokenAdjustments := db.billingTokenAdjustments.update
          (fun a => a.requestId == trimSpace (trimSpace requestId) && a.status == .pending)
          (BillingTokenAdjustment.recordFailure env.now cause) } := by
  rcases left.read (.failIf _ _) with same | ⟨_, -, left⟩
  · exact Or.inr (Or.inl same)
  rcases left.noted (fun _ => rfl) (fun _ => rfl) with returned | ⟨cause, noted⟩
  · exact Or.inl returned
  · rcases noted.logged with same | written
    · exact Or.inr (Or.inl same)
    · exact Or.inr (Or.inr ⟨cause, written⟩)

end Adjustment

/-- The stages of a task settlement that completes. -/
structure SettlementStages (env : Env) (settlement : BillingTaskSettlement) (db db' : DB) where
  task : Task
  moved : DB
  retasked : DB
  found : db.tasks.first (fun t => t.id == settlement.taskId && t.userId == settlement.userId) = some task
  charged : task.quota = settlement.preQuota
  move : (onlyIf (settlement.deltaQuota ≠ 0) (settlementMoves env settlement task)).Returns db () moved
  retask : (settlementTask settlement).Returns moved () retasked
  final : db' = { retasked with
    billingTaskSettlements := db.billingTaskSettlements.update (fun s => s.id == settlement.id && s.status == .pending)
      (BillingTaskSettlement.complete env.now settlement.attemptCount) }

section Settlement
variable {env : Env} {db db' : DB}

theorem processBillingTaskSettlementTx_returns {taskId : Int} {r : BillingTaskSettlement}
    (run : (processBillingTaskSettlementTx env taskId).Returns db r db') :
    ∃ settlement, db.billingTaskSettlements.first (settlementIs taskId) = some settlement ∧
      ((settlement.status = .complete ∧ db' = db) ∨
        (settlement.status = .pending ∧ Nonempty (SettlementStages env settlement db db'))) := by
  obtain ⟨settlement, found, rest⟩ := run.findOr_bind
  refine ⟨settlement, found, ?_⟩
  split at rest
  · rename_i complete
    exact Or.inl ⟨complete, rest.pure.2⟩
  · exact absurd rest Returns.fail
  · rename_i pending
    obtain ⟨task, early, read, checked⟩ := rest.bind
    obtain ⟨here, rfl⟩ := read.mapError.findOr
    obtain ⟨charged, checked⟩ := checked.failIf_bind
    obtain ⟨_, moved, move, after⟩ := checked.bind
    obtain ⟨_, retasked, retask, after⟩ := after.bind
    obtain ⟨-, after⟩ := after.updateWhere_bind.failIf_bind
    obtain ⟨-, rfl⟩ := after.pure
    have kept : moved.billingTaskSettlements = early.billingTaskSettlements :=
      (Keeps.onlyIf (settlementMoves_keeps settlement task (fun _ _ => rfl) (fun _ _ => rfl) (fun _ _ => rfl)
        fun _ _ => rfl)).returns move
    have same : retasked.billingTaskSettlements = moved.billingTaskSettlements :=
      (settlementTask_keeps settlement fun _ _ => rfl).returns retask
    refine Or.inr ⟨pending, ⟨task, moved, retasked, here, not_not.mp charged, move, retask, ?_⟩⟩
    rw [← kept, ← same]
    rfl

theorem recordBillingTaskSettlementFailure_leaves {taskId : Int} {cause : ModelError}
    (left : (recordBillingTaskSettlementFailure env taskId cause).Leaves db db') :
    db' = db ∨ ∃ backoff, db' = { db with
      billingTaskSettlements := db.billingTaskSettlements.update (fun s => settlementIs taskId s &&
          (s.status == .pending || (s.status == .complete && s.earningReleasedAt == 0)))
        (BillingTaskSettlement.recordFailure env.now backoff cause) } := by
  rcases left.read (.attempt (.findOr _ _)) with same | ⟨found, -, left⟩
  · exact Or.inl same
  cases found with
  | error e => exact Or.inl (ReadOnly.leaves (.pure ()) left)
  | ok settlement =>
    simp only at left
    split at left
    · exact Or.inl (ReadOnly.leaves (.pure ()) left)
    · rcases left.logged with same | written
      · exact Or.inl same
      · exact Or.inr ⟨_, written⟩

theorem processBillingTaskSettlement_leaves {taskId : Int}
    (left : (processBillingTaskSettlement env taskId).Leaves db db') :
    (∃ r, (processBillingTaskSettlementTx env taskId).Returns db r db') ∨ db' = db ∨
      ∃ backoff cause, db' = { db with
        billingTaskSettlements := db.billingTaskSettlements.update (fun s => settlementIs taskId s &&
            (s.status == .pending || (s.status == .complete && s.earningReleasedAt == 0)))
          (BillingTaskSettlement.recordFailure env.now backoff cause) } := by
  rcases left.read (.failIf _ _) with same | ⟨_, -, left⟩
  · exact Or.inr (Or.inl same)
  rcases left.noted (fun _ => rfl) (fun _ => rfl) with returned | ⟨cause, noted⟩
  · exact Or.inl returned
  · rcases recordBillingTaskSettlementFailure_leaves noted with same | ⟨backoff, written⟩
    · exact Or.inr (Or.inl same)
    · exact Or.inr (Or.inr ⟨backoff, cause, written⟩)

end Settlement

end LLMHub
