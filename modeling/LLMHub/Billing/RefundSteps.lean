import LLMHub.Billing.Refund
import LLMHub.Settlement.EarningSteps

namespace LLMHub

open Store Action Go HasTable

variable {env : Env} {db db' : DB} {β : Type} {g : DB → β}

/-- A delta that is not zero rewrites the used amount of the subscription,
within its total. -/
theorem postConsumeUserSubscriptionDeltaTx_returns {id delta : Int} {u : Unit}
    (run : (postConsumeUserSubscriptionDeltaTx env id delta).Returns db u db') (moves : delta ≠ 0) :
    ∃ sub, db.userSubscriptions.first (subscriptionIs id) = some sub ∧
      (0 < sub.amountTotal → usedAfter sub.amountUsed delta ≤ sub.amountTotal) ∧
      db' = { db with
        userSubscriptions := db.userSubscriptions.update (subscriptionIs id)
          (UserSubscription.setUsed env.now (usedAfter sub.amountUsed delta)) } := by
  obtain ⟨-, rest⟩ := run.failIf_bind
  rw [if_neg moves] at rest
  obtain ⟨sub, found, rest⟩ := rest.findOr_bind
  obtain ⟨within, rest⟩ := rest.failIf_bind
  have written := rest.updateWhere_bind.pure.2
  have named := Table.holds_of_first found
  obtain rfl : sub.id = id := beq_iff_eq.mp named
  refine ⟨sub, found, ?_, written⟩
  intro limited
  by_contra exceeded
  exact within ⟨limited, not_le.mp exceeded⟩

theorem postConsumeUserSubscriptionDeltaTx_keeps (id delta : Int)
    (apart : ∀ db t, g (withTable db (t : Table UserSubscription)) = g db) :
    (postConsumeUserSubscriptionDeltaTx env id delta).Keeps g :=
  .bind (.failIf _ _) fun _ => .ite (.pure _) <| .bind (.findOr _ _) fun _ => .bind (.failIf _ _) fun _ =>
    .bind (.updateWhere _ _ apart) fun _ => .pure _

variable {requestId : String} {r : BillingRefund} {t : Table BillingRefund}

/-- The pre-consumed amount of a request is given back once: the record that
allows it is used up. -/
theorem refundSubscriptionPreConsumeTx_returns {u : Unit}
    (run : (refundSubscriptionPreConsumeTx env requestId).Returns db u db') :
    ∃ record, db.subscriptionPreConsumeRecords.first (preConsumeRecordIs requestId) = some record ∧
      ((record.status = .refunded ∧ db' = db) ∨
        (record.status ≠ .refunded ∧ ∃ mid,
          ((0 < record.preConsumed ∧
              (postConsumeUserSubscriptionDeltaTx env record.userSubscriptionId (-record.preConsumed)).Returns db () mid) ∨
            (record.preConsumed ≤ 0 ∧ mid = db)) ∧
          db' = { mid with
            subscriptionPreConsumeRecords := mid.subscriptionPreConsumeRecords.update (fun r => r.id == record.id)
              (SubscriptionPreConsumeRecord.markRefunded env.now) })) := by
  obtain ⟨record, found, rest⟩ := run.findOr_bind
  refine ⟨record, found, ?_⟩
  split at rest
  · rename_i refunded
    exact Or.inl ⟨refunded, rest.pure.2⟩
  · rename_i consumed
    obtain ⟨_, mid, given, rest⟩ := rest.bind
    refine Or.inr ⟨consumed, mid, ?_, rest.updateWhere_bind.pure.2⟩
    rcases given.onlyIf with ⟨positive, given⟩ | ⟨nothing, same⟩
    · exact Or.inl ⟨positive, given⟩
    · exact Or.inr ⟨not_lt.mp nothing, same⟩

theorem refundSubscriptionPreConsumeTx_keeps (requestId : String)
    (subscriptions : ∀ db t, g (withTable db (t : Table UserSubscription)) = g db)
    (records : ∀ db t, g (withTable db (t : Table SubscriptionPreConsumeRecord)) = g db) :
    (refundSubscriptionPreConsumeTx env requestId).Keeps g :=
  .bind (.findOr _ _) fun _ => .ite (.pure _) <|
    .bind (.onlyIf (postConsumeUserSubscriptionDeltaTx_keeps _ _ subscriptions)) fun _ =>
      .bind (.updateWhere _ _ records) fun _ => .pure _

variable (refund : BillingRefund)

theorem refundFunding_keeps (users : ∀ db t, g (withTable db (t : Table User)) = g db)
    (subscriptions : ∀ db t, g (withTable db (t : Table UserSubscription)) = g db)
    (records : ∀ db t, g (withTable db (t : Table SubscriptionPreConsumeRecord)) = g db) :
    (refundFunding env refund).Keeps g := by
  unfold refundFunding
  split
  · exact .onlyIf <| .bind (.updateWhere _ _ users) fun _ => .failIf _ _
  · exact .bind (.onlyIf (refundSubscriptionPreConsumeTx_keeps _ subscriptions records)) fun _ =>
      .onlyIf (postConsumeUserSubscriptionDeltaTx_keeps _ _ subscriptions)
  · exact .fail _

theorem refundToken_keeps
    (tokens : ∀ db t, g (withTable db (t : Table Token)) = g db) : (refundToken env refund).Keeps g :=
  .onlyIf <| .bind (.updateWhere _ _ tokens) fun _ => .failIf _ _

theorem refundTask_keeps
    (tasks : ∀ db t, g (withTable db (t : Table Task)) = g db) : (refundTask refund).Keeps g :=
  .onlyIf <| .bind (.updateWhere _ _ tasks) fun _ => .pure _

/-- The stages of a refund that completes. -/
structure RefundStages (env : Env) (refund : BillingRefund) (db db' : DB) where
  cancelled : DB
  funded : DB
  returned : DB
  cleared : DB
  cancel : (cancelHubProviderEarningTx env refund.requestId).Returns db () cancelled
  fund : (refundFunding env refund).Returns cancelled () funded
  giveBack : (refundToken env refund).Returns funded () returned
  clear : (refundTask refund).Returns returned () cleared
  final : db' = { cleared with
    billingRefunds := cleared.billingRefunds.update (fun r => r.id == refund.id && r.status == .pending)
      (BillingRefund.complete env.now refund.attemptCount) }

variable {refund}

/-- After the cancellation, the money goes back. -/
theorem RefundStages.paid (stages : RefundStages env refund db db')
    (users : ∀ db t, g (withTable db (t : Table User)) = g db)
    (subscriptions : ∀ db t, g (withTable db (t : Table UserSubscription)) = g db)
    (records : ∀ db t, g (withTable db (t : Table SubscriptionPreConsumeRecord)) = g db)
    (tokens : ∀ db t, g (withTable db (t : Table Token)) = g db) : g stages.returned = g stages.cancelled :=
  ((refundToken_keeps refund tokens).returns stages.giveBack).trans
    ((refundFunding_keeps refund users subscriptions records).returns stages.fund)

def DB.intents (db : DB) : Table BillingTokenAdjustment × Table BillingRefund × Table BillingTaskSettlement :=
  (db.billingTokenAdjustments, db.billingRefunds, db.billingTaskSettlements)

/-- Refunds, like the other intents, are written at the very end only. -/
theorem RefundStages.intents (stages : RefundStages env refund db db') : stages.cleared.intents = db.intents := by
  have cancelled : stages.cancelled.intents = db.intents :=
    (cancelHubProviderEarningTx_keeps env refund.requestId fun _ _ => rfl).returns stages.cancel
  have paid : stages.returned.intents = stages.cancelled.intents :=
    stages.paid (fun _ _ => rfl) (fun _ _ => rfl) (fun _ _ => rfl) fun _ _ => rfl
  have cleared : stages.cleared.intents = stages.returned.intents :=
    (refundTask_keeps refund fun _ _ => rfl).returns stages.clear
  exact cleared.trans (paid.trans cancelled)

theorem RefundStages.refunds (stages : RefundStages env refund db db') :
    stages.cleared.billingRefunds = db.billingRefunds :=
  congrArg (·.2.1) stages.intents

/-- The transaction of a refund finds it complete, or takes a pending refund
through all of its stages. -/
theorem processBillingRefundTx_returns (run : (processBillingRefundTx env requestId).Returns db r db') :
    ∃ refund, db.billingRefunds.first (refundIs requestId) = some refund ∧
      ((refund.status = .complete ∧ db' = db) ∨
        (refund.status = .pending ∧ Nonempty (RefundStages env refund db db'))) := by
  obtain ⟨refund, found, rest⟩ := run.findOr_bind
  refine ⟨refund, found, ?_⟩
  split at rest
  · rename_i complete
    exact Or.inl ⟨complete, rest.pure.2⟩
  · exact absurd rest Returns.fail
  · rename_i pending
    obtain ⟨_, cancelled, cancel, rest⟩ := rest.bind
    obtain ⟨_, funded, fund, rest⟩ := rest.bind
    obtain ⟨_, returned, giveBack, rest⟩ := rest.bind
    obtain ⟨_, cleared, clear, rest⟩ := rest.bind
    exact Or.inr ⟨pending, ⟨cancelled, funded, returned, cleared, cancel, fund, giveBack, clear,
      rest.updateWhere_bind.pure.2⟩⟩

theorem refundId_of_first (found : t.first (refundIs requestId) = some r) : r.requestId = requestId := by
  have named := Table.holds_of_first found
  exact beq_iff_eq.mp named

theorem selects_refund (member : r ∈ t.rows) : t.Selects (refundIs r.requestId) r := by
  refine .of_unique (k := .text r.requestId) member (by simp [refundIs]) ?_
  intro y _ selected
  exact congrArg (fun text => some (Key.text text)) (beq_iff_eq.mp selected)

theorem selects_pendingRefund (member : r ∈ t.rows)
    (pending : r.status = .pending) : t.Selects (fun x => x.id == r.id && x.status == .pending) r := by
  refine .of_id member (by simp [pending]) ?_
  intro y _ selected
  simp only [Bool.and_eq_true, beq_iff_eq] at selected
  exact selected.1

/-- A failed refund leaves at most a note in its own pending record. -/
theorem processBillingRefund_leaves (run : (processBillingRefund env requestId).Leaves db db') :
    (∃ r, (processBillingRefundTx env (trimSpace requestId)).Returns db r db') ∨ db' = db ∨
      ∃ cause, db' = { db with
        billingRefunds := db.billingRefunds.update
          (fun r => r.requestId == trimSpace (trimSpace requestId) && r.status == .pending)
          (BillingRefund.recordFailure env.now cause) } := by
  rcases run.read (.failIf _ _) with same | ⟨_, -, run⟩
  · exact Or.inr (Or.inl same)
  rcases run.bind with ⟨e, failed⟩ | ⟨result, mid, tried, run⟩
  · exact absurd failed Fails.attempt
  rcases tried.attempt with ⟨r, rfl, returned⟩ | ⟨cause, rfl, failed⟩
  · rw [ReadOnly.leaves (.pure r) run]
    exact Or.inl ⟨r, returned.transaction⟩
  · rw [failed.transaction] at run
    refine Or.inr ?_
    rcases (run.then_readOnly fun _ => .fail _).bind with ⟨e, failed⟩ | ⟨noted, mid, tried, run⟩
    · exact absurd failed Fails.attempt
    · rw [ReadOnly.leaves (.pure ()) run]
      rcases tried.attempt with ⟨n, rfl, written⟩ | ⟨e, rfl, failed⟩
      · exact Or.inr ⟨cause, written.updateWhere.2⟩
      · exact Or.inl failed.updateWhere

theorem processBillingRefund_returns (run : (processBillingRefund env requestId).Returns db r db') :
    (processBillingRefundTx env (trimSpace requestId)).Returns db r db' := by
  obtain ⟨-, rest⟩ := run.failIf_bind
  obtain ⟨result, mid, tried, rest⟩ := rest.bind
  rcases tried.attempt with ⟨completed, rfl, returned⟩ | ⟨cause, rfl, -⟩
  · obtain ⟨rfl, rfl⟩ := rest.pure
    exact returned.transaction
  · obtain ⟨_, _, -, failed⟩ := rest.bind
    exact absurd failed Returns.fail

theorem createBillingRefundTx_leaves {params : BillingRefundParams}
    (run : (createBillingRefundTx env params).Leaves db db') :
    db' = db ∨ ∃ row t, db.billingRefunds.insert (params.record env.now) = some (row, t) ∧
      db' = { db with billingRefunds := t } := by
  rcases run.bind with ⟨e, failed⟩ | ⟨inserted, mid, written, rest⟩
  · exact Or.inl failed.execute
  rcases written.insertRow with ⟨row, t, rfl, stored, rfl⟩ | ⟨rfl, -, rfl⟩
  · exact Or.inr ⟨row, t, stored, ReadOnly.leaves (.pure row) rest⟩
  · refine Or.inl (ReadOnly.leaves ?_ rest)
    exact .bind (.findOr _ _) fun _ => .bind (.failIf _ _) fun _ => .pure _

theorem createBillingRefund_leaves {params : BillingRefundParams} (run : (createBillingRefund env params).Leaves db db') :
    db' = db ∨ ∃ row t, validateBillingRefundParams params.normalize = .ok () ∧
      db.billingRefunds.insert (params.normalize.record env.now) = some (row, t) ∧
      db' = { db with billingRefunds := t } := by
  rcases run.read (.ofExcept _) with same | ⟨_, valid, run⟩
  · exact Or.inl same
  · rcases createBillingRefundTx_leaves run with same | ⟨row, t, stored⟩
    · exact Or.inl same
    · exact Or.inr ⟨row, t, valid.ofExcept.1, stored⟩

end LLMHub
